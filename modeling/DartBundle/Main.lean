import DartBundle.CommandLine.Run
import DartBundle.Script.Machine
/-!
This module contains the program. It reads the files that a command may look at into a file tree,
runs the command on the tree and writes back what the command has changed.
-/

namespace DartBundle

namespace CommandLine

def Request.mentioned : Request → List (String × Bool)
  | .build _ graph packages stagingDirectory outputDirectory sdk _ =>
    (graph, false) ::
      (packages.filterMap fun text => (parsePackage text).toOption.map fun (_, d) => (d, true))
      ++ (stagingDirectory.toList ++ [outputDirectory]).map (·, true) ++ sdkFiles sdk
  | .closure _ graph => [(graph, false)]
  | .arguments _ stagingDirectory sdk _ => (stagingDirectory, false) :: sdkFiles sdk
where
  sdkFiles (sdk : Option String) : List (String × Bool) :=
    sdk.toList.flatMap fun root =>
      [((Sdk.mk root).machine, false), ((Sdk.mk root).compilerSnapshot, false)]

def locationOf (path : String) : Location :=
  (Path.steps path).reverse

def looksExecutable (content : ByteArray) : Bool :=
  content.toList.take 2 = "#!".toUTF8.toList

mutual

/--
Reads the steps of a path, from a directory that has been read already.
-/
partial def readSteps (t : FileTree) (deep : Bool) (here : Location) : List String → IO FileTree
  | [] => do
    if deep && t.kind? here = some .directory then readBelow t here else return t
  | ".." :: rest => readSteps t deep here.tail rest
  | "." :: rest => readSteps t deep here rest
  | name :: rest => do
    let l := name :: here
    match ← (IO.FS.realPath (FileTree.pathText l)).toBaseIO with
    | .error _ => return t
    | .ok real =>
      if real.toString ≠ FileTree.pathText l then
        let t := t.create l (.link real.toString) 0o777
        readSteps t deep [] (Path.steps real.toString ++ rest)
      else if ← real.isDir then
        readSteps (if (t.get? l).isSome then t else t.create l .directory 0o755) deep l rest
      else if (t.get? l).isSome then
        return t
      else
        let content ← IO.FS.readBinFile real
        return t.create l (.file content) (if looksExecutable content then 0o755 else 0o644)

/--
Reads all that lies below a directory.
-/
partial def readBelow (t : FileTree) (l : Location) : IO FileTree := do
  let directory ← IO.FS.realPath (FileTree.pathText l)
  let mut t := t
  for entry in ← directory.readDir do
    if (t.get? (entry.fileName :: l)).isNone then
      t ← readSteps t true l [entry.fileName]
  return t

end

def writeBack (earlier later : FileTree) : IO Unit := do
  for (l, _) in earlier.entries.entries do
    if (later.get? l).isNone then
      let path := FileTree.pathText l
      match earlier.kind? l with
      | some .directory => discard (IO.FS.removeDirAll path).toBaseIO
      | _ => discard (IO.FS.removeFile path).toBaseIO
  for (l, entry) in later.entries.entries.mergeSort fun a b => a.1.length ≤ b.1.length do
    if earlier.kind? l ≠ some entry.kind then
      match entry.kind with
      | .directory => IO.FS.createDirAll (FileTree.pathText l)
      | .file content => IO.FS.writeBinFile (FileTree.pathText l) content
      | .link _ => pure ()

def readTree (args : List String) (searched home temporary : String) : IO FileTree := do
  let current := locationOf (← IO.currentDir).toString
  let start : FileTree := { FileTree.empty with current }
  let mentioned := match read false args with
    | .request request _ => request.mentioned
    | _ => []
  let found := (Text.split ':' searched.toList).map fun directory =>
    (Path.join (Path.expandHome home (String.ofList directory)) "dart", false)
  let mut t ← readSteps start false [] (locationOf (FileTree.pathText current)).reverse
  for (path, deep) in (temporary, false) :: found ++ mentioned do
    t ← readSteps t deep (t.start path) (Path.steps path)
  for (path, _) in found do
    let machine := (t.canonical path).toOption
    match (machine.bind Path.parent?).bind Path.parent? with
    | some root => t ← readSteps t false [] (Path.steps (Sdk.mk root).compilerSnapshot)
    | none => pure ()
  return t

end CommandLine

end DartBundle

open DartBundle in
def main (args : List String) : IO UInt32 := do
  let searched := (← IO.getEnv "PATH").getD ""
  let options := (← IO.getEnv "DART_VM_OPTIONS").getD ""
  let temporary := (← IO.getEnv "TMPDIR").getD "/tmp"
  let home := (← IO.getEnv "HOME").getD "~"
  let earlier ← CommandLine.readTree args searched home temporary
  let env : CommandLine.Environment := {
    searched
    home
    machineOptions := options
    temporary
    machine := Script.machine [("PATH", searched), ("DART_VM_OPTIONS", options)]
  }
  let (finish, later) := CommandLine.run env args earlier
  CommandLine.writeBack earlier later
  (← IO.getStdout).putStr finish.stdout
  (← IO.getStderr).putStr finish.stderr
  return UInt32.ofNat finish.exitCode
