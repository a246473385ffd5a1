import DartBundle.FileTree.Operations
import DartBundle.Script.Octets
/-!
This module contains what is run when a file is run. A program of the machine is a file that starts
with a mark and names the program; any other file is run by the program that its first line names.
-/

namespace DartBundle

namespace Script

namespace Executable

/--
What the file of a program starts with, in front of its name.
-/
def mark : Octets :=
  ['\x7f', 'E', 'L', 'F']

def programs : List String :=
  ["basename", "cat", "chmod", "cmp", "cp", "cut", "dirname", "find", "grep", "head", "ln", "ls",
    "mkdir", "mv", "od", "readlink", "rm", "rmdir", "sed", "sh", "sleep", "sort", "stat", "tail",
    "touch", "tr", "uniq", "wc"]

def programFile (name : String) : Entry.Kind :=
  .file (Octets.toBytes (mark ++ name.toList))

def standard : List (Location × Entry.Kind × Nat) :=
  [(["usr"], .directory, 0o755), (["bin", "usr"], .directory, 0o755),
    (["bin"], .link "usr/bin", 0o777), (["dev"], .directory, 0o755),
    (["null", "dev"], .file .empty, 0o666), (["tmp"], .directory, 0o1777),
    (["etc"], .directory, 0o755), (["root"], .directory, 0o700), (["home"], .directory, 0o755)] ++
  programs.map fun name => ([name, "bin", "usr"], programFile name, 0o755)

def equip (t : FileTree) : FileTree × List (Location × Entry) :=
  let missing := standard.filter fun (l, _) => (t.get? l).isNone
  let equipped := missing.foldl (fun t (l, kind, mode) => t.create l kind mode) t
  (equipped, missing.filterMap fun (l, _) => (equipped.get? l).map fun entry => (l, entry))

/--
Takes away what has been added, as far as it is as it was, and what has no name.
-/
def strip (t : FileTree) (added : List (Location × Entry)) : FileTree :=
  let idle (t : FileTree) (l : Location) (entry : Entry) : Bool :=
    t.get? l = some entry && (!entry.isDirectory || (t.names l).isEmpty)
  let stripped :=
    added.reverse.foldl (fun t (l, entry) => if idle t l entry then t.vacate l else t) t
  { stripped with nameless := [] }

structure Image where
  program : String
  name : Octets
  arguments : List Octets

def isBlank (c : Char) : Bool :=
  c = ' ' || c = '\t'

def interpreter? (content : Octets) : Option (Octets × Option Octets) :=
  match content.take 256 with
  | '#' :: '!' :: front =>
    let (line, ended) := Octets.cutLine front
    let line := line.dropWhile isBlank
    let (name, rest) := line.span fun c => !isBlank c
    let argument := ((rest.dropWhile isBlank).reverse.dropWhile isBlank).reverse
    if name.isEmpty || (ended.isNone && rest.isEmpty && 256 ≤ content.length) then none
    else some (name, if argument.isEmpty then none else some argument)
  | _ => none

def load (t : FileTree) : Nat → Octets → List Octets → Except FileFault Image
  | 0, _, _ => .error .tooManyLinks
  | depth + 1, file, arguments => do
    let (_, e) ← t.find file.toText true
    match e.kind, e.isExecutable with
    | .file content, true =>
      let content := Octets.ofBytes (content.extract 0 256)
      if mark.isPrefixOf content then
        .ok ⟨String.ofList (content.drop mark.length), file, arguments⟩
      else
        match interpreter? content with
        | none => .error .notExecutable
        | some (name, argument) => load t depth name (argument.toList ++ file :: arguments)
    | _, _ => .error .permissionDenied

def maxInterpreters : Nat := 6

def candidates (searched name : Octets) : List Octets :=
  (Text.split ':' searched).map fun directory =>
    if directory.isEmpty then name else directory ++ '/' :: name

def search (t : FileTree) (searched name : Octets) : Except FileFault Octets :=
  let files := candidates searched name
  match files.find? fun file => t.isExecutable file.toText with
  | some file => .ok file
  | none => .error <| files.foldl (fun fault file =>
      match t.find file.toText true with
      | .ok _ => .permissionDenied
      | .error .notFound => fault
      | .error .notADirectory => fault
      | .error other => other) .notFound

end Executable

end Script

end DartBundle
