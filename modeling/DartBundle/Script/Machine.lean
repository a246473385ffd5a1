import DartBundle.Compiler.Machine
import DartBundle.Script.Evaluate
/-!
This module contains the machine whose programs lie in the file tree: scripts and what they call.
-/

namespace DartBundle

namespace Script

def turns : Nat := 1000000000

def start (t : FileTree) (settings : List (Octets × Octets)) (name : Octets) : Shell := {
  number := 4242
  shell := 4242
  name
  settings := settings.foldl
    (fun table (name, value) => table.insert name { value := some value, exported := true }) .empty
  descriptors := ((Table.empty.insert 0 0).insert 1 1).insert 2 2
  directory := Octets.ofText (FileTree.pathText t.current)
  files := t
  channels := [.nothing, .sink [] none, .sink [] none]
  nextNumber := 4243
}

/--
How many milliseconds pass before a program starts, and again when it has ended.
-/
def interval : Nat := 10

def runProgram (t : FileTree) (settings : List (Octets × Octets)) (image : Executable.Image) :
    Run × FileTree :=
  let t := t.later interval
  let (ended, s) : Bool × Shell :=
    match runImage turns image (start t settings image.name) with
    | .ok _ s => (true, s)
    | .error (.signal _) s => (false, s)
    | .error .exhausted s => (false, s)
    | .error _ s => (true, s)
  let written (number : Nat) : ByteArray :=
    ((s.channels[number]?.map Channel.written).getD []).toBytes
  ({
    exitCode := if ended then some ((s.status % 256 : Nat) : Int) else none
    stdout := written 1
    stderr := written 2
    milliseconds := s.files.now - t.now
  }, { s.files.later interval with current := t.current })

def machine (settings : List (String × String)) : Machine := fun command t => do
  let words := command.program :: command.directory.toList ++ command.arguments
  if words.any fun word => word.toList.contains '\x00' then
    throw .nulInWord
  let (equipped, added) := Executable.equip t
  let inside ← match command.directory with
    | some directory => equipped.enter directory
    | none => .ok equipped
  let arguments := command.arguments.map Octets.ofText
  let image ← Executable.load inside Executable.maxInterpreters (Octets.ofText command.program)
    arguments
  let (run, after) := runProgram inside
    (settings.map fun (name, value) => (Octets.ofText name, Octets.ofText value)) image
  return (run, Executable.strip { after with current := t.current } added)

end Script

end DartBundle
