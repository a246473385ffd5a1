import DartBundle.Script.Redirect
import DartBundle.Script.Tool.Quoted
/-!
This module contains what a program of the machine is: something that is called with arguments,
works on files and descriptors, and ends with a status.
-/

namespace DartBundle

namespace Script

structure Call where
  name : Octets
  arguments : List Octets

abbrev Tool := Call → Act Nat

def phrase (front : String) (word : Octets) (behind : String := "") : Octets :=
  Octets.ascii front ++ word ++ Octets.ascii behind

namespace Call

def complain (call : Call) (text : Octets) : Act Unit :=
  Shell.complain (call.name ++ [':', ' '] ++ text)

def complainOf (call : Call) (text : Octets) (fault : FileFault) : Act Unit :=
  call.complain (text ++ [':', ' '] ++ Octets.ofText (describeFault fault))

def fail (call : Call) (status : Nat) (text : Octets) : Act Nat := do
  call.complain text
  return status

def advise (call : Call) : Act Unit :=
  Shell.complain (phrase "Try '" call.name " --help' for more information.")

def misuse (call : Call) (status : Nat) (text : Octets) : Act Nat := do
  call.complain text
  call.advise
  return status

def forEach (words : List Octets) (act : Octets → Act Bool) : Act Nat := do
  let mut status := 0
  for word in words do
    if !(← act word) then
      status := 1
  return status

def succeeds (call : Call) (text : Octets) (operation : Disk Unit) : Act Bool := do
  match ← Shell.onFiles operation with
  | .ok _ => return true
  | .error fault => do
    call.complainOf text fault
    return false

def readDescriptor (descriptor : Nat) : Act (Except FileFault Octets) := do
  match ← Shell.readAll descriptor, (← get).channel? descriptor with
  | some octets, _ => return .ok octets
  | none, some .directory => return .error .isADirectory
  | none, _ => return .error (.other "Bad file descriptor")

def readFile (word : Octets) : Act (Except FileFault Octets) := do
  match Shell.describedBy? word with
  | some descriptor => readDescriptor descriptor
  | none => return ((← get).files.read (Shell.path word)).map Octets.ofBytes

def read (word : Octets) : Act (Except FileFault Octets) :=
  if word = ['-'] then readDescriptor 0 else readFile word

def orInput (words : List Octets) : List Octets :=
  if words.isEmpty then [['-']] else words

end Call

end Script

end DartBundle
