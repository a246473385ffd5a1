import DartBundle.Script.Command.Directory
import DartBundle.Script.Command.Naming
import DartBundle.Script.Command.Signal
import DartBundle.Script.Command.Variable
import DartBundle.Script.Condition
import DartBundle.Script.Print
/-!
This module contains the commands of the shell that need no more than their arguments.
-/

namespace DartBundle

namespace Script

namespace Shell

def naturalOr (default : Nat) (words : List Octets) : Act Nat :=
  match words with
  | [] => return default
  | word :: _ => natural word

def loopCount (words : List Octets) : Act Nat := do
  let n ← naturalOr 1 words
  if n = 0 then
    fault (Octets.ascii "Illegal number: " ++ words.head?.getD [])
  return min n (← get).loops

def exitScript (words : List Octets) : Act Nat := do
  let s ← get
  setStatus (← naturalOr (s.interrupted.getD s.status) words)
  throw .exit

def returnFrom (words : List Octets) : Act Nat := do
  setStatus (← naturalOr (← get).status words)
  throw .returned

def breakLoops (words : List Octets) : Act Nat := do
  let n ← loopCount words
  if 0 < n then
    setStatus 0
    throw (.leave n)
  return 0

def continueLoops (words : List Octets) : Act Nat := do
  let n ← loopCount words
  if 0 < n then
    setStatus 0
    throw (.next n)
  return 0

def command? (name : Octets) : Option (List Octets → Act Nat) :=
  match String.ofList name with
  | ":" => some fun _ => return 0
  | "true" => some fun _ => return 0
  | "false" => some fun _ => return 1
  | "echo" => some fun words => put (echoText words)
  | "printf" => some printFormat
  | "test" => some testCondition
  | "[" => some testBracket
  | "cd" => some changeDirectory
  | "chdir" => some changeDirectory
  | "pwd" => some printDirectory
  | "read" => some readVariables
  | "kill" => some kill
  | "export" => some exportVariables
  | "readonly" => some protectVariables
  | "local" => some makeLocal
  | "unset" => some unsetNames
  | "set" => some setArguments
  | "shift" => some shiftArguments
  | "getopts" => some findOption
  | "exit" => some exitScript
  | "return" => some returnFrom
  | "break" => some breakLoops
  | "continue" => some continueLoops
  | "trap" => some trap
  | "type" => some typeNames
  | _ => none

end Shell

end Script

end DartBundle
