import DartBundle.Script.Command.Options
import DartBundle.Script.Executable
import DartBundle.Script.Parse
/-!
This module contains the commands that tell what the name of a command means, and those that give it
a meaning.
-/

namespace DartBundle

namespace Script

def regularCommands : List String :=
  ["[", "cd", "chdir", "command", "echo", "false", "getopts", "kill", "printf", "pwd", "read", "test",
    "true", "type", "wait"]

inductive Meaning
  | function (body : Program)
  | special
  | regular
  | file (path : Octets)
  | missing (fault : FileFault)

namespace Shell

def meaning (s : Shell) (functions : Bool) (searched : Octets) (name : Octets) : Meaning :=
  if name.contains '/' then
    .file name
  else
    match if functions then s.functions.lookup name else none with
    | some body => .function body
    | none =>
      let text := String.ofList name
      if specialCommands.contains text then
        .special
      else if regularCommands.contains text then
        .regular
      else
        match Executable.search s.files searched name with
        | .ok file => .file file
        | .error fault => .missing fault

def searchPath (s : Shell) : Octets :=
  (s.setting? "PATH").getD []

def noteFound (name file : Octets) : Act Unit := do
  if !name.contains '/' then
    modify fun s => { s with found := s.found.insert name file }

def describe (inWords : Bool) (searched : Option Octets) (name : Octets) : Act Nat := do
  let s ← get
  let tell (words : String) : Act Nat :=
    put (name ++ (if inWords then Octets.ascii words else []) ++ ['\n'])
  let path := searched.getD s.searchPath
  if keywords.contains (String.ofList name) then
    tell " is a shell keyword"
  else
    let missing : Act Nat := do
      if inWords then
        let _ ← put (name ++ Octets.ascii ": not found\n")
      return 127
    match s.meaning true path name with
    | .function _ => tell " is a shell function"
    | .special => tell " is a special shell builtin"
    | .regular => tell " is a shell builtin"
    | .file file =>
      let tracked := searched.isNone && (s.found.lookup name).isSome
      if (s.files.find (Shell.path file) true).toOption.isNone then
        missing
      else
        if searched.isNone then
          noteFound name file
        if inWords then
          put (name ++ Octets.ascii (if tracked then " is a tracked alias for " else " is ") ++
            file ++ ['\n'])
        else
          put (file ++ ['\n'])
    | .missing _ => missing

def typeNames (words : List Octets) : Act Nat := do
  let mut status := 0
  for word in words do
    status := max status (← describe true none word)
  return status

end Shell

end Script

end DartBundle
