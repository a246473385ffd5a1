import DartBundle.Script.Command.Options
import DartBundle.Script.Executable
/-!
This module contains the commands `cd` and `pwd`. The current directory is known by the path that
has led to it, in which `..` takes back a step.
-/

namespace DartBundle

namespace Script

namespace Shell

/--
The path that leads from a directory along another path, as far as the texts tell.
-/
def stepPath (directory path : Octets) : Octets :=
  let absolute := path.head? = some '/'
  let doubled (path : Octets) : Bool := path.take 2 = ['/', '/'] && path[2]? ≠ some '/'
  let top := if doubled (if absolute then path else directory) then ['/', '/'] else ['/']
  let steps := (if absolute then [] else List.splitOn '/' directory) ++ List.splitOn '/' path
  let taken := steps.foldl (fun taken step =>
    if step.isEmpty || step = ['.'] then taken
    else if step = ['.', '.'] then taken.drop 1
    else step :: taken) []
  top ++ ['/'].intercalate taken.reverse

def physicalDirectory (s : Shell) : Octets :=
  Octets.ofText (FileTree.pathText s.files.current)

def enterDirectory (physical : Bool) (target : Octets) : Act Bool := do
  let s ← get
  let target := if physical then target else stepPath s.directory target
  match s.files.enter (path target) with
  | .error _ => return false
  | .ok files => do
    set { s with
      files
      directory := if physical then Octets.ofText (FileTree.pathText files.current) else target }
    let publish (name : String) (value : Octets) : Act Unit := do
      setVariable name.toList value
      putVariable name.toList { value := some value, exported := true }
    publish "OLDPWD" s.directory
    publish "PWD" (← get).directory
    return true

def changeDirectory (words : List Octets) : Act Nat := do
  let (options, words) ← takeOptions "LP" words
  let physical := options.getLast?.any fun (c, _) => c = 'P'
  let s ← get
  let (given, telling) := match words with
    | [] => ((s.setting? "HOME").getD [], false)
    | ['-'] :: _ => ((s.setting? "OLDPWD").getD [], true)
    | word :: _ => (word, false)
  let first := (List.splitOn '/' given).head?.getD []
  let target := if given.isEmpty then ['.'] else given
  let found := match given with
    | '/' :: _ => none
    | _ =>
      if first = ['.'] || first = ['.', '.'] then
        none
      else
        (Executable.candidates ((s.setting? "CDPATH").getD []) target).find? fun directory =>
          s.files.isDirectory (path directory)
  let place := found.getD target
  if !(← enterDirectory physical place) then
    fault (Octets.ascii "can't cd to " ++ given)
  if telling || place ≠ target then
    put ((← get).directory ++ ['\n'])
  else
    return 0

def printDirectory (words : List Octets) : Act Nat := do
  let (options, _) ← takeOptions "LP" words
  let physical := options.getLast?.any fun (c, _) => c = 'P'
  let s ← get
  put ((if physical then s.physicalDirectory else s.directory) ++ ['\n'])

end Shell

end Script

end DartBundle
