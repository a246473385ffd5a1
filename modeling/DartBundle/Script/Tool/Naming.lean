import DartBundle.Script.Tool.Record
/-!
This module contains how paths are taken apart and put together, and the programs that only do that:
`basename`, `dirname` and `readlink`.
-/

namespace DartBundle

namespace Octets

def trimSlashes (path : Octets) : Octets :=
  let trimmed := (path.reverse.dropWhile (· = '/')).reverse
  if trimmed.isEmpty && !path.isEmpty then ['/'] else trimmed

def lastSegment (path : Octets) : Octets :=
  match trimSlashes path with
  | ['/'] => ['/']
  | trimmed => (trimmed.reverse.takeWhile (· ≠ '/')).reverse

def withoutLastSegment (path : Octets) : Octets :=
  match trimSlashes path with
  | ['/'] => ['/']
  | trimmed =>
    let front := (trimmed.reverse.dropWhile (· ≠ '/')).reverse
    if front.isEmpty then ['.'] else trimSlashes front

def inDirectory (directory name : Octets) : Octets :=
  if directory.getLast? = some '/' then directory ++ name else directory ++ '/' :: name

end Octets

namespace Script

namespace Tool

def maxDepth : Nat := 1000

def basename : Tool := fun call =>
  call.withOptions "" 1 fun o =>
    call.withOperands o fun path rest => do
      match rest with
      | _ :: word :: _ => call.extra word
      | rest => do
        let name := Octets.lastSegment path
        let ending := rest.head?.getD []
        let cut := ending.isSuffixOf name && ending ≠ name
        let _ ← Shell.print
          ((if cut then name.take (name.length - ending.length) else name) ++ ['\n'])
        return 0

def dirname : Tool := fun call =>
  call.withOptions "" 1 fun o =>
    call.withOperands o fun first rest => do
      (first :: rest).forM fun path => do
        let _ ← Shell.print (Octets.withoutLastSegment path ++ ['\n'])
      return 0

def resolved (t : FileTree) (word : Octets) : Except FileFault Octets := do
  let path := Shell.path word
  let text (l : Location) : Octets := Octets.ofText (FileTree.pathText l)
  let l ← t.follow path true
  if (t.get? l).any (·.isFile) then
    return text (← t.find path true).1
  else
    return text l

def readlink : Tool := fun call =>
  call.withOptions "f" 1 fun o =>
    call.withOperands o fun first rest => do
      let t := (← get).files
      Call.forEach (first :: rest) fun word => do
        let found : Except FileFault Octets :=
          if o.has 'f' then resolved t word
          else match t.find (Shell.path word) false with
            | .ok (_, { kind := .link target, .. }) => .ok (Octets.ofText target)
            | .ok _ => .error (.other "Invalid argument")
            | .error fault => .error fault
        match found with
        | .ok text => Shell.print (text ++ ['\n'])
        | .error _ => return false

end Tool

end Script

end DartBundle
