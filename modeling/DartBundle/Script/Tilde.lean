import DartBundle.Script.Program
/-!
This module contains the tildes in front of paths, which stand for home directories.
-/

namespace DartBundle

namespace Script

inductive Tildes
  | nowhere
  | atStart
  | inValue
  | inAssignment
  deriving DecidableEq

namespace Tildes

def replaceText (home? : Octets → Option Octets) (mode : Tildes) (last : Bool) :
    Nat → Bool → Octets → List Part
  | 0, _, octets => [.text false octets]
  | _, _, [] => []
  | n + 1, allowed, octets =>
    let colons := mode ≠ .atStart
    let literally : List Part :=
      match octets.span (· ≠ ':') with
      | (front, ':' :: rest) =>
        if colons then .text false (front ++ [':']) :: replaceText home? mode last n true rest
        else [.text false octets]
      | _ => [.text false octets]
    match octets with
    | '~' :: rest =>
      let (name, behind) := rest.span fun c => c ≠ '/' && !(colons && c = ':')
      match if allowed && (last || !behind.isEmpty) then home? name else none with
      | some home => .text true home :: replaceText home? mode last n false behind
      | none => literally
    | _ => literally

def replace (home? : Octets → Option Octets) (mode : Tildes) : Bool → List Part → List Part
  | _, [] => []
  | first, .text false octets :: rest =>
    let text (first : Bool) (mode : Tildes) (octets : Octets) :=
      replaceText home? mode rest.isEmpty (octets.length + 1) first octets ++
        replace home? mode false rest
    match mode with
    | .nowhere => .text false octets :: rest
    | .inAssignment =>
      let name := octets.takeWhile (· ≠ '=') ++ ['=']
      .text false name :: text true .inValue (octets.drop name.length)
    | mode => text first mode octets
  | first, part :: rest =>
    if first && mode = .atStart then part :: rest else part :: replace home? mode false rest

end Tildes

end Script

end DartBundle
