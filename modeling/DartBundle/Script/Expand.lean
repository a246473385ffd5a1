import DartBundle.Script.Arithmetic
import DartBundle.Script.Field
import DartBundle.Script.Tilde
/-!
This module contains what parameters expand to.
-/

namespace DartBundle

namespace Script

namespace Shell

def joint (s : Shell) : Octets :=
  s.separators.take 1

def wholeValue? (s : Shell) (name : Octets) : Option Octets :=
  if name = ['@'] || name = ['*'] then some (s.joint.intercalate s.arguments) else s.value? name

def wanted (name : Octets) : Act Octets := do
  let s ← get
  match s.wholeValue? name with
  | some value => return value
  | none =>
    if s.options.contains 'u' then
      fault (name ++ Octets.ascii ": parameter not set")
    return []

def areArguments (quoted : Bool) (name : Octets) : Bool :=
  name = ['@'] || (name = ['*'] && !quoted)

def parameterPieces (quoted : Bool) (name : Octets) : Act (List Piece) := do
  let s ← get
  if areArguments quoted name then
    return Piece.ofArguments quoted s.arguments
  else
    return Piece.ofValue quoted (← wanted name)

def present? (s : Shell) (name : Octets) (orEmpty : Bool) : Option Octets :=
  (s.wholeValue? name).filter fun value => !(orEmpty && value.isEmpty)

def cutOff? (cut : Cut) (pattern : Pattern) (value : Octets) : Option Octets :=
  match cut with
  | .shortestFront => Pattern.cutFront? pattern false value
  | .longestFront => Pattern.cutFront? pattern true value
  | .shortestBack => Pattern.cutBack? pattern false value
  | .longestBack => Pattern.cutBack? pattern true value

def cutArguments (cut : Cut) (pattern : Pattern) : List Octets → List Octets
  | [] => []
  | first :: others =>
    let found := cutOff? cut pattern first
    match cut with
    | .shortestFront => found.getD first :: others
    | .longestFront =>
      if found = some [] then [[]] else found.getD first :: others
    | .longestBack => found.elim (first :: others) ([·])
    | .shortestBack => (fromLast (first :: others)).getD (first :: others)
where
  fromLast : List Octets → Option (List Octets)
    | [] => none
    | first :: others =>
      match fromLast others with
      | some cut => some (first :: cut)
      | none => (Pattern.cutBack? pattern false first).map ([·])

def trimmedPieces (quoted : Bool) (value : Octets) (arguments : List Octets) (cut : Cut)
    (pattern : Pattern) : List Piece :=
  match arguments with
  | [] => Piece.ofValue quoted ((cutOff? cut pattern value).getD value)
  | arguments => Piece.ofArguments quoted (cutArguments cut pattern arguments)

def trimOutput (octets : Octets) : Octets :=
  (octets.reverse.dropWhile (· = '\n')).reverse.filter (· ≠ '\x00')

def calculate (expression : Octets) : Act Int := do
  let s ← get
  let (result, assigned) := Arithmetic.evaluate s.value? expression
  assigned.forM fun (name, value) => setVariable name (Octets.ofInt value)
  match result with
  | .ok value => return value
  | .error reason => fault (reason.message expression)

def home? (s : Shell) (user : Octets) : Option Octets :=
  match String.ofList user with
  | "" => s.setting? "HOME"
  | "root" => some (Octets.ascii "/root")
  | "daemon" => some (Octets.ascii "/usr/sbin")
  | "nobody" => some (Octets.ascii "/nonexistent")
  | _ => none

def tilded (mode : Tildes) (word : Word) : Act Word := do
  return Tildes.replace (← get).home? mode true word

def whole (pieces : List Piece) : Act Octets := do
  return (Piece.marks (← get).joint pieces).map Mark.octet

def fields (pieces : List Piece) : Act (List Octets) := do
  let s ← get
  let found := splitFields s.separators pieces
  if s.options.contains 'f' then
    return found.map fun field => field.map Mark.octet
  else
    return found.flatMap (expandPaths s.files)

end Shell

end Script

end DartBundle
