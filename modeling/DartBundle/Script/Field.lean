import DartBundle.Script.Pattern
import DartBundle.Script.Shell
/-!
This module contains what becomes of an expanded word: it is split into fields where an expansion
has brought blanks in, and fields that are patterns are replaced by the paths they fit.
-/

namespace DartBundle

namespace Script

inductive Piece
  | mark (mark : Mark) (expanded : Bool)
  | nothing
  | boundary (quoted : Bool)
  | start (apart : Bool)

namespace Piece

def ofText (quoted : Bool) (octets : Octets) : List Piece :=
  if quoted && octets.isEmpty then
    [.nothing]
  else
    octets.map fun c => .mark ⟨c, quoted⟩ false

def ofExpanded (quoted : Bool) (octets : Octets) : List Piece :=
  if quoted && octets.isEmpty then
    [.nothing]
  else
    octets.map fun c => .mark ⟨c, quoted⟩ true

def ofValue (quoted : Bool) (octets : Octets) : List Piece :=
  (if quoted then [] else [.start false]) ++ ofExpanded quoted octets

def ofArguments (quoted : Bool) (arguments : List Octets) : List Piece :=
  (if quoted && arguments.isEmpty then [] else [.start quoted]) ++
    [.boundary quoted].intercalate (arguments.map (ofExpanded quoted))

def marks (joint : Octets) : List Piece → List Mark
  | [] => []
  | .mark m _ :: rest => m :: marks joint rest
  | .nothing :: rest => marks joint rest
  | .start _ :: rest => marks joint rest
  | .boundary _ :: rest => (joint.map fun c => ⟨c, true⟩) ++ marks joint rest

end Piece

structure Splitting where
  fields : List (List Mark) := []
  current : Option (List Mark) := none
  blank : Bool := false
  apart : Bool := false
  afterApart : Bool := false

namespace Splitting

def isBlankSeparator (c : Char) : Bool :=
  c = ' ' || c = '\t' || c = '\n'

def finish (s : Splitting) : Splitting :=
  match s.current with
  | some field => { s with fields := field.reverse :: s.fields, current := none }
  | none => s

def separate (blank : Bool) (s : Splitting) : Splitting :=
  if blank && !s.afterApart then
    { s.finish with blank := s.blank || s.current.isSome }
  else if s.current.isNone && s.blank then
    { s with blank := false }
  else
    { ({ s with current := some (s.current.getD []) } : Splitting).finish with blank := false }

def step (separators : Octets) (s : Splitting) : Piece → Splitting
  | .start apart => { s with blank := false, apart, afterApart := s.apart }
  | .boundary true => { s.finish with blank := false }
  | .boundary false => s.separate true
  | .nothing => { s with current := some (s.current.getD []), blank := false }
  | .mark mark expanded =>
    if expanded && !mark.quoted && separators.contains mark.octet then
      s.separate (isBlankSeparator mark.octet)
    else
      { s with current := some (mark :: s.current.getD []), blank := false }

end Splitting

def splitFields (separators : Octets) (pieces : List Piece) : List (List Mark) :=
  (pieces.foldl (Splitting.step separators) {}).finish.fields.reverse

def expandSegments (t : FileTree) (path : Octets) (found : Bool) : List (List Mark) → List Octets
  | [] => if found || (t.find (Shell.path path) false).toOption.isSome then [path] else []
  | segment :: rest =>
    let literal := segment.map Mark.octet
    let extend (name : Octets) := if rest.isEmpty then path ++ name else path ++ name ++ ['/']
    if Pattern.isPattern segment then
      let pattern := Pattern.read segment
      let directory := if path.isEmpty then "." else Shell.path path
      let names := match t.find directory true with
        | .ok (l, e) =>
          if e.isDirectory && e.isReadable then (t.names l).map Octets.ofText else []
        | .error _ => []
      let fitting := names.filter fun name =>
        Pattern.fits pattern name && (name.head? ≠ some '.' || literal.head? = some '.')
      (fitting.mergeSort fun a b => !Text.before b a).flatMap fun name =>
        expandSegments t (extend name) true rest
    else
      expandSegments t (extend literal) false rest

def splitSegments : List Mark → List (List Mark)
  | [] => [[]]
  | mark :: rest =>
    if mark.octet = '/' then
      [] :: splitSegments rest
    else
      match splitSegments rest with
      | [] => [[mark]]
      | segment :: segments => (mark :: segment) :: segments

def expandPaths (t : FileTree) (field : List Mark) : List Octets :=
  let literal := field.map Mark.octet
  if Pattern.isPattern field then
    let found := expandSegments t [] false (splitSegments field)
    if found.isEmpty then [literal] else found
  else
    [literal]

end Script

end DartBundle
