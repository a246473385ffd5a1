import DartBundle.Script.Pattern
/-!
This module contains basic regular expressions without groups, and where they match. Of all matches
the one that starts first is meant, and of those the longest.
-/

namespace DartBundle

namespace Script

structure Atom where
  item : PatternItem
  starred : Bool

structure Expression where
  atStart : Bool := false
  atEnd : Bool := false
  atoms : List Atom := []

structure Match where
  front : Octets
  text : Octets
  rest : Octets

namespace Expression

def takeItem (c : Char) (rest : Octets) : PatternItem × Octets :=
  match c, rest with
  | '\\', c :: rest => (.one c, rest)
  | '.', rest => (.anyOne, rest)
  | '[', rest =>
    let (inside, inner) := match rest with
      | '^' :: inner => (false, inner)
      | inner => (true, inner)
    match Pattern.listed (inner.length + 1) true (inner.map fun c => ⟨c, false⟩) with
    | some (listed, behind) => (.oneOf inside listed, behind.map Mark.octet)
    | none => (.one '[', rest)
  | c, rest => (.one c, rest)

def readAtoms : Nat → Octets → Expression
  | 0, _ => {}
  | _, [] => {}
  | _, ['$'] => { atEnd := true }
  | n + 1, c :: rest =>
    let (item, rest) := takeItem c rest
    let (starred, rest) := match rest with
      | '*' :: rest => (true, rest)
      | rest => (false, rest)
    let more := readAtoms n rest
    { more with atoms := ⟨item, starred⟩ :: more.atoms }

def read (text : Octets) : Expression :=
  match text with
  | '^' :: rest => { readAtoms rest.length rest with atStart := true }
  | text => readAtoms text.length text

def reach? (atEnd : Bool) : List Atom → Octets → Option Nat
  | [], text => if atEnd && !text.isEmpty then none else some 0
  | atom :: atoms, text =>
    if atom.starred then
      let run := text.takeWhile (Pattern.accepts atom.item)
      ((List.range (run.length + 1)).filterMap fun n =>
        (reach? atEnd atoms (text.drop n)).map (· + n)).max?
    else
      match text with
      | [] => none
      | c :: rest =>
        if Pattern.accepts atom.item c then (reach? atEnd atoms rest).map (· + 1) else none

def search? (e : Expression) (lineStarts : Bool) (text : Octets) : Option Match :=
  let here := if e.atStart && !lineStarts then none else reach? e.atEnd e.atoms text
  match here, text with
  | some n, text => some ⟨[], text.take n, text.drop n⟩
  | none, [] => none
  | none, c :: rest => (e.search? false rest).map fun m => { m with front := c :: m.front }

/--
Replaces the first match, or all of them. A match of nothing counts only if it does not follow
another match at once.
-/
def replace (e : Expression) (written : Octets → Octets) (everywhere : Bool) :
    Nat → Bool → Bool → Octets → Option Octets
  | 0, _, _, _ => none
  | n + 1, lineStarts, adjacent, text => do
    let m ← e.search? lineStarts text
    let idle := adjacent && m.front.isEmpty && m.text.isEmpty
    let out := m.front ++ if idle then [] else written m.text
    let again (lineStarts adjacent : Bool) (rest : Octets) : Octets :=
      (e.replace written everywhere n lineStarts adjacent rest).getD rest
    if !everywhere then
      out ++ m.rest
    else
      match m.text, m.rest with
      | [], [] => out
      | [], c :: rest => out ++ c :: again false false rest
      | _, rest => out ++ again false true rest

end Expression

end Script

end DartBundle
