import DartBundle.Script.Octets
/-!
This module contains the patterns of the shell language: `*` stands for any octets, `?` for one, and
brackets for one of those they list. What is quoted stands for itself.
-/

namespace DartBundle

namespace Script

/--
An octet that has come out of an expansion, and whether it was quoted.
-/
structure Mark where
  octet : Char
  quoted : Bool
  deriving DecidableEq

def octetClass? (name : String) : Option (Char → Bool) :=
  match name with
  | "alnum" => some fun c => Octets.isLetter c || Octets.isDigit c
  | "alpha" => some Octets.isLetter
  | "blank" => some fun c => c = ' ' || c = '\t'
  | "cntrl" => some fun c => decide (c.toNat < 32) || decide (c.toNat = 127)
  | "digit" => some Octets.isDigit
  | "graph" => some fun c => decide (32 < c.toNat) && decide (c.toNat < 127)
  | "lower" => some Octets.isLower
  | "print" => some fun c => decide (32 ≤ c.toNat) && decide (c.toNat < 127)
  | "punct" => some Octets.isMark
  | "space" => some Octets.isSpace
  | "upper" => some Octets.isUpper
  | "xdigit" => some fun c => (Octets.digit? 16 c).isSome
  | _ => none

inductive Listed
  | range (low high : Char)
  | octets (test : Char → Bool)

def Listed.holds (listed : Listed) (c : Char) : Bool :=
  match listed with
  | .range low high => decide (low.toNat ≤ c.toNat) && decide (c.toNat ≤ high.toNat)
  | .octets test => test c

inductive PatternItem
  | one (octet : Char)
  | anyOne
  | anyMany
  | oneOf (inside : Bool) (listed : List Listed)

abbrev Pattern := List PatternItem

namespace Pattern

def unescape : List Mark → List Mark
  | ⟨'\\', false⟩ :: c :: rest => ⟨c.octet, true⟩ :: unescape rest
  | ⟨'\\', false⟩ :: [] => [⟨'\\', true⟩]
  | c :: rest => c :: unescape rest
  | [] => []

def class? (marks : List Mark) : Option (Listed × List Mark) :=
  match marks with
  | ⟨':', false⟩ :: rest =>
    let name := rest.takeWhile fun c => !c.quoted && Octets.isLower c.octet
    match rest.drop name.length with
    | ⟨':', false⟩ :: ⟨']', false⟩ :: rest =>
      (octetClass? (String.ofList (name.map Mark.octet))).map fun test => (.octets test, rest)
    | _ => none
  | _ => none

def listed : Nat → Bool → List Mark → Option (List Listed × List Mark)
  | 0, _, _ => none
  | _, _, [] => none
  | n + 1, first, c :: rest =>
    if c = ⟨']', false⟩ && !first then
      some ([], rest)
    else
      let more (item : Listed) (rest : List Mark) :=
        (listed n false rest).map fun (others, rest) => (item :: others, rest)
      match if c = ⟨'[', false⟩ then class? rest else none with
      | some (item, rest) => more item rest
      | none =>
        match rest with
        | ⟨'-', false⟩ :: high :: behind =>
          if high = ⟨']', false⟩ then
            more (.range c.octet c.octet) rest
          else
            more (.range c.octet high.octet) behind
        | rest => more (.range c.octet c.octet) rest

def bracket (marks : List Mark) : Option (PatternItem × List Mark) :=
  match marks with
  | ⟨'!', false⟩ :: rest =>
    (listed (rest.length + 1) true rest).map fun (items, rest) => (.oneOf false items, rest)
  | rest =>
    (listed (rest.length + 1) true rest).map fun (items, rest) => (.oneOf true items, rest)

def ofMarks : Nat → List Mark → Pattern
  | 0, _ => []
  | _, [] => []
  | n + 1, ⟨'*', false⟩ :: rest =>
    match ofMarks n rest with
    | .anyMany :: others => .anyMany :: others
    | others => .anyMany :: others
  | n + 1, ⟨'?', false⟩ :: rest => .anyOne :: ofMarks n rest
  | n + 1, ⟨'[', false⟩ :: rest =>
    match bracket rest with
    | some (item, rest) => item :: ofMarks n rest
    | none => .one '[' :: ofMarks n rest
  | n + 1, c :: rest => .one c.octet :: ofMarks n rest

def read (marks : List Mark) : Pattern :=
  ofMarks marks.length (unescape marks)

def accepts (item : PatternItem) (c : Char) : Bool :=
  match item with
  | .one octet => decide (octet = c)
  | .anyOne => true
  | .anyMany => true
  | .oneOf inside listed => inside == listed.any (Listed.holds · c)

def fits : Pattern → Octets → Bool
  | [], octets => octets.isEmpty
  | [.anyMany], _ => true
  | .anyMany :: pattern, octets => anyTail octets fun tail => fits pattern tail
  | item :: pattern, octets =>
    match octets with
    | [] => false
    | c :: rest => accepts item c && fits pattern rest
where
  anyTail : Octets → (Octets → Bool) → Bool
    | [], test => test []
    | c :: rest, test => test (c :: rest) || anyTail rest test

def isPattern (marks : List Mark) : Bool :=
  marks.any fun mark => !mark.quoted && ['*', '?', '['].contains mark.octet

def lengths (n : Nat) : List Nat :=
  List.range (n + 1)

def cutFront? (pattern : Pattern) (longest : Bool) (octets : Octets) : Option Octets :=
  let order := if longest then (lengths octets.length).reverse else lengths octets.length
  (order.find? fun n => fits pattern (octets.take n)).map octets.drop

def cutBack? (pattern : Pattern) (longest : Bool) (octets : Octets) : Option Octets :=
  let order := if longest then lengths octets.length else (lengths octets.length).reverse
  (order.find? fun n => fits pattern (octets.drop n)).map octets.take

end Pattern

end Script

end DartBundle
