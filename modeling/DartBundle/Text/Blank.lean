import DartBundle.Text.Basic
/-!
This module contains the characters with the Unicode property White_Space and what is cut at them:
trimming a text and taking it apart into words.
-/

namespace DartBundle

namespace Text

def blankRanges : List (Nat × Nat) :=
  [(0x09, 0x0d), (0x20, 0x20), (0x85, 0x85), (0xa0, 0xa0), (0x1680, 0x1680), (0x2000, 0x200a),
    (0x2028, 0x2029), (0x202f, 0x202f), (0x205f, 0x205f), (0x3000, 0x3000)]

def isBlank (c : Char) : Bool :=
  blankRanges.any fun (first, last) => decide (first ≤ c.toNat) && decide (c.toNat ≤ last)

def trimEnd (s : String) : String :=
  String.ofList (s.toList.reverse.dropWhile isBlank).reverse

def trim (s : String) : String :=
  trimEnd (String.ofList (s.toList.dropWhile isBlank))

def isAllBlank (s : String) : Bool :=
  s.toList.all isBlank

def words (s : String) : List String :=
  let spaced := s.toList.map fun c => if isBlank c then ' ' else c
  ((split ' ' spaced).filter fun word => !word.isEmpty).map String.ofList

end Text

end DartBundle
