import DartBundle.Text.Utf8
/-!
This module contains octets, which scripts are made of and work on. An octet is held as the
character with its number, so that those of ASCII can be written as characters.
-/

namespace DartBundle

abbrev Octets := List Char

namespace Octets

def ofBytes (bytes : ByteArray) : Octets :=
  bytes.data.toList.map fun byte => Char.ofNat byte.toNat

def toBytes (octets : Octets) : ByteArray :=
  ⟨(octets.map fun c => UInt8.ofNat c.toNat).toArray⟩

def ofText (text : String) : Octets :=
  ofBytes text.toUTF8

def toText (octets : Octets) : String :=
  Utf8.decodeLenient octets.toBytes

def ascii (text : String) : Octets :=
  text.toList

def ofNat (n : Nat) : Octets :=
  Nat.toDigits 10 n

def ofInt (n : Int) : Octets :=
  if n < 0 then '-' :: ofNat n.natAbs else ofNat n.natAbs

def cutLine (octets : Octets) : Octets × Option Octets :=
  match octets.span (· ≠ '\n') with
  | (line, []) => (line, none)
  | (line, _ :: rest) => (line, some rest)

def lines (octets : Octets) : List Octets :=
  let found := (octets.splitBy fun c _ => c ≠ '\n').map fun line =>
    if line.getLast? = some '\n' then line.dropLast else line
  found

def isDigit (c : Char) : Bool :=
  decide ('0'.toNat ≤ c.toNat) && decide (c.toNat ≤ '9'.toNat)

def isLower (c : Char) : Bool :=
  decide ('a'.toNat ≤ c.toNat) && decide (c.toNat ≤ 'z'.toNat)

def isUpper (c : Char) : Bool :=
  decide ('A'.toNat ≤ c.toNat) && decide (c.toNat ≤ 'Z'.toNat)

def isLetter (c : Char) : Bool :=
  isLower c || isUpper c

def isSpace (c : Char) : Bool :=
  c = ' ' || (decide (9 ≤ c.toNat) && decide (c.toNat ≤ 13))

def isMark (c : Char) : Bool :=
  decide (32 < c.toNat) && decide (c.toNat < 127) && !isLetter c && !isDigit c

def toLower (c : Char) : Char :=
  if isUpper c then Char.ofNat (c.toNat + 32) else c

def toUpper (c : Char) : Char :=
  if isLower c then Char.ofNat (c.toNat - 32) else c

def digit? (base : Nat) (c : Char) : Option Nat :=
  let value :=
    if isDigit c then c.toNat - '0'.toNat
    else if isLetter c then (toLower c).toNat - 'a'.toNat + 10
    else 36
  if value < base then some value else none

def value (base : Nat) (digits : Octets) : Nat :=
  digits.foldl (fun n c => base * n + (digit? base c).getD 0) 0

def toNat? (octets : Octets) : Option Nat :=
  if octets.isEmpty || !octets.all isDigit then none else some (value 10 octets)

def takeInt? (base : Option Nat) (octets : Octets) : Option (Int × Octets) :=
  let octets := octets.dropWhile isSpace
  let (negative, unsigned) : Bool × Octets := match octets with
    | '-' :: rest => (true, rest)
    | '+' :: rest => (false, rest)
    | rest => (false, rest)
  let (base, digits) : Nat × Octets := match base, unsigned with
    | none, '0' :: x :: d :: rest =>
      if toLower x = 'x' && (digit? 16 d).isSome then (16, d :: rest) else (8, unsigned)
    | none, '0' :: _ => (8, unsigned)
    | none, _ => (10, unsigned)
    | some base, _ => (base, unsigned)
  match digits.span fun c => (digit? base c).isSome with
  | ([], _) => none
  | (digits, rest) =>
    let n := value base digits
    some (if negative then -(n : Int) else n, rest)

def saturate (n : Int) : Int :=
  max (-(Nat.pow 2 63 : Nat)) (min ((Nat.pow 2 63 : Nat) - 1) n)

def wrap (n : Int) : Int :=
  Int.bmod n (Nat.pow 2 64)

end Octets

end DartBundle
