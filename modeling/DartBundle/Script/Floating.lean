import DartBundle.Script.Octets
/-!
This module contains how `printf` reads a decimal number and writes it with some places. The number is
held as the binary floating point number of 64 bits that is nearest to it, and rounded from the exact
value of that; a value half way between two texts goes to the even one.
-/

namespace DartBundle

namespace Script

/--
The floating point number `significand * 2 ^ exponent` with its sign.
-/
structure Floating where
  negative : Bool := false
  significand : Nat := 0
  exponent : Int := 0

namespace Floating

def roundRatio (num den : Nat) : Nat :=
  let n := num / den
  let twice := 2 * (num % den)
  if den < twice || (den = twice && n % 2 = 1) then n + 1 else n

def powerRatio (base : Nat) (exponent : Int) : Nat × Nat :=
  (Nat.pow base exponent.toNat, Nat.pow base (-exponent).toNat)

def nearest (negative : Bool) (num den : Nat) : Floating :=
  if num = 0 then
    { negative }
  else
    let guess : Int := (Nat.log2 num : Int) - (Nat.log2 den : Int)
    let (up, down) := powerRatio 2 guess
    let order := if den * up ≤ num * down then guess else guess - 1
    let exponent := max (order - 52) (-1074)
    let (up, down) := powerRatio 2 exponent
    { negative, significand := roundRatio (num * down) (den * up), exponent }

def ratio (x : Floating) : Nat × Nat :=
  let (up, down) := powerRatio 2 x.exponent
  (x.significand * up, down)

def take? (octets : Octets) : Option (Floating × Octets) :=
  let octets := octets.dropWhile Octets.isSpace
  let (negative, unsigned) : Bool × Octets := match octets with
    | '-' :: rest => (true, rest)
    | '+' :: rest => (false, rest)
    | rest => (false, rest)
  let (whole, rest) := unsigned.span Octets.isDigit
  let (fraction, rest) := match rest with
    | '.' :: rest => rest.span Octets.isDigit
    | rest => ([], rest)
  if whole.isEmpty && fraction.isEmpty then none
  else some (nearest negative (Octets.value 10 (whole ++ fraction)) (Nat.pow 10 fraction.length), rest)

def pointed (places : Nat) (digits : Octets) : Octets :=
  let digits := List.replicate (places + 1 - digits.length) '0' ++ digits
  let whole := digits.take (digits.length - places)
  if places = 0 then whole else whole ++ '.' :: digits.drop whole.length

def fixed (places num den : Nat) : Octets :=
  pointed places (Nat.toDigits 10 (roundRatio (num * Nat.pow 10 places) den))

def decimalOrder (num den : Nat) : Int :=
  if den ≤ num then
    ((Nat.toDigits 10 (num / den)).length : Int) - 1
  else
    let lacking := (Nat.toDigits 10 den).length - (Nat.toDigits 10 num).length
    if den ≤ num * Nat.pow 10 lacking then -(lacking : Int) else -(lacking : Int) - 1

def scientific (places num den : Nat) : Octets :=
  let order := if num = 0 then 0 else decimalOrder num den
  let (up, down) := powerRatio 10 ((places : Int) - order)
  let digits := Nat.toDigits 10 (roundRatio (num * up) (den * down))
  let (digits, order) :=
    if digits.length = places + 2 then (digits.take (places + 1), order + 1) else (digits, order)
  let exponent := Nat.toDigits 10 order.natAbs
  pointed places digits ++ 'e' :: (if order < 0 then '-' else '+') ::
    (List.replicate (2 - exponent.length) '0' ++ exponent)

end Floating

end Script

end DartBundle
