import DartBundle.Json.Token
/-!
This module contains the values of JSON numbers. Integers that fit 64 bits are exact. All others are
floating point numbers: the leading digits that fit 64 bits, scaled by a power of ten.
-/

namespace DartBundle

namespace Json

inductive Number
  | natural (value : Nat)
  | negative (value : Nat)
  | real (value : Float)

def digitValue (c : Char) : Nat :=
  c.toNat - 48

def natOfDigits (digits : List Char) : Nat :=
  digits.foldl (fun n c => 10 * n + digitValue c) 0

/--
Appends digits to a number as long as it fits 64 bits, and gives the digits that are left.
-/
def takeFitting (n : Nat) : List Char → Nat × List Char
  | [] => (n, [])
  | c :: rest =>
    if 10 * n + digitValue c < Nat.pow 2 64 then
      takeFitting (10 * n + digitValue c) rest
    else
      (n, c :: rest)

def tenTo (power : Nat) : Float :=
  Float.ofScientific 1 false power

def scaleDown (x : Float) (power : Nat) : Float :=
  if power ≤ 308 then
    x / tenTo power
  else if x == 0.0 then
    x
  else
    scaleDown (x / tenTo 308) (power - 308)
termination_by power

def scale? (significand : Nat) (power : Int) : Option Float :=
  let x := Float.ofNat significand
  if power < 0 then
    some (scaleDown x power.natAbs)
  else if power ≤ 308 then
    let y := x * tenTo power.toNat
    if y.isInf then none else some y
  else if significand = 0 then
    some x
  else
    none

def Numeral.magnitude? (n : Numeral) : Option Float :=
  let (leading, left) := takeFitting 0 n.whole
  let fraction := n.fraction.getD []
  let (significand, unused) := takeFitting leading fraction
  let power : Int := left.length - (fraction.length - unused.length : Nat)
  match n.exponent with
  | none => scale? significand power
  | some (false, digits) =>
    if Nat.pow 2 31 ≤ natOfDigits digits then
      -- the power is out of reach, so the number is too, unless it is zero
      if significand = 0 then some 0.0 else none
    else
      scale? significand (power + natOfDigits digits)
  | some (true, digits) =>
    if Nat.pow 2 31 ≤ natOfDigits digits then
      some 0.0
    else
      scale? significand (power - natOfDigits digits)

def Numeral.value? (n : Numeral) : Option Number :=
  let real := n.magnitude?.map fun x => Number.real (if n.negative then -x else x)
  if n.fraction.isSome || n.exponent.isSome then
    real
  else
    let whole := natOfDigits n.whole
    if n.negative then
      if 0 < whole && whole ≤ Nat.pow 2 63 then some (.negative whole) else real
    else if whole < Nat.pow 2 64 then
      some (.natural whole)
    else
      real

def Numeral.ofNat (n : Nat) : Numeral :=
  ⟨false, Nat.toDigits 10 n, none, none⟩

end Json

end DartBundle
