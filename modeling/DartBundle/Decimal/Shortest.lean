/-!
This module contains the shortest decimal text of a binary floating point number: the fewest digits
that lie closer to it than to any other number, and among those the digits nearest to it.
-/

namespace DartBundle

namespace Shortest

/--
A positive number `significand * 2 ^ exponent`, and whether the next smaller number is only half as
far away as the next greater one.
-/
structure Binary where
  significand : Nat
  exponent : Int
  closeBelow : Bool

def Binary.ofBits? (bits : UInt64) : Option Binary :=
  let field : Nat := (bits.toNat / Nat.pow 2 52) % 2048
  let fraction := bits.toNat % Nat.pow 2 52
  if field = 2047 then none
  else if field = 0 then if fraction = 0 then none else some ⟨fraction, -1074, false⟩
  else some ⟨Nat.pow 2 52 + fraction, (field : Int) - 1075, fraction = 0 && 1 < field⟩

/--
The multiple of `10 ^ power` that stands for a number: one of its two neighbours among them, if one
is closer to the number than to every other. The nearer one counts, and of two equally near ones the
even one.
-/
def onGrid? (b : Binary) (power : Int) : Option Nat :=
  -- in quarters of a unit all bounds are whole numbers
  let quarters := b.exponent - 2
  let scale := Nat.pow 2 quarters.toNat * Nat.pow 10 (-power).toNat
  let unit := Nat.pow 2 (-quarters).toNat * Nat.pow 10 power.toNat
  let value := 4 * b.significand * scale
  let low := (4 * b.significand - if b.closeBelow then 1 else 2) * scale
  let high := (4 * b.significand + 2) * scale
  let closed := b.significand % 2 = 0
  let within (n : Nat) : Bool :=
    if closed then low ≤ n * unit && n * unit ≤ high else low < n * unit && n * unit < high
  let n := value / unit
  match within n, within (n + 1) with
  | false, false => none
  | true, false => some n
  | false, true => some (n + 1)
  | true, true =>
    let below := value - n * unit
    let above := (n + 1) * unit - value
    if below < above || (below = above && n % 2 = 0) then some n else some (n + 1)

def search (b : Binary) : Nat → Int → Nat × Int
  | 0, power => (b.significand, power)
  | grids + 1, power =>
    match onGrid? b power with
    | some n => (n, power)
    | none => search b grids (power - 1)

def decimal (b : Binary) : Nat × Int :=
  search b 660 310

def render (digits : Nat) (power : Int) : String :=
  let ds := (Nat.toDigits 10 digits)
  let point := ds.length + power
  if 0 ≤ power ∧ point ≤ 16 then
    String.ofList (ds ++ List.replicate power.toNat '0') ++ ".0"
  else if 0 < point ∧ point ≤ 16 then
    String.ofList (ds.take point.toNat) ++ "." ++ String.ofList (ds.drop point.toNat)
  else if -5 < point ∧ point ≤ 0 then
    "0." ++ String.ofList (List.replicate (-point).toNat '0' ++ ds)
  else
    let exponent := point - 1
    let tail := if ds.length = 1 then "" else "." ++ String.ofList (ds.drop 1)
    String.ofList (ds.take 1) ++ tail ++ "e" ++
      (if exponent < 0 then "-" else "+") ++ String.ofList (Nat.toDigits 10 exponent.natAbs)

def text (x : Float) : String :=
  let sign := if x.toBits.toNat / Nat.pow 2 63 = 1 then "-" else ""
  match Binary.ofBits? x.toBits with
  | none => sign ++ "0.0"
  | some b =>
    let (digits, power) := decimal b
    sign ++ render digits power

end Shortest

end DartBundle
