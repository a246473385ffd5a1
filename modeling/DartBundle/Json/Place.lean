/-!
This module contains how the place of a fault is written behind a message: `at line L column C`. A
message that ends so by itself is taken to be one that tells its place, and the place is taken off.
-/

namespace DartBundle

namespace Json

def numberBackwards (digits : List Char) : Nat :=
  digits.foldr (fun c n => 10 * n + (c.toNat - 48)) 0

def cutNumber? (backwards : List Char) : Option (List Char) :=
  let digits := backwards.takeWhile Char.isDigit
  if digits.isEmpty || decide (18446744073709551616 ≤ numberBackwards digits) then
    none
  else
    some (backwards.dropWhile Char.isDigit)

def cutWord? (word text : List Char) : Option (List Char) :=
  if word.isPrefixOf text then some (text.drop word.length) else none

def cutPlace? (text : List Char) : Option (List Char) := do
  let front ← cutNumber? text.reverse
  let front ← cutWord? " column ".toList.reverse front
  let front ← cutNumber? front
  let front ← cutWord? " at line ".toList.reverse front
  return front.reverse

def withoutPlace (message : String) : String :=
  match cutPlace? message.toList with
  | some front => String.ofList front
  | none => message

end Json

end DartBundle
