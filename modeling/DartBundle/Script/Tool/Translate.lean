import DartBundle.Script.Pattern
import DartBundle.Script.Print
import DartBundle.Script.Tool.Record
/-!
This module contains the programs that work octet by octet: `tr`, which replaces, deletes and
squeezes octets, and `od`, which shows them.
-/

namespace DartBundle

namespace Script

namespace Tool

def allOctets : Octets :=
  (List.range 256).map Char.ofNat

def takeOctet : Char → Octets → Char × Octets
  | '\\', rest => unescapeOne rest
  | c, rest => (c, rest)

def members : Nat → Octets → Octets
  | 0, _ => []
  | _, [] => []
  | n + 1, c :: rest =>
    let single : Octets :=
      match takeOctet c rest with
      | (first, '-' :: c :: rest) =>
        let (last, behind) := takeOctet c rest
        (List.range (last.toNat + 1 - first.toNat)).map (fun k => Char.ofNat (first.toNat + k)) ++
          members n behind
      | (octet, rest) => octet :: members n rest
    match c, rest with
    | '[', ':' :: inside =>
      let name := inside.takeWhile Octets.isLower
      match octetClass? (String.ofList name), inside.drop name.length with
      | some test, ':' :: ']' :: behind => allOctets.filter test ++ members n behind
      | _, _ => single
    | _, _ => single

def squeeze (test : Char → Bool) (octets : Octets) : Octets :=
  (octets.splitBy fun a b => a = b).flatMap fun run =>
    if run.head?.any test then run.take 1 else run

def tr : Tool := fun call =>
  call.withOptions "cds" 1 fun o =>
    call.withOperands o fun first others => do
      let set (word : Octets) : Octets := members (word.length + 1) word
      let named := set first
      let chosen := if o.has 'c' then allOctets.filter fun c => !named.contains c else named
      let second := (others.head?.map set).getD []
      if others.isEmpty && !o.has 'd' && !o.has 's' then
        return ← call.misuse 1 (phrase "missing operand after " (Octets.inMarks first))
      let fill := List.replicate (chosen.length - second.length) (second.getLast?.getD ' ')
      let table := if second.isEmpty then [] else (chosen.zip (second ++ fill)).reverse
      match ← Call.readDescriptor 0 with
      | .error fault => do
        call.complainOf (Octets.ascii "read error") fault
        return 1
      | .ok octets => do
        let changed := if o.has 'd' then octets.filter fun c => !chosen.contains c
          else octets.map fun c => (table.lookup c).getD c
        let squeezed := if others.isEmpty then chosen else second
        let _ ← Shell.print
          (if o.has 's' then squeeze (fun c => squeezed.contains c) changed else changed)
        return 0

def shownOctet (c : Char) : Octets :=
  if c = '\x00' then
    ['\\', '0']
  else if c ≠ '\\' && "\x07\x08\t\n\x0b\x0c\r".contains c then
    '\\' :: ((['a', 'b', 't', 'n', 'v', 'f', 'r'][c.toNat - 7]?).toList)
  else if Octets.isPrintable c then
    [c]
  else
    (Nat.toDigits 8 (0o1000 + c.toNat)).drop 1

def dumpLines : Nat → Octets → Octets
  | 0, _ => []
  | _, [] => []
  | n + 1, octets =>
    (octets.take 16).flatMap (fun c => ' ' :: Octets.padLeft 3 (shownOctet c)) ++ '\n' ::
      dumpLines n (octets.drop 16)

def od : Tool := fun call =>
  call.withOptions "A:c" 1 fun o =>
    if o.value? 'A' ≠ some ['n'] || !o.has 'c' then
      call.misuse 1 (Octets.ascii "only -An -c is known")
    else
      call.forEachInput o.operands fun _ octets => do
        let _ ← Shell.print (dumpLines octets.length octets)

end Tool

end Script

end DartBundle
