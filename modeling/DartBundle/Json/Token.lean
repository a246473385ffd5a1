/-!
This module contains the tokens of JSON texts and the scanner that finds them. What is no token ends
the scan with a token that fits nowhere, so that a reader of tokens meets the fault where it stands.
-/

namespace DartBundle

namespace Json

structure Numeral where
  negative : Bool
  whole : List Char
  fraction : Option (List Char)
  exponent : Option (Bool × List Char)
  deriving DecidableEq

inductive Token
  | openArray
  | closeArray
  | openObject
  | closeObject
  | comma
  | colon
  | null
  | boolean (value : Bool)
  | number (numeral : Numeral)
  /-- A string. It has no content if it names half of a surrogate pair. -/
  | text (content : Option String)
  | malformed
  deriving DecidableEq

def isSpace (c : Char) : Bool :=
  c = ' ' || c = '\n' || c = '\t' || c = '\r'

def isDigit (c : Char) : Bool :=
  decide (48 ≤ c.toNat) && decide (c.toNat ≤ 57)

def hexValue? (c : Char) : Option Nat :=
  let n := c.toNat
  if 48 ≤ n ∧ n ≤ 57 then some (n - 48)
  else if 97 ≤ n ∧ n ≤ 102 then some (n - 87)
  else if 65 ≤ n ∧ n ≤ 70 then some (n - 55)
  else none

def unit? (a b c d : Char) : Option Nat := do
  let a ← hexValue? a
  let b ← hexValue? b
  let c ← hexValue? c
  let d ← hexValue? d
  return ((a * 16 + b) * 16 + c) * 16 + d

def unescape? : Char → Option Char
  | '"' => some '"'
  | '\\' => some '\\'
  | '/' => some '/'
  | 'b' => some '\x08'
  | 'f' => some '\x0c'
  | 'n' => some '\n'
  | 'r' => some '\r'
  | 't' => some '\t'
  | _ => none

/--
What a string names at one place: a character, or a surrogate, which is half of one.
-/
inductive Named
  | char (c : Char)
  | half (unit : Nat)
  deriving DecidableEq

def Named.ofUnit (unit : Nat) : Named :=
  if unit < 0xd800 || 0xdfff < unit then .char (Char.ofNat unit) else .half unit

def joinHalves : List Named → Option (List Char)
  | [] => some []
  | .char c :: rest => (joinHalves rest).map (c :: ·)
  | .half high :: .half low :: rest =>
    if high < 0xdc00 && 0xdc00 ≤ low then
      (joinHalves rest).map (Char.ofNat (0x10000 + (high - 0xd800) * 0x400 + (low - 0xdc00)) :: ·)
    else
      none
  | .half _ :: _ => none

def scanText : List Char → Option (List Named × List Char)
  | [] => none
  | '"' :: rest => some ([], rest)
  | '\\' :: 'u' :: a :: b :: c :: d :: rest => do
    let unit ← unit? a b c d
    let (named, rest) ← scanText rest
    return (.ofUnit unit :: named, rest)
  | '\\' :: c :: rest => do
    let c ← unescape? c
    let (named, rest) ← scanText rest
    return (.char c :: named, rest)
  | c :: rest =>
    if c.toNat < 0x20 then
      none
    else do
      let (named, rest) ← scanText rest
      return (.char c :: named, rest)

theorem scanText_length_lt {cs rest : List Char} {named : List Named}
    (h : scanText cs = some (named, rest)) : rest.length < cs.length := by
  fun_induction scanText cs generalizing named rest with
  | case1 => simp at h
  | case2 =>
    simp only [Option.some.injEq, Prod.mk.injEq] at h
    simp [← h.2]
  | case3 a b c d behind ih =>
    simp only [Option.bind_eq_bind, Option.bind_eq_some_iff, Prod.exists, Option.pure_def,
      Option.some.injEq, Prod.mk.injEq] at h
    obtain ⟨_, _, inner, tail, hinner, _, rfl⟩ := h
    have := ih hinner
    simp only [List.length_cons]
    omega
  | case4 c behind _ ih =>
    simp only [Option.bind_eq_bind, Option.bind_eq_some_iff, Prod.exists, Option.pure_def,
      Option.some.injEq, Prod.mk.injEq] at h
    obtain ⟨_, _, inner, tail, hinner, _, rfl⟩ := h
    have := ih hinner
    simp only [List.length_cons]
    omega
  | case5 => simp at h
  | case6 c behind _ _ _ _ ih =>
    simp only [Option.bind_eq_bind, Option.bind_eq_some_iff, Prod.exists, Option.pure_def,
      Option.some.injEq, Prod.mk.injEq] at h
    obtain ⟨inner, tail, hinner, _, rfl⟩ := h
    have := ih hinner
    simp only [List.length_cons]
    omega

def scanDigits (cs : List Char) : Option (List Char × List Char) :=
  if (cs.takeWhile isDigit).isEmpty then none else some (cs.takeWhile isDigit, cs.dropWhile isDigit)

def scanSigned (cs : List Char) : Option ((Bool × List Char) × List Char) :=
  match cs with
  | '+' :: rest => (scanDigits rest).map fun (digits, rest) => ((false, digits), rest)
  | '-' :: rest => (scanDigits rest).map fun (digits, rest) => ((true, digits), rest)
  | rest => (scanDigits rest).map fun (digits, rest) => ((false, digits), rest)

def scanFraction (cs : List Char) : Option (Option (List Char) × List Char) :=
  match cs with
  | '.' :: rest => (scanDigits rest).map fun (digits, rest) => (some digits, rest)
  | rest => some (none, rest)

def scanExponent (cs : List Char) : Option (Option (Bool × List Char) × List Char) :=
  match cs with
  | 'e' :: rest => (scanSigned rest).map fun (exponent, rest) => (some exponent, rest)
  | 'E' :: rest => (scanSigned rest).map fun (exponent, rest) => (some exponent, rest)
  | rest => some (none, rest)

def scanNumber (negative : Bool) (cs : List Char) : Option (Numeral × List Char) := do
  let (whole, rest) ← scanDigits cs
  -- only the number zero begins with the digit zero
  if whole.head? = some '0' && whole.length ≠ 1 then
    none
  let (fraction, rest) ← scanFraction rest
  let (exponent, rest) ← scanExponent rest
  return (⟨negative, whole, fraction, exponent⟩, rest)

def after? : List Char → List Char → Option (List Char)
  | [], rest => some rest
  | _ :: _, [] => none
  | a :: word, b :: rest => if a = b then after? word rest else none

def scanToken (c : Char) (rest : List Char) : Option (Token × List Char) :=
  match c with
  | '[' => some (.openArray, rest)
  | ']' => some (.closeArray, rest)
  | '{' => some (.openObject, rest)
  | '}' => some (.closeObject, rest)
  | ',' => some (.comma, rest)
  | ':' => some (.colon, rest)
  | '"' => (scanText rest).map fun (named, rest) =>
    (.text ((joinHalves named).map String.ofList), rest)
  | 'n' => (after? ['u', 'l', 'l'] rest).map (.null, ·)
  | 't' => (after? ['r', 'u', 'e'] rest).map (.boolean true, ·)
  | 'f' => (after? ['a', 'l', 's', 'e'] rest).map (.boolean false, ·)
  | '-' => (scanNumber true rest).map fun (numeral, rest) => (.number numeral, rest)
  | c => (scanNumber false (c :: rest)).map fun (numeral, rest) => (.number numeral, rest)

theorem after?_length_le {word cs rest : List Char} (h : after? word cs = some rest) :
    rest.length ≤ cs.length := by
  fun_induction after? word cs with
  | case1 => simp_all
  | case2 => simp at h
  | case3 _ _ _ ih => exact Nat.le_trans (ih h) (by simp)
  | case4 => simp at h

theorem length_takeWhile_add_dropWhile (p : α → Bool) (as : List α) :
    (as.takeWhile p).length + (as.dropWhile p).length = as.length := by
  rw [← List.length_append, List.takeWhile_append_dropWhile]

theorem scanDigits_length_lt {cs digits rest : List Char}
    (h : scanDigits cs = some (digits, rest)) : rest.length < cs.length := by
  unfold scanDigits at h
  split at h
  · simp at h
  · next hne =>
    simp only [Option.some.injEq, Prod.mk.injEq] at h
    have := length_takeWhile_add_dropWhile isDigit cs
    have : 0 < (cs.takeWhile isDigit).length := by
      rw [List.length_pos_iff]
      simpa using hne
    rw [← h.2]
    omega

theorem scanSigned_length_lt {cs rest : List Char} {exponent : Bool × List Char}
    (h : scanSigned cs = some (exponent, rest)) : rest.length < cs.length := by
  unfold scanSigned at h
  split at h <;>
  · simp only [Option.map_eq_some_iff, Prod.mk.injEq, Prod.exists] at h
    obtain ⟨_, _, hdigits, _, rfl⟩ := h
    have := scanDigits_length_lt hdigits
    simp only [List.length_cons, gt_iff_lt]
    omega

theorem scanFraction_length_le {cs rest : List Char} {fraction : Option (List Char)}
    (h : scanFraction cs = some (fraction, rest)) : rest.length ≤ cs.length := by
  unfold scanFraction at h
  split at h
  · simp only [Option.map_eq_some_iff, Prod.mk.injEq, Prod.exists] at h
    obtain ⟨_, _, hdigits, _, rfl⟩ := h
    have := scanDigits_length_lt hdigits
    simp only [List.length_cons]
    omega
  · simp only [Option.some.injEq, Prod.mk.injEq] at h
    exact Nat.le_of_eq (congrArg List.length h.2.symm)

theorem scanExponent_length_le {cs rest : List Char} {exponent : Option (Bool × List Char)}
    (h : scanExponent cs = some (exponent, rest)) : rest.length ≤ cs.length := by
  unfold scanExponent at h
  split at h
  · simp only [Option.map_eq_some_iff, Prod.mk.injEq, Prod.exists] at h
    obtain ⟨_, _, _, hsigned, _, rfl⟩ := h
    have := scanSigned_length_lt hsigned
    simp only [List.length_cons]
    omega
  · simp only [Option.map_eq_some_iff, Prod.mk.injEq, Prod.exists] at h
    obtain ⟨_, _, _, hsigned, _, rfl⟩ := h
    have := scanSigned_length_lt hsigned
    simp only [List.length_cons]
    omega
  · simp only [Option.some.injEq, Prod.mk.injEq] at h
    exact Nat.le_of_eq (congrArg List.length h.2.symm)

theorem scanNumber_length_lt {negative : Bool} {cs rest : List Char} {numeral : Numeral}
    (h : scanNumber negative cs = some (numeral, rest)) : rest.length < cs.length := by
  simp only [scanNumber, Option.bind_eq_bind, Option.bind_eq_some_iff, Prod.exists] at h
  obtain ⟨whole, behind, hwhole, h⟩ := h
  have := scanDigits_length_lt hwhole
  split at h
  · simp at h
  · simp only [Option.pure_def, Option.bind_eq_some_iff, Option.some.injEq,
      Prod.mk.injEq, Prod.exists] at h
    obtain ⟨fraction, tail, hfraction, exponent, last, hexponent, _, rfl⟩ := h
    have := scanFraction_length_le hfraction
    have := scanExponent_length_le hexponent
    omega

theorem scanToken_length_le {c : Char} {rest behind : List Char} {token : Token}
    (h : scanToken c rest = some (token, behind)) : behind.length ≤ rest.length := by
  unfold scanToken at h
  split at h
  case h_7 =>
    simp only [Option.map_eq_some_iff, Prod.mk.injEq, Prod.exists] at h
    obtain ⟨_, _, htext, _, rfl⟩ := h
    exact Nat.le_of_lt (scanText_length_lt htext)
  case h_11 =>
    simp only [Option.map_eq_some_iff, Prod.mk.injEq, Prod.exists] at h
    obtain ⟨_, _, hnumber, _, rfl⟩ := h
    exact Nat.le_of_lt (scanNumber_length_lt hnumber)
  case h_12 =>
    simp only [Option.map_eq_some_iff, Prod.mk.injEq, Prod.exists] at h
    obtain ⟨_, _, hnumber, _, rfl⟩ := h
    exact Nat.le_of_lt_succ (scanNumber_length_lt hnumber)
  all_goals first
    | (simp only [Option.some.injEq, Prod.mk.injEq] at h
       exact Nat.le_of_eq (congrArg List.length h.2.symm))
    | (simp only [Option.map_eq_some_iff, Prod.mk.injEq] at h
       obtain ⟨_, hword, _, rfl⟩ := h
       exact after?_length_le hword)

def scan : List Char → List Token
  | [] => []
  | c :: rest =>
    if isSpace c then
      scan rest
    else
      match _found : scanToken c rest with
      | none => [.malformed]
      | some (token, behind) => token :: scan behind
termination_by cs => cs.length
decreasing_by
  · simp
  · have := scanToken_length_le _found
    simp only [List.length_cons]
    omega

end Json

end DartBundle
