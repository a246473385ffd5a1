import DartBundle.Json.Layout
/-!
This module contains how JSON may be spelled: each token in any of its spellings, and any blanks between
one token and the next. The scanner finds the tokens of every text that is spelled like this.
-/

namespace DartBundle

namespace Json

inductive Names : List Named → List Char → Prop
  | nil : Names [] []
  | plain {c : Char} {named : List Named} {cs : List Char} (printable : 0x20 ≤ c.toNat)
    (unquoted : c ≠ '"') (unescaped : c ≠ '\\') : Names named cs → Names (.char c :: named) (c :: cs)
  | short {letter c : Char} {named : List Named} {cs : List Char} (stands : unescape? letter = some c) :
    Names named cs → Names (.char c :: named) ('\\' :: letter :: cs)
  | unit {a b c d : Char} {unit : Nat} {named : List Named} {cs : List Char}
    (stands : unit? a b c d = some unit) :
    Names named cs → Names (.ofUnit unit :: named) ('\\' :: 'u' :: a :: b :: c :: d :: cs)

structure Digits (digits : List Char) : Prop where
  nonempty : digits ≠ []
  digit : ∀ c ∈ digits, isDigit c = true

structure Numeral.WellFormed (n : Numeral) : Prop where
  whole : Digits n.whole
  leading : n.whole.head? = some '0' → n.whole.length = 1
  fraction : ∀ digits, n.fraction = some digits → Digits digits
  exponent : ∀ negative digits, n.exponent = some (negative, digits) → Digits digits

inductive ExponentSpells : Option (Bool × List Char) → List Char → Prop
  | absent : ExponentSpells none []
  | unsigned {letter : Char} {digits : List Char} (marks : letter = 'e' ∨ letter = 'E') :
    ExponentSpells (some (false, digits)) (letter :: digits)
  | plus {letter : Char} {digits : List Char} (marks : letter = 'e' ∨ letter = 'E') :
    ExponentSpells (some (false, digits)) (letter :: '+' :: digits)
  | minus {letter : Char} {digits : List Char} (marks : letter = 'e' ∨ letter = 'E') :
    ExponentSpells (some (true, digits)) (letter :: '-' :: digits)

def spellFraction : Option (List Char) → List Char
  | some digits => '.' :: digits
  | none => []

inductive Numeral.Spells : Numeral → List Char → Prop
  | positive {whole spelled : List Char} {fraction : Option (List Char)}
    {exponent : Option (Bool × List Char)}
    (wellFormed : Numeral.WellFormed ⟨false, whole, fraction, exponent⟩)
    (spells : ExponentSpells exponent spelled) :
    Numeral.Spells ⟨false, whole, fraction, exponent⟩ (whole ++ (spellFraction fraction ++ spelled))
  | negative {whole spelled : List Char} {fraction : Option (List Char)}
    {exponent : Option (Bool × List Char)}
    (wellFormed : Numeral.WellFormed ⟨true, whole, fraction, exponent⟩)
    (spells : ExponentSpells exponent spelled) :
    Numeral.Spells ⟨true, whole, fraction, exponent⟩
      ('-' :: (whole ++ (spellFraction fraction ++ spelled)))

inductive Token.Spells : Token → List Char → Prop
  | openArray : Token.Spells .openArray ['[']
  | closeArray : Token.Spells .closeArray [']']
  | openObject : Token.Spells .openObject ['\x7b']
  | closeObject : Token.Spells .closeObject ['\x7d']
  | comma : Token.Spells .comma [',']
  | colon : Token.Spells .colon [':']
  | null : Token.Spells .null ['n', 'u', 'l', 'l']
  | true : Token.Spells (.boolean true) ['t', 'r', 'u', 'e']
  | false : Token.Spells (.boolean false) ['f', 'a', 'l', 's', 'e']
  | number {n : Numeral} {piece : List Char} (spells : n.Spells piece) :
    Token.Spells (.number n) piece
  | text {named : List Named} {cs : List Char} (names : Names named cs) :
    Token.Spells (.text ((joinHalves named).map String.ofList)) ('"' :: (cs ++ ['"']))

def EndsNumber (cs : List Char) : Prop :=
  ∀ c, cs.head? = some c → isDigit c = false ∧ c ≠ '.' ∧ c ≠ 'e' ∧ c ≠ 'E'

/--
Whether a text is a row of tokens, each spelled somehow, with any blanks before, between and after them.
-/
inductive Laid : List Token → List Char → Prop
  | nil : Laid [] []
  | blank {c : Char} {ts : List Token} {cs : List Char} (space : isSpace c = true) :
    Laid ts cs → Laid ts (c :: cs)
  | token {token : Token} {ts : List Token} {piece cs : List Char} (spells : token.Spells piece)
    (ends : ∀ n, token = .number n → EndsNumber cs) : Laid ts cs → Laid (token :: ts) (piece ++ cs)

def Spells (value : Json) (text : String) : Prop :=
  Laid value.tokens text.toList

variable {c : Char} {cs rest digits piece : List Char} {named : List Named} {n : Numeral}
  {exponent : Option (Bool × List Char)} {fraction : Option (List Char)} {negative : Bool}
  {token : Token} {ts : List Token}

theorem scanText_of_names (h : Names named cs) :
    scanText (cs ++ '"' :: rest) = some (named, rest) := by
  induction h with
  | nil => rfl
  | plain printable unquoted unescaped _ ih =>
    rw [List.cons_append, scanText.eq_def]
    split
    · next heq => cases heq
    · next heq => exact absurd (List.cons.inj heq).1 unquoted
    · next heq => exact absurd (List.cons.inj heq).1 unescaped
    · next heq => exact absurd (List.cons.inj heq).1 unescaped
    · next heq =>
      cases heq
      rw [if_neg (by omega), ih]
      rfl
  | @short letter c named cs stands _ ih =>
    rw [List.cons_append, List.cons_append, scanText]
    · rw [stands, ih]
      rfl
    · rintro a b c d rest rfl
      cases stands
  | unit stands _ ih =>
    simp only [List.cons_append, scanText]
    rw [stands, ih]
    rfl

theorem takeWhile_append_of_ends {p : Char → Bool} (h : ∀ c ∈ digits, p c = true)
    (ends : ∀ c, rest.head? = some c → p c = false) :
    (digits ++ rest).takeWhile p = digits ∧ (digits ++ rest).dropWhile p = rest := by
  rw [List.takeWhile_append_of_pos h, List.dropWhile_append_of_pos h]
  cases rest with
  | nil => simp
  | cons c others => simp [ends c rfl]

theorem scanDigits_append (h : Digits digits) (ends : ∀ c, rest.head? = some c → isDigit c = false) :
    scanDigits (digits ++ rest) = some (digits, rest) := by
  obtain ⟨htake, hdrop⟩ := takeWhile_append_of_ends h.digit ends
  unfold scanDigits
  rw [htake, hdrop, if_neg]
  simpa using h.nonempty

theorem scanFraction_append (h : ∀ digits, fraction = some digits → Digits digits)
    (ends : ∀ c, rest.head? = some c → isDigit c = false ∧ c ≠ '.') :
    scanFraction (spellFraction fraction ++ rest) = some (fraction, rest) := by
  cases fraction with
  | some digits =>
    unfold spellFraction
    rw [List.cons_append, scanFraction,
      scanDigits_append (h digits rfl) fun c hc => (ends c hc).1]
    rfl
  | none =>
    -- only a point would begin a fraction
    unfold spellFraction scanFraction
    split
    · next heq =>
      rw [List.nil_append] at heq
      subst heq
      exact absurd rfl (ends '.' rfl).2
    · rfl

theorem Digits.head? (h : Digits digits) : ∃ d others, digits = d :: others ∧ isDigit d = true := by
  cases digits with
  | nil => exact absurd rfl h.nonempty
  | cons d others => exact ⟨d, others, rfl, h.digit d List.mem_cons_self⟩

theorem scanSigned_append (h : Digits digits) (ends : ∀ c, rest.head? = some c → isDigit c = false) :
    scanSigned (digits ++ rest) = some ((false, digits), rest) := by
  have hdigits := scanDigits_append h ends
  obtain ⟨d, others, rfl, hd⟩ := h.head?
  unfold scanSigned
  split
  · next heq =>
    cases (List.cons.inj heq).1
    cases hd
  · next heq =>
    cases (List.cons.inj heq).1
    cases hd
  · rw [hdigits]
    rfl

theorem scanExponent_append (spells : ExponentSpells exponent cs)
    (h : ∀ negative digits, exponent = some (negative, digits) → Digits digits)
    (ends : EndsNumber rest) : scanExponent (cs ++ rest) = some (exponent, rest) := by
  have hends : ∀ c, rest.head? = some c → isDigit c = false := fun c hc => (ends c hc).1
  cases spells with
  | absent =>
    unfold scanExponent
    split
    · next heq => exact absurd rfl (ends 'e' (by rw [← List.nil_append rest, heq]; rfl)).2.2.1
    · next heq => exact absurd rfl (ends 'E' (by rw [← List.nil_append rest, heq]; rfl)).2.2.2
    · rfl
  | unsigned marks =>
    have hsigned := scanSigned_append (h _ _ rfl) hends
    rcases marks with rfl | rfl
    · rw [List.cons_append, scanExponent, hsigned]
      rfl
    · rw [List.cons_append, scanExponent, hsigned]
      rfl
  | plus marks =>
    have hdigits := scanDigits_append (h _ _ rfl) hends
    rcases marks with rfl | rfl
    · rw [List.cons_append, List.cons_append, scanExponent, scanSigned, hdigits]
      rfl
    · rw [List.cons_append, List.cons_append, scanExponent, scanSigned, hdigits]
      rfl
  | minus marks =>
    have hdigits := scanDigits_append (h _ _ rfl) hends
    rcases marks with rfl | rfl
    · rw [List.cons_append, List.cons_append, scanExponent, scanSigned, hdigits]
      rfl
    · rw [List.cons_append, List.cons_append, scanExponent, scanSigned, hdigits]
      rfl

theorem ExponentSpells.ends (spells : ExponentSpells exponent cs) (ends : EndsNumber rest) :
    ∀ c, (cs ++ rest).head? = some c → isDigit c = false ∧ c ≠ '.' := by
  intro c hc
  cases spells with
  | absent => exact ⟨(ends c hc).1, (ends c hc).2.1⟩
  | unsigned marks | plus marks | minus marks =>
    cases hc
    rcases marks with rfl | rfl
    · decide
    · decide

theorem spellFraction_ends (fraction : Option (List Char))
    (ends : ∀ c, rest.head? = some c → isDigit c = false) :
    ∀ c, (spellFraction fraction ++ rest).head? = some c → isDigit c = false := by
  intro c hc
  cases fraction with
  | some digits =>
    cases hc
    decide
  | none => exact ends c hc

theorem scanNumber_append {whole : List Char} (negative : Bool)
    (h : Numeral.WellFormed ⟨negative, whole, fraction, exponent⟩)
    (spells : ExponentSpells exponent cs) (ends : EndsNumber rest) :
    scanNumber negative (whole ++ (spellFraction fraction ++ cs) ++ rest) =
      some (⟨negative, whole, fraction, exponent⟩, rest) := by
  have hexponent := spells.ends ends
  have hfraction := spellFraction_ends fraction fun c hc => (hexponent c hc).1
  unfold scanNumber
  rw [List.append_assoc, List.append_assoc, scanDigits_append h.whole hfraction]
  have hleading : ¬ (whole.head? = some '0' ∧ whole.length ≠ 1) := fun hzero =>
    hzero.2 (h.leading hzero.1)
  simp only [Option.bind_eq_bind, Option.bind_some, Bool.and_eq_true, decide_eq_true_eq]
  rw [if_neg hleading, scanFraction_append h.fraction hexponent, Option.bind_some,
    scanExponent_append spells h.exponent ends]
  rfl

theorem isSpace_digit {d : Char} (hd : isDigit d = true) : isSpace d = false := by
  unfold isSpace
  simp only [Bool.or_eq_false_iff, decide_eq_false_iff_not]
  refine ⟨⟨⟨?_, ?_⟩, ?_⟩, ?_⟩
  all_goals
    rintro rfl
    cases hd

theorem scanToken_digit {d : Char} (hd : isDigit d = true) (cs : List Char) :
    scanToken d cs = (scanNumber false (d :: cs)).map fun (numeral, rest) => (.number numeral, rest) := by
  unfold scanToken
  split
  case h_12 => rfl
  all_goals cases hd

theorem scanToken_of_spells (h : token.Spells piece) (ends : ∀ n, token = .number n → EndsNumber rest) :
    ∃ c behind, piece ++ rest = c :: behind ∧ isSpace c = false ∧
      scanToken c behind = some (token, rest) := by
  cases h with
  | number spells =>
    cases spells with
    | @positive whole spelled fraction exponent wellFormed spells =>
      have hnumber := scanNumber_append false wellFormed spells (ends _ rfl)
      -- a number without a sign begins with a digit, which begins no other token
      obtain ⟨d, others, rfl, hd⟩ := wellFormed.whole.head?
      refine ⟨d, others ++ (spellFraction fraction ++ spelled) ++ rest, rfl, isSpace_digit hd, ?_⟩
      rw [List.cons_append, List.cons_append] at hnumber
      rw [scanToken_digit hd, hnumber]
      rfl
    | negative wellFormed spells =>
      refine ⟨'-', _, List.cons_append, rfl, ?_⟩
      rw [scanToken, scanNumber_append true wellFormed spells (ends _ rfl)]
      rfl
  | text names =>
    refine ⟨'"', _, List.cons_append, rfl, ?_⟩
    rw [List.append_assoc, scanToken, List.cons_append, List.nil_append, scanText_of_names names]
    rfl
  | _ => exact ⟨_, _, rfl, rfl, rfl⟩

theorem scan_of_laid (h : Laid ts cs) : scan cs = ts := by
  induction h with
  | nil =>
    unfold scan
    rfl
  | blank space _ ih =>
    unfold scan
    rw [if_pos space, ih]
  | token spells ends _ ih =>
    obtain ⟨c, behind, hcs, hspace, htoken⟩ := scanToken_of_spells spells ends
    rw [hcs]
    unfold scan
    rw [if_neg (by simp [hspace])]
    split
    · next hnone =>
      rw [hnone] at htoken
      cases htoken
    · next hsome =>
      rw [hsome] at htoken
      cases htoken
      rw [ih]

end Json

end DartBundle
