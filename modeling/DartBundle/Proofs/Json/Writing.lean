import DartBundle.Proofs.Json.Reading
import Mathlib.Data.List.Chain
/-!
This module contains the writing of values with one item or field a line: what is written spells the
value, so it is read back as the value it was written for.
-/

namespace DartBundle

namespace Json

def Token.Writable : Token → Prop
  | .number n => n.WellFormed
  | .text content => content.isSome = true
  | .malformed => False
  | _ => True

/--
Whether a value keeps what it means when it is written: it is not broken, its strings have content and
its numerals are those of JSON.
-/
def Writable (value : Json) : Prop :=
  ∀ token ∈ value.tokens, token.Writable

def Token.isNumber : Token → Bool
  | .number _ => true
  | _ => false

def Apart (ts : List Token) : Prop :=
  ts.IsChain fun a b => a.isNumber = false ∨ b.isNumber = false

def spellExponent : Option (Bool × List Char) → List Char
  | some (negative, digits) => 'e' :: (if negative then ['-'] else []) ++ digits
  | none => []

variable {c : Char} {cs : List Char} {named : List Named} {token : Token} {ts : List Token}
  {value : Json} {items : List Json} {fields : List (Option String × Json)}

theorem joinHalves_char (cs : List Char) : joinHalves (cs.map .char) = some cs := by
  induction cs with
  | nil => rfl
  | cons c rest ih =>
    rw [List.map_cons, joinHalves, ih]
    rfl

theorem unit?_hexDigit : ∀ n < 0x20, unit? '0' '0' (hexDigit (n / 16)) (hexDigit (n % 16)) = some n := by
  decide

theorem names_escape (c : Char) (h : Names named cs) : Names (.char c :: named) (escape c ++ cs) := by
  unfold escape
  split
  case h_8 =>
    -- a control character without a short escape is given by its unit
    split
    · next hcontrol =>
      have hunit : Named.ofUnit c.toNat = .char c := by
        unfold Named.ofUnit
        rw [if_pos (by simp; omega), Char.ofNat_toNat]
      rw [← hunit]
      exact .unit (unit?_hexDigit c.toNat hcontrol) h
    · next hprintable =>
      exact .plain (by omega) (by assumption) (by assumption) h
  all_goals exact .short rfl h

theorem names_flatMap_escape (cs : List Char) : Names (cs.map .char) (cs.flatMap escape) := by
  induction cs with
  | nil => exact .nil
  | cons c rest ih => exact names_escape c ih

theorem Numeral.spelling_eq (n : Numeral) :
    n.spelling = (if n.negative then ['-'] else []) ++
      (n.whole ++ (spellFraction n.fraction ++ spellExponent n.exponent)) := by
  unfold Numeral.spelling
  rw [List.append_assoc, List.append_assoc]
  rfl

theorem exponentSpells_spellExponent (exponent : Option (Bool × List Char)) :
    ExponentSpells exponent (spellExponent exponent) := by
  match exponent with
  | none => exact .absent
  | some (false, digits) => exact .unsigned (.inl rfl)
  | some (true, digits) => exact .minus (.inl rfl)

theorem Numeral.spells_spelling {n : Numeral} (h : n.WellFormed) : n.Spells n.spelling := by
  rw [Numeral.spelling_eq]
  obtain ⟨negative, whole, fraction, exponent⟩ := n
  cases negative with
  | false => exact .positive h (exponentSpells_spellExponent exponent)
  | true => exact .negative h (exponentSpells_spellExponent exponent)

theorem Token.spells_spelling (h : token.Writable) : token.Spells token.spelling := by
  cases token with
  | number n => exact .number (Numeral.spells_spelling h)
  | text content =>
    obtain ⟨s, rfl⟩ := Option.isSome_iff_exists.1 h
    have hspells := Token.Spells.text (names_flatMap_escape s.toList)
    rw [joinHalves_char, Option.map_some, String.ofList_toList] at hspells
    exact hspells
  | boolean value =>
    cases value with
    | true => exact .true
    | false => exact .false
  | malformed => cases h
  | _ => constructor

theorem Laid.blanks {blanks : List Char} (space : ∀ c ∈ blanks, isSpace c = true) (h : Laid ts cs) :
    Laid ts (blanks ++ cs) := by
  induction blanks with
  | nil => exact h
  | cons c rest ih =>
    obtain ⟨hc, hrest⟩ := List.forall_mem_cons.1 space
    exact .blank hc (ih hrest)

theorem Laid.newline (depth : Nat) (h : Laid ts cs) : Laid ts (Json.newline depth ++ cs) := by
  refine .blank rfl (.blanks ?_ h)
  intro c hc
  rw [List.eq_of_mem_replicate hc]
  rfl

theorem endsNumber_cons (h : isDigit c = false) (hpoint : c ≠ '.') (hsmall : c ≠ 'e') (hbig : c ≠ 'E') :
    EndsNumber (c :: cs) := by
  intro d hd
  cases hd
  exact ⟨h, hpoint, hsmall, hbig⟩

theorem endsNumber_pretty (depth : Nat) (h : ∀ n, ts.head? ≠ some (.number n)) :
    EndsNumber (pretty depth ts) := by
  fun_cases pretty depth ts with
  | case1 => nofun
  | case10 =>
    rename_i token rest _ _ _ _ _ _ _ _
    cases token with
    | number n => exact absurd rfl (h n)
    | boolean value =>
      cases value with
      | true => exact endsNumber_cons rfl (by decide) (by decide) (by decide)
      | false => exact endsNumber_cons rfl (by decide) (by decide) (by decide)
    | null | text _ | malformed => exact endsNumber_cons rfl (by decide) (by decide) (by decide)
    | _ => contradiction
  | _ => exact endsNumber_cons rfl (by decide) (by decide) (by decide)

theorem Laid.punctuation {piece : List Char} (spells : token.Spells piece)
    (h : token.isNumber = false) (laid : Laid ts cs) : Laid (token :: ts) (piece ++ cs) := by
  refine .token spells ?_ laid
  rintro n rfl
  cases h

theorem laid_pretty (depth : Nat) (writable : ∀ token ∈ ts, token.Writable) (apart : Apart ts) :
    Laid ts (pretty depth ts) := by
  fun_induction pretty depth ts with
  | case1 => exact .nil
  | case2 depth rest ih =>
    have hrest := ih (fun t ht => writable t (by simp [ht])) apart.tail.tail
    exact .punctuation .openArray rfl (.punctuation .closeArray rfl hrest)
  | case3 depth rest ih =>
    have hrest := ih (fun t ht => writable t (by simp [ht])) apart.tail.tail
    exact .punctuation .openObject rfl (.punctuation .closeObject rfl hrest)
  | case4 depth rest _ ih =>
    have hrest := ih (fun t ht => writable t (List.mem_cons_of_mem _ ht)) apart.tail
    have hfirst := Laid.punctuation .openArray rfl (hrest.newline (depth + 1))
    exact hfirst
  | case5 depth rest _ ih =>
    have hrest := ih (fun t ht => writable t (List.mem_cons_of_mem _ ht)) apart.tail
    have hfirst := Laid.punctuation .openObject rfl (hrest.newline (depth + 1))
    exact hfirst
  | case6 depth rest ih =>
    have hrest := ih (fun t ht => writable t (List.mem_cons_of_mem _ ht)) apart.tail
    exact .newline _ (.punctuation .closeArray rfl hrest)
  | case7 depth rest ih =>
    have hrest := ih (fun t ht => writable t (List.mem_cons_of_mem _ ht)) apart.tail
    exact .newline _ (.punctuation .closeObject rfl hrest)
  | case8 depth rest ih =>
    have hrest := ih (fun t ht => writable t (List.mem_cons_of_mem _ ht)) apart.tail
    have hfirst := Laid.punctuation .comma rfl (hrest.newline depth)
    exact hfirst
  | case9 depth rest ih =>
    have hrest := ih (fun t ht => writable t (List.mem_cons_of_mem _ ht)) apart.tail
    exact .punctuation .colon rfl (.blank rfl hrest)
  | case10 depth token rest _ _ _ _ _ _ _ _ ih =>
    obtain ⟨htoken, hrest⟩ := List.forall_mem_cons.1 writable
    refine .token (Token.spells_spelling htoken) ?_ (ih hrest apart.tail)
    -- a number has to end somewhere, and what follows it is no number
    rintro n rfl
    apply endsNumber_pretty
    intro m hm
    rcases (List.isChain_cons.1 apart).1 _ hm with h | h
    · cases h
    · cases h

theorem apart_cons (h : token.isNumber = false) (hts : Apart ts) : Apart (token :: ts) :=
  List.isChain_cons.2 ⟨fun _ _ => .inl h, hts⟩

theorem apart_append_cons {us : List Token} (h : token.isNumber = false) (hts : Apart ts)
    (hus : Apart us) : Apart (ts ++ token :: us) := by
  refine List.isChain_append.2 ⟨hts, apart_cons h hus, ?_⟩
  intro a _ b hb
  cases hb
  exact .inr h

mutual

theorem apart_tokens (value : Json) : Apart value.tokens := by
  match value with
  | .array items =>
    have hitems := apart_itemTokens items
    exact apart_cons rfl (apart_append_cons rfl hitems List.isChain_nil)
  | .object fields =>
    have hfields := apart_fieldTokens fields
    exact apart_cons rfl (apart_append_cons rfl hfields List.isChain_nil)
  | .null | .boolean _ | .number _ | .text _ | .broken => exact List.isChain_singleton _

theorem apart_itemTokens (items : List Json) : Apart (itemTokens items) := by
  match items with
  | [] => exact List.isChain_nil
  | [item] => exact apart_tokens item
  | item :: next :: others =>
    have hitem := apart_tokens item
    have hothers := apart_itemTokens (next :: others)
    exact apart_append_cons rfl hitem hothers

theorem apart_fieldTokens (fields : List (Option String × Json)) : Apart (fieldTokens fields) := by
  match fields with
  | [] => exact List.isChain_nil
  | [(key, value)] =>
    have hvalue := apart_tokens value
    exact apart_cons rfl (apart_cons rfl hvalue)
  | (key, value) :: next :: others =>
    have hvalue := apart_tokens value
    have hothers := apart_fieldTokens (next :: others)
    exact apart_cons rfl (apart_cons rfl (apart_append_cons rfl hvalue hothers))

end

theorem spells_writePretty (h : value.Writable) : value.Spells value.writePretty := by
  unfold Spells writePretty
  rw [String.toList_ofList]
  exact laid_pretty 0 h (apart_tokens value)

theorem writable_itemTokens (items : List Json) (h : ∀ item ∈ items, item.Writable) :
    ∀ token ∈ itemTokens items, token.Writable := by
  match items with
  | [] => nofun
  | [item] => exact h item List.mem_cons_self
  | item :: next :: others =>
    obtain ⟨hitem, hothers⟩ := List.forall_mem_cons.1 h
    exact List.forall_mem_append.2
      ⟨hitem, List.forall_mem_cons.2 ⟨trivial, writable_itemTokens (next :: others) hothers⟩⟩

theorem writable_array (h : ∀ item ∈ items, item.Writable) : (Json.array items).Writable :=
  List.forall_mem_cons.2 ⟨trivial, List.forall_mem_append.2
    ⟨writable_itemTokens items h, List.forall_mem_singleton.2 trivial⟩⟩

theorem writable_fieldTokens (fields : List (Option String × Json))
    (h : ∀ field ∈ fields, field.1.isSome = true ∧ field.2.Writable) :
    ∀ token ∈ fieldTokens fields, token.Writable := by
  match fields with
  | [] => nofun
  | [(key, value)] =>
    obtain ⟨hkey, hvalue⟩ := h _ List.mem_cons_self
    exact List.forall_mem_cons.2 ⟨hkey, List.forall_mem_cons.2 ⟨trivial, hvalue⟩⟩
  | (key, value) :: next :: others =>
    obtain ⟨⟨hkey, hvalue⟩, hothers⟩ := List.forall_mem_cons.1 h
    refine List.forall_mem_cons.2 ⟨hkey, List.forall_mem_cons.2 ⟨trivial, ?_⟩⟩
    exact List.forall_mem_append.2
      ⟨hvalue, List.forall_mem_cons.2 ⟨trivial, writable_fieldTokens (next :: others) hothers⟩⟩

theorem writable_object (h : ∀ field ∈ fields, field.1.isSome = true ∧ field.2.Writable) :
    (Json.object fields).Writable :=
  List.forall_mem_cons.2 ⟨trivial, List.forall_mem_append.2
    ⟨writable_fieldTokens fields h, List.forall_mem_singleton.2 trivial⟩⟩

theorem writable_text (content : String) : (Json.text (some content)).Writable :=
  List.forall_mem_singleton.2 rfl

theorem writable_boolean (flag : Bool) : (Json.boolean flag).Writable :=
  List.forall_mem_singleton.2 trivial

end Json

end DartBundle
