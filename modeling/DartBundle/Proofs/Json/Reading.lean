import DartBundle.Json.Decode
import DartBundle.Proofs.Json.Spelling
/-!
This module contains the reading of values: a text that spells a value is read as this value, and as
nothing else besides it. A value that can be spelled has no broken part.
-/

namespace DartBundle

namespace Json

variable {value : Json} {items : List Json} {fields : List (Option String × Json)} {token : Token}
  {ts rest : List Token} {stack : List Frame} {text : String} {cs : List Char}

theorem exists_tokens_eq_cons (value : Json) :
    ∃ token ts, value.tokens = token :: ts ∧ token ≠ .closeArray := by
  cases value with
  | array items | object fields =>
    unfold tokens
    exact ⟨_, _, List.cons_append, by simp⟩
  | _ => exact ⟨_, _, by rw [tokens], by simp⟩

theorem finish_firstItem (h : token ≠ .closeArray) :
    (Reading.firstItem stack).finish (token :: ts) =
      (Reading.start (.array [] :: stack)).finish (token :: ts) := by
  have hstep : (Reading.firstItem stack).step token = (Reading.start (.array [] :: stack)).step token := by
    cases token with
    | closeArray => exact absurd rfl h
    | _ => rfl
  unfold Reading.finish
  rw [hstep]
  rfl

theorem exists_itemTokens_eq_cons (item : Json) (others : List Json) :
    ∃ token ts, itemTokens (item :: others) = token :: ts ∧ token ≠ .closeArray := by
  obtain ⟨token, ts, htokens, htoken⟩ := exists_tokens_eq_cons item
  cases others with
  | nil => exact ⟨token, ts, htokens, htoken⟩
  | cons next others =>
    rw [itemTokens, htokens]
    · exact ⟨token, _, List.cons_append, htoken⟩
    · simp

theorem exists_fieldTokens_eq_cons (field : Option String × Json)
    (others : List (Option String × Json)) :
    ∃ ts, fieldTokens (field :: others) = .text field.1 :: ts := by
  cases others with
  | nil => exact ⟨_, rfl⟩
  | cons next others => exact ⟨_, List.cons_append⟩

mutual

theorem finish_tokens (value : Json) (h : value.intact = true) (stack : List Frame)
    (rest : List Token) :
    (Reading.start stack).finish (value.tokens ++ rest) = (complete value stack).finish rest := by
  -- whatever frames a value stands in, it is read to its end before they go on
  match value with
  | .array [] | .object [] => rfl
  | .array (item :: others) =>
    have hitems := finish_itemTokens (item :: others) h (by simp) [] stack rest
    obtain ⟨token, ts, htokens, htoken⟩ := exists_itemTokens_eq_cons item others
    unfold tokens
    rw [List.append_assoc, htokens]
    rw [htokens] at hitems
    exact (finish_firstItem htoken).trans hitems
  | .object (field :: others) =>
    have hfields := finish_fieldTokens (field :: others) h (by simp) [] stack rest
    obtain ⟨ts, htokens⟩ := exists_fieldTokens_eq_cons field others
    unfold tokens
    rw [List.append_assoc, htokens]
    rw [htokens] at hfields
    exact hfields
  | .broken => cases h
  | .null | .boolean _ | .number _ | .text _ => rfl

theorem finish_itemTokens (items : List Json) (h : intactItems items = true) (hne : items ≠ [])
    (earlier : List Json) (stack : List Frame) (rest : List Token) :
    (Reading.start (.array earlier :: stack)).finish (itemTokens items ++ .closeArray :: rest) =
      (complete (.array (earlier.reverse ++ items)) stack).finish rest := by
  match items with
  | [item] =>
    have hitem := finish_tokens item (Bool.and_eq_true_iff.1 h).1 (.array earlier :: stack)
      (.closeArray :: rest)
    rw [← List.reverse_cons]
    exact hitem
  | item :: next :: others =>
    obtain ⟨hitem, hothers⟩ := Bool.and_eq_true_iff.1 h
    have hnext := finish_itemTokens (next :: others) hothers (by simp) (item :: earlier) stack rest
    have htokens : itemTokens (item :: next :: others) ++ .closeArray :: rest =
        item.tokens ++ .comma :: (itemTokens (next :: others) ++ .closeArray :: rest) :=
      List.append_assoc ..
    rw [htokens, finish_tokens item hitem, List.append_cons earlier.reverse item, ← List.reverse_cons]
    exact hnext

theorem finish_fieldTokens (fields : List (Option String × Json)) (h : intactFields fields = true)
    (hne : fields ≠ []) (earlier : List (Option String × Json)) (stack : List Frame)
    (rest : List Token) :
    (Reading.nextKey earlier stack).finish (fieldTokens fields ++ .closeObject :: rest) =
      (complete (.object (earlier.reverse ++ fields)) stack).finish rest := by
  match fields with
  | [(key, value)] =>
    have hvalue := finish_tokens value (Bool.and_eq_true_iff.1 h).1 (.object earlier key :: stack)
      (.closeObject :: rest)
    rw [← List.reverse_cons]
    exact hvalue
  | (key, value) :: next :: others =>
    obtain ⟨hvalue, hothers⟩ := Bool.and_eq_true_iff.1 h
    have hnext := finish_fieldTokens (next :: others) hothers (by simp) ((key, value) :: earlier)
      stack rest
    have htokens : fieldTokens ((key, value) :: next :: others) ++ .closeObject :: rest =
        .text key :: .colon :: (value.tokens ++
          .comma :: (fieldTokens (next :: others) ++ .closeObject :: rest)) := by
      simp [fieldTokens]
    have hstart := finish_tokens value hvalue (.object earlier key :: stack)
      (.comma :: (fieldTokens (next :: others) ++ .closeObject :: rest))
    rw [htokens, List.append_cons earlier.reverse (key, value), ← List.reverse_cons]
    exact hstart.trans hnext

end

mutual

theorem intact_of_tokens (value : Json) (h : .malformed ∉ value.tokens) : value.intact = true := by
  match value with
  | .array items =>
    exact intactItems_of_tokens items fun hmem =>
      h (List.mem_cons_of_mem _ (List.mem_append_left _ hmem))
  | .object fields =>
    exact intactFields_of_tokens fields fun hmem =>
      h (List.mem_cons_of_mem _ (List.mem_append_left _ hmem))
  | .broken =>
    unfold tokens at h
    simp at h
  | .null | .boolean _ | .number _ | .text _ => rfl

theorem intactItems_of_tokens (items : List Json) (h : .malformed ∉ itemTokens items) :
    intactItems items = true := by
  match items with
  | [] => rfl
  | [item] => exact Bool.and_eq_true_iff.2 ⟨intact_of_tokens item h, rfl⟩
  | item :: next :: others =>
    rw [itemTokens, List.mem_append, List.mem_cons, not_or, not_or] at h
    · exact Bool.and_eq_true_iff.2
        ⟨intact_of_tokens item h.1, intactItems_of_tokens (next :: others) h.2.2⟩
    · simp

theorem intactFields_of_tokens (fields : List (Option String × Json))
    (h : .malformed ∉ fieldTokens fields) : intactFields fields = true := by
  match fields with
  | [] => rfl
  | [(key, value)] =>
    rw [fieldTokens, List.mem_cons, List.mem_cons, not_or, not_or] at h
    exact Bool.and_eq_true_iff.2 ⟨intact_of_tokens value h.2.2, rfl⟩
  | (key, value) :: next :: others =>
    rw [fieldTokens, List.cons_append, List.cons_append, List.mem_cons, List.mem_cons, List.mem_append,
      List.mem_cons, not_or, not_or, not_or, not_or] at h
    · exact Bool.and_eq_true_iff.2
        ⟨intact_of_tokens value h.2.2.1, intactFields_of_tokens (next :: others) h.2.2.2.2⟩
    · simp

end

theorem malformed_not_mem_of_laid (h : Laid ts cs) : .malformed ∉ ts := by
  induction h with
  | nil => simp
  | blank space _ ih => exact ih
  | token spells _ _ ih =>
    rw [List.mem_cons, not_or]
    refine ⟨?_, ih⟩
    rintro rfl
    cases spells

theorem intact_of_spells (h : value.Spells text) : value.intact = true :=
  intact_of_tokens value (malformed_not_mem_of_laid h)

theorem read_of_spells (h : value.Spells text) : read text = ⟨value, true⟩ := by
  have hfinish := finish_tokens value (intact_of_spells h) [] []
  rw [List.append_nil] at hfinish
  unfold read
  rw [scan_of_laid h, hfinish]
  rfl

theorem decode_of_spells {α : Type} {data : Json → Decoded α} (h : value.Spells text) :
    decode data text = data value := by
  unfold decode
  rw [read_of_spells h]
  dsimp only
  cases data value with
  | ok a => rfl
  | error fault => rfl

end Json

end DartBundle
