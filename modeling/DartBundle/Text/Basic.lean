/-!
This module contains the text operations that asset ids, paths and manifests share: cutting at a
separator and the order of texts by code points.
-/

namespace DartBundle

namespace Text

def split (sep : Char) (cs : List Char) : List (List Char) :=
  cs.splitOn sep

theorem not_mem_of_mem_splitOn {sep : Char} {cs piece : List Char} (h : piece ∈ cs.splitOn sep) :
    sep ∉ piece := by
  induction cs generalizing piece with
  | nil =>
    rw [List.splitOn_nil, List.mem_singleton] at h
    simp [h]
  | cons c rest ih =>
    rw [List.splitOn_cons_eq_if_modifyHead] at h
    split at h
    · rcases List.mem_cons.1 h with rfl | h
      · simp
      · exact ih h
    · next hc =>
      cases hrest : rest.splitOn sep with
      | nil => exact absurd hrest (List.splitOn_ne_nil sep rest)
      | cons first pieces =>
        rw [hrest] at h ih
        rcases List.mem_cons.1 h with rfl | h
        · rw [List.mem_cons, not_or]
          exact ⟨fun heq => hc (by simp [heq]), ih List.mem_cons_self⟩
        · exact ih (List.mem_cons_of_mem _ h)

def cut? (sep : Char) : List Char → Option (List Char × List Char)
  | [] => none
  | c :: rest =>
    if c = sep then
      some ([], rest)
    else
      (cut? sep rest).map fun (before, after) => (c :: before, after)

theorem cut?_append {sep : Char} {before : List Char} (after : List Char) (h : sep ∉ before) :
    cut? sep (before ++ sep :: after) = some (before, after) := by
  induction before with
  | nil => simp [cut?]
  | cons c rest ih =>
    simp only [List.mem_cons, not_or] at h
    simp [cut?, Ne.symm h.1, ih h.2]

theorem cut?_eq_some {sep : Char} {cs before after : List Char}
    (h : cut? sep cs = some (before, after)) : cs = before ++ sep :: after ∧ sep ∉ before := by
  induction cs generalizing before after with
  | nil => simp [cut?] at h
  | cons c rest ih =>
    unfold cut? at h
    split at h
    · next hc =>
      simp only [Option.some.injEq, Prod.mk.injEq] at h
      obtain ⟨rfl, rfl⟩ := h
      simp [hc]
    · next hc =>
      simp only [Option.map_eq_some_iff, Prod.mk.injEq, Prod.exists] at h
      obtain ⟨first, last, hcut, rfl, rfl⟩ := h
      have := ih hcut
      refine ⟨by simp [this.1], ?_⟩
      simp only [List.mem_cons, not_or]
      exact ⟨fun e => hc e.symm, this.2⟩

/--
The order of character lists: at the first difference the smaller code point comes first, and a
text comes before its continuations.
-/
def before (a b : List Char) : Bool :=
  decide (a < b)

theorem before_irrefl (a : List Char) : before a a = false := by
  simp [before]

theorem before_trans {a b c : List Char} (hab : before a b = true) (hbc : before b c = true) :
    before a c = true := by
  unfold before at hab hbc ⊢
  rw [decide_eq_true_eq] at hab hbc ⊢
  exact List.lt_trans hab hbc

theorem eq_of_not_before {a b : List Char} (hab : before a b = false) (hba : before b a = false) :
    a = b := by
  unfold before at hab hba
  rw [decide_eq_false_iff_not] at hab hba
  exact List.le_antisymm hba hab

end Text

end DartBundle
