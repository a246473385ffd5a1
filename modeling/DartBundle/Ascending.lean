/-!
This module contains strictly ascending lists, which serve as sorted sets: inserting an element
keeps a list ascending and adds exactly that element.
-/

namespace DartBundle

namespace Ascending

def insert (lt : α → α → Bool) (a : α) : List α → List α
  | [] => [a]
  | b :: rest =>
    if lt a b then
      a :: b :: rest
    else if lt b a then
      b :: insert lt a rest
    else
      b :: rest

def ofList (lt : α → α → Bool) (as : List α) : List α :=
  as.foldr (insert lt) []

/--
Whether an element is in an ascending list. The element in the middle says in which half it can be.
-/
def search (lt : α → α → Bool) (a : α) (as : List α) : Bool :=
  match h : as.drop (as.length / 2) with
  | [] => false
  | middle :: above =>
    if lt a middle then
      search lt a (as.take (as.length / 2))
    else if lt middle a then
      search lt a above
    else
      true
termination_by as.length
decreasing_by
  · have := congrArg List.length h
    simp only [List.length_drop, List.length_cons, List.length_take] at *
    omega
  · have := congrArg List.length h
    simp only [List.length_drop, List.length_cons] at *
    omega

structure StrictOrder (lt : α → α → Bool) : Prop where
  irrefl : ∀ a, lt a a = false
  trans : ∀ {a b c}, lt a b = true → lt b c = true → lt a c = true
  eq_of_not_lt : ∀ {a b}, lt a b = false → lt b a = false → a = b

theorem mem_insert {lt : α → α → Bool} (order : StrictOrder lt) {a x : α} {as : List α} :
    x ∈ insert lt a as ↔ x = a ∨ x ∈ as := by
  induction as with
  | nil => simp [insert]
  | cons b rest ih =>
    unfold insert
    split
    · simp
    · split
      · simp only [List.mem_cons, ih]
        constructor
        · rintro (h | h | h) <;> simp [h]
        · rintro (h | h | h) <;> simp [h]
      · next hab hba =>
        have : a = b := order.eq_of_not_lt (by simpa using hab) (by simpa using hba)
        subst this
        simp

theorem mem_ofList {lt : α → α → Bool} (order : StrictOrder lt) {x : α} {as : List α} :
    x ∈ ofList lt as ↔ x ∈ as := by
  induction as with
  | nil => simp [ofList]
  | cons a rest ih =>
    have : ofList lt (a :: rest) = insert lt a (ofList lt rest) := rfl
    rw [this, mem_insert order, ih, List.mem_cons]

theorem pairwise_insert {lt : α → α → Bool} (order : StrictOrder lt) {a : α} {as : List α}
    (h : as.Pairwise (lt · · = true)) : (insert lt a as).Pairwise (lt · · = true) := by
  induction as with
  | nil => simp [insert]
  | cons b rest ih =>
    obtain ⟨hb, hrest⟩ := List.pairwise_cons.1 h
    unfold insert
    split
    · next hab =>
      refine List.pairwise_cons.2 ⟨?_, h⟩
      intro x hx
      rcases List.mem_cons.1 hx with rfl | hx
      · exact hab
      · exact order.trans hab (hb x hx)
    · split
      · next hba =>
        refine List.pairwise_cons.2 ⟨?_, ih hrest⟩
        intro x hx
        rcases (mem_insert order).1 hx with rfl | hx
        · exact hba
        · exact hb x hx
      · exact h

theorem mem_of_mem_insert {lt : α → α → Bool} {a x : α} {as : List α} (h : x ∈ insert lt a as) :
    x = a ∨ x ∈ as := by
  induction as with
  | nil => simpa [insert] using h
  | cons b rest ih =>
    unfold insert at h
    split at h
    · simpa using h
    · split at h
      · rcases List.mem_cons.1 h with rfl | h
        · exact .inr List.mem_cons_self
        · exact (ih h).imp id (List.mem_cons_of_mem b)
      · exact .inr h

theorem mem_of_mem_ofList {lt : α → α → Bool} {x : α} {as : List α} (h : x ∈ ofList lt as) :
    x ∈ as := by
  induction as with
  | nil => exact h
  | cons a rest ih =>
    rcases mem_of_mem_insert h with rfl | h
    · exact List.mem_cons_self
    · exact List.mem_cons_of_mem a (ih h)

theorem map_insert {β : Type u} {lt : β → β → Bool} (key : α → β) (a : α) (as : List α) :
    (insert (fun x y => lt (key x) (key y)) a as).map key = insert lt (key a) (as.map key) := by
  induction as with
  | nil => rfl
  | cons b rest ih =>
    simp only [insert, List.map_cons]
    split
    · rfl
    · split
      · simp [ih]
      · rfl

theorem map_ofList {β : Type u} {lt : β → β → Bool} (key : α → β) (as : List α) :
    (ofList (fun x y => lt (key x) (key y)) as).map key = ofList lt (as.map key) := by
  induction as with
  | nil => rfl
  | cons a rest ih =>
    have : ofList (fun x y => lt (key x) (key y)) (a :: rest) =
        insert _ a (ofList (fun x y => lt (key x) (key y)) rest) := rfl
    rw [this, map_insert, ih]
    rfl

theorem mem_ofList_key {β : Type u} {lt : β → β → Bool} (order : StrictOrder lt) {key : α → β} {as : List α}
    (inj : ∀ a ∈ as, ∀ b ∈ as, key a = key b → a = b) {x : α} :
    x ∈ ofList (fun a b => lt (key a) (key b)) as ↔ x ∈ as := by
  constructor
  · exact mem_of_mem_ofList
  · intro hx
    have hkey : key x ∈ (ofList (fun a b => lt (key a) (key b)) as).map key := by
      rw [map_ofList, mem_ofList order]
      exact List.mem_map_of_mem hx
    obtain ⟨y, hy, heq⟩ := List.mem_map.1 hkey
    rwa [← inj y (mem_of_mem_ofList hy) x hx heq]

theorem search_eq_true_iff {lt : α → α → Bool} (order : StrictOrder lt) {a : α} {as : List α}
    (h : as.Pairwise (lt · · = true)) : search lt a as = true ↔ a ∈ as := by
  unfold search
  split
  · next hdrop =>
    have := congrArg List.length hdrop
    simp only [List.length_drop, List.length_nil] at this
    have : as = [] := List.eq_nil_of_length_eq_zero (by omega)
    simp [this]
  · next middle above hdrop =>
    have halves : as.take (as.length / 2) ++ middle :: above = as := by
      rw [← hdrop, List.take_append_drop]
    have hlen := congrArg List.length halves
    rw [List.length_append, List.length_cons] at hlen
    have hlength : (as.take (as.length / 2)).length < as.length := by omega
    have hlength' : above.length < as.length := by omega
    rw [← halves] at h
    obtain ⟨hlower, hupper, hcross⟩ := List.pairwise_append.1 h
    obtain ⟨hmiddle, habove⟩ := List.pairwise_cons.1 hupper
    -- no element precedes itself, so the one looked for is on the side the middle says
    have hself : ∀ {b}, lt a b = true → lt b a = true → False := by
      intro b hab hba
      have := order.trans hab hba
      rw [order.irrefl] at this
      cases this
    have hmem : a ∈ as ↔ a ∈ as.take (as.length / 2) ∨ a = middle ∨ a ∈ above := by
      rw [← List.mem_cons, ← List.mem_append, halves]
    rw [hmem]
    split
    · next hlt =>
      rw [search_eq_true_iff order hlower]
      constructor
      · exact .inl
      · rintro (ha | rfl | ha)
        · exact ha
        · exact (hself hlt hlt).elim
        · exact (hself hlt (hmiddle a ha)).elim
    · split
      · next hlt =>
        rw [search_eq_true_iff order habove]
        constructor
        · exact fun ha => .inr (.inr ha)
        · rintro (ha | rfl | ha)
          · exact (hself (hcross a ha middle List.mem_cons_self) hlt).elim
          · exact (hself hlt hlt).elim
          · exact ha
      · next hlt hgt =>
        have : a = middle := order.eq_of_not_lt (by simpa using hlt) (by simpa using hgt)
        simp [this]
termination_by as.length
decreasing_by all_goals assumption

theorem pairwise_ofList {lt : α → α → Bool} (order : StrictOrder lt) (as : List α) :
    (ofList lt as).Pairwise (lt · · = true) := by
  induction as with
  | nil => simp [ofList]
  | cons a rest ih => exact pairwise_insert order ih

end Ascending

end DartBundle
