/-!
This module contains tables: finite maps whose keys are distinct. A table is known by what `lookup`
finds in it, and each operation comes with the equation that says what `lookup` finds afterwards.
-/

namespace DartBundle

/--
A finite map from keys to values.
-/
structure Table (κ : Type) (ν : Type) where
  entries : List (κ × ν)
  distinct : (entries.map (·.1)).Nodup := by simp

namespace Table

variable {κ ν : Type} [DecidableEq κ]

def empty : Table κ ν where
  entries := []

instance : Inhabited (Table κ ν) := ⟨empty⟩

def lookup (t : Table κ ν) (key : κ) : Option ν :=
  (t.entries.find? fun entry => decide (entry.1 = key)).map (·.2)

def contains (t : Table κ ν) (key : κ) : Bool :=
  (t.lookup key).isSome

def erase (t : Table κ ν) (key : κ) : Table κ ν where
  entries := t.entries.filter fun entry => decide (entry.1 ≠ key)
  distinct := t.distinct.sublist ((List.filter_sublist ..).map _)

def insert (t : Table κ ν) (key : κ) (value : ν) : Table κ ν where
  entries := (key, value) :: (t.erase key).entries
  distinct := by
    refine List.nodup_cons.2 ⟨?_, (t.erase key).distinct⟩
    simp [erase]

def insertNew (t : Table κ ν) (key : κ) (value : ν) : Table κ ν :=
  if t.contains key then t else t.insert key value

def eraseAll (t : Table κ ν) (doomed : κ → Bool) : Table κ ν where
  entries := t.entries.filter fun entry => !doomed entry.1
  distinct := t.distinct.sublist ((List.filter_sublist ..).map _)

def mapValues (t : Table κ ν) (change : ν → ν) : Table κ ν where
  entries := t.entries.map fun (key, value) => (key, change value)
  distinct := by
    have : (t.entries.map fun (key, value) => (key, change value)).map (·.1) =
        t.entries.map (·.1) := by simp
    rw [this]
    exact t.distinct

def keys (t : Table κ ν) : List κ :=
  t.entries.map (·.1)

def size (t : Table κ ν) : Nat :=
  t.entries.length

def isEmpty (t : Table κ ν) : Bool :=
  t.entries.isEmpty

@[simp]
theorem lookup_empty (key : κ) : (empty : Table κ ν).lookup key = none := rfl

theorem find?_filter_ne (entries : List (κ × ν)) {key other : κ} (h : other ≠ key) :
    (entries.filter fun entry => decide (entry.1 ≠ key)).find?
      (fun entry => decide (entry.1 = other)) =
      entries.find? (fun entry => decide (entry.1 = other)) := by
  induction entries with
  | nil => rfl
  | cons entry rest ih =>
    by_cases hk : entry.1 = key
    · have : ¬ entry.1 = other := fun e => h (e.symm.trans hk)
      simpa [List.filter_cons, List.find?_cons, hk, this, Ne.symm h] using ih
    · by_cases ho : entry.1 = other
      · simp [ho, h]
      · simpa [List.filter_cons, List.find?_cons, hk, ho] using ih

theorem lookup_erase (t : Table κ ν) (key other : κ) :
    (t.erase key).lookup other = if other = key then none else t.lookup other := by
  split
  · next h =>
    subst h
    simp only [lookup, erase, Option.map_eq_none_iff]
    apply List.find?_eq_none.2
    intro entry hentry
    have := (List.mem_filter.1 hentry).2
    simpa using this
  · next h =>
    simp only [lookup, erase]
    rw [find?_filter_ne _ h]

theorem lookup_insert (t : Table κ ν) (key other : κ) (value : ν) :
    (t.insert key value).lookup other = if other = key then some value else t.lookup other := by
  by_cases h : other = key
  · subst h
    simp [lookup, insert]
  · have : ¬ key = other := fun e => h e.symm
    have erased := lookup_erase t key other
    simp only [h, if_false] at erased ⊢
    rw [← erased]
    simp [lookup, insert, this]

@[simp]
theorem lookup_insert_self (t : Table κ ν) (key : κ) (value : ν) :
    (t.insert key value).lookup key = some value := by
  simp [lookup_insert]

theorem lookup_insertNew (t : Table κ ν) (key other : κ) (value : ν) :
    (t.insertNew key value).lookup other =
      (t.lookup other).or (if other = key then some value else none) := by
  unfold insertNew contains
  by_cases h : other = key
  · subst h
    cases hlookup : t.lookup other <;> simp [hlookup]
  · split <;> simp [lookup_insert, h]

end Table

end DartBundle
