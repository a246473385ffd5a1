import DartBundle.Proofs.Module.Nearest
/-!
This module contains how often a module names its sources. It leaves out the primary source where that is
listed again, and no other source: one that is listed twice is named twice.
-/

namespace DartBundle

namespace Module

variable {m : Module} {source : AssetId}

def ListedOnce (m : Module) : Prop :=
  ∀ source ∈ m.sources, source ≠ m.primarySource → m.sources.count source = 1

instance : Decidable m.ListedOnce :=
  inferInstanceAs (Decidable (∀ source ∈ m.sources, source ≠ m.primarySource →
    m.sources.count source = 1))

theorem count_allSources (m : Module) (source : AssetId) :
    m.allSources.count source =
      if source = m.primarySource then 1 else m.sources.count source := by
  unfold allSources
  split
  · next h =>
    subst h
    simp [List.count_eq_zero]
  · next h => simp [List.count_cons_of_ne (Ne.symm h), List.count_filter, h]

theorem firstOccurrences_allSources (m : Module) :
    firstOccurrences m.allSources = firstOccurrences (m.primarySource :: m.sources) := by
  unfold allSources
  rw [firstOccurrences, firstOccurrences, firstOccurrences_filter, List.filter_filter]
  simp only [Bool.and_self]

theorem nodup_allSources_iff : m.allSources.Nodup ↔ m.ListedOnce := by
  unfold ListedOnce
  rw [List.nodup_iff_count_le_one]
  simp only [count_allSources]
  constructor
  · intro h source hsource hne
    have hle := h source
    rw [if_neg hne] at hle
    have := List.count_pos_iff.2 hsource
    omega
  · intro h source
    split
    · exact Nat.le_refl 1
    · next hne =>
      by_cases hsource : source ∈ m.sources
      · exact Nat.le_of_eq (h source hsource hne)
      · rw [List.count_eq_zero.2 hsource]
        exact Nat.zero_le 1

theorem allSources_eq_firstOccurrences_iff :
    m.allSources = firstOccurrences (m.primarySource :: m.sources) ↔ m.ListedOnce := by
  rw [← firstOccurrences_allSources, eq_comm, firstOccurrences_eq_self_iff, nodup_allSources_iff]

theorem sources_named_once_iff (m : Module) :
    m.allSources.head? = some m.primarySource ∧
      (∀ source, m.allSources.count source =
        if source = m.primarySource then 1 else m.sources.count source) ∧
      firstOccurrences m.allSources = firstOccurrences (m.primarySource :: m.sources) ∧
      (m.allSources = firstOccurrences (m.primarySource :: m.sources) ↔ m.ListedOnce) ∧
      (m.allSources.Nodup ↔ m.ListedOnce) ∧
      (m.supported = false → m.unsupportedLibraries = [] →
        (m.offendingLibraries.Nodup ↔ m.ListedOnce)) := by
  refine ⟨rfl, count_allSources m, firstOccurrences_allSources m,
    allSources_eq_firstOccurrences_iff, nodup_allSources_iff, ?_⟩
  intro hsupported hlibraries
  have hoffending : m.offendingLibraries = m.allSources := by
    simp [offendingLibraries, isSupported, hsupported, hlibraries]
  rw [hoffending, nodup_allSources_iff]

def primaryRepeated : Module where
  primarySource := ⟨"a", "lib/x"⟩
  sources := [⟨"a", "lib/y"⟩, ⟨"a", "lib/x"⟩, ⟨"a", "lib/z"⟩, ⟨"a", "lib/x"⟩]
  supported := false

theorem sources_of_primaryRepeated_named_once :
    primaryRepeated.ListedOnce ∧
      primaryRepeated.allSources = [⟨"a", "lib/x"⟩, ⟨"a", "lib/y"⟩, ⟨"a", "lib/z"⟩] ∧
      primaryRepeated.offendingLibraries.Nodup := by
  have honce : primaryRepeated.ListedOnce := by decide
  obtain ⟨-, -, -, hexact, -, hoffending⟩ := sources_named_once_iff primaryRepeated
  refine ⟨honce, ?_, (hoffending rfl rfl).2 honce⟩
  rw [hexact.2 honce]
  decide

def partRepeated : Module where
  primarySource := ⟨"a", "lib/x"⟩
  sources := [⟨"a", "lib/y"⟩, ⟨"a", "lib/y"⟩]
  supported := false

theorem part_listed_twice_named_twice :
    partRepeated.allSources = [⟨"a", "lib/x"⟩, ⟨"a", "lib/y"⟩, ⟨"a", "lib/y"⟩] ∧
      ¬ partRepeated.allSources.Nodup ∧
      firstOccurrences (partRepeated.primarySource :: partRepeated.sources) =
        [⟨"a", "lib/x"⟩, ⟨"a", "lib/y"⟩] ∧
      partRepeated.unsupportedLibraries = [] ∧ ¬ partRepeated.offendingLibraries.Nodup := by
  decide

end Module

end DartBundle
