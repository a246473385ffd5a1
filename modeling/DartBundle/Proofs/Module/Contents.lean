import DartBundle.Proofs.Module.Verdict
import Mathlib.Data.List.Sort
/-!
This module contains what a verdict on an entry point gives to those who go on with it: the sources and
packages of a closure, and the libraries to blame.
-/

namespace DartBundle

theorem Ascending.eq_of_mem_iff {lt : α → α → Bool} (order : StrictOrder lt) {as bs : List α}
    (has : as.Pairwise (lt · · = true)) (hbs : bs.Pairwise (lt · · = true))
    (h : ∀ a, a ∈ as ↔ a ∈ bs) : as = bs := by
  have irrefl : Std.Irrefl fun a b => lt a b = true := ⟨fun a => by simp [order.irrefl a]⟩
  have antisymm : Std.Antisymm fun a b => lt a b = true := by
    refine ⟨fun a b hab hba => ?_⟩
    have := order.trans hab hba
    rw [order.irrefl] at this
    cases this
  exact has.eq_of_mem_iff hbs h

namespace Module

variable {m : Module} {library : AssetId}

theorem isSupported_eq_false_iff :
    m.isSupported = false ↔ m.supported = false ∨ m.unsupportedLibraries ≠ [] := by
  unfold isSupported
  cases m.supported <;> simp

theorem mem_offendingLibraries_iff :
    library ∈ m.offendingLibraries ↔
      (m.supported = false ∨ m.unsupportedLibraries ≠ []) ∧
        (library ∈ m.unsupportedLibraries ∨
          m.unsupportedLibraries = [] ∧ (library = m.primarySource ∨ library ∈ m.sources)) := by
  rw [← isSupported_eq_false_iff, ← mem_allSources]
  unfold offendingLibraries
  cases m.isSupported with
  | true => simp
  | false =>
    cases hlibraries : m.unsupportedLibraries with
    | nil => simp
    | cons first rest => simp

end Module

namespace Closure

variable {c : Closure} {source : AssetId} {package : String}

theorem before_strictOrder :
    Ascending.StrictOrder fun a b : String => Text.before a.toList b.toList where
  irrefl a := Text.before_irrefl a.toList
  trans hab hbc := Text.before_trans hab hbc
  eq_of_not_lt hab hba := String.toList_injective (Text.eq_of_not_before hab hba)

theorem mem_sources : source ∈ c.sources ↔ ∃ m ∈ c.modules, source ∈ m.allSources := by
  unfold sources
  rw [Ascending.mem_ofList AssetId.before_strictOrder, List.mem_flatMap]

theorem mem_packages :
    package ∈ c.packages ↔ package = c.entry.package ∨ ∃ source ∈ c.sources, source.package = package := by
  unfold packages
  simp only [Ascending.mem_ofList before_strictOrder, List.mem_cons, List.mem_map, List.mem_flatMap,
    mem_sources]

theorem pairwise_packages (c : Closure) :
    c.packages.Pairwise fun a b => Text.before a.toList b.toList = true :=
  Ascending.pairwise_ofList before_strictOrder _

theorem nodup_packages (c : Closure) : c.packages.Nodup := by
  refine c.pairwise_packages.imp ?_
  rintro a _ hlt rfl
  rw [Text.before_irrefl] at hlt
  cases hlt

end Closure

namespace ModuleGraph

variable {g : ModuleGraph} {entry : AssetId} {closure : Closure} {verdict : Verdict} {u : Unsupported}
  {e : Error}

theorem exists_owner_of_closure (h : g.closure entry = .ok verdict) :
    ∃ start, g.owner? entry = some start := by
  cases howner : g.owner? entry with
  | some start => exact ⟨start, rfl⟩
  | none =>
    unfold ModuleGraph.closure at h
    rw [howner] at h
    cases h

theorem closure_entry (h : g.closure entry = .ok (.resolved closure)) : closure.entry = entry := by
  obtain ⟨start, howner⟩ := exists_owner_of_closure h
  exact (closure_modules howner h).1

theorem entry_mem_sources (h : g.closure entry = .ok (.resolved closure)) :
    entry ∈ closure.sources := by
  obtain ⟨start, howner⟩ := exists_owner_of_closure h
  obtain ⟨-, hmodules, -⟩ := closure_modules howner h
  exact Closure.mem_sources.2 ⟨start, (hmodules start).2 .start, (mem_of_owner? howner).2⟩

theorem libraries_of_closure (h : g.closure entry = .ok (.unsupported u)) :
    u.entry = entry ∧ u.libraries.Pairwise (AssetId.before · · = true) ∧
      ∃ start, g.owner? entry = some start ∧ ∀ library, library ∈ u.libraries ↔
        ∃ m, Reaches g.modules start m ∧ library ∈ m.offendingLibraries := by
  obtain ⟨start, howner⟩ := exists_owner_of_closure h
  have judged := judged_closure howner
  rw [h] at judged
  cases judged with
  | @unsupported found exact whole offending =>
    refine ⟨rfl, Ascending.pairwise_ofList AssetId.before_strictOrder _, start, howner, ?_⟩
    intro library
    unfold Unsupported.ofList
    rw [Ascending.mem_ofList AssetId.before_strictOrder, List.mem_flatMap]
    simp only [exact]

theorem eq_of_libraries_iff {v : Unsupported} (hentry : u.entry = v.entry)
    (hu : u.libraries.Pairwise (AssetId.before · · = true))
    (hv : v.libraries.Pairwise (AssetId.before · · = true))
    (h : ∀ library, library ∈ u.libraries ↔ library ∈ v.libraries) : u = v := by
  cases u
  cases v
  obtain rfl := hentry
  obtain rfl := Ascending.eq_of_mem_iff AssetId.before_strictOrder hu hv h
  rfl

theorem unsupported_report_exact :
    g.closure entry = .ok (.unsupported u) ↔
      ∃ start, g.owner? entry = some start ∧
        (∀ m missing, Reaches g.modules start m → ¬ m.Lacks g.modules missing) ∧
        u.entry = entry ∧ u.libraries ≠ [] ∧ u.libraries.Pairwise (AssetId.before · · = true) ∧
        ∀ library, library ∈ u.libraries ↔ ∃ m, Reaches g.modules start m ∧
          (m.supported = false ∨ m.unsupportedLibraries ≠ []) ∧
            (library ∈ m.unsupportedLibraries ∨
              m.unsupportedLibraries = [] ∧ (library = m.primarySource ∨ library ∈ m.sources)) := by
  simp only [← Module.mem_offendingLibraries_iff]
  constructor
  · intro h
    obtain ⟨hentry, hascending, start, howner, hlibraries⟩ := libraries_of_closure h
    obtain ⟨hwhole, m, hm, hsupported⟩ := (closure_unsupported_iff howner).1 ⟨u, h⟩
    refine ⟨start, howner, hwhole, hentry, ?_, hascending, hlibraries⟩
    -- the module that is not supported gives at least one library to blame
    have hoffending : m.offendingLibraries ≠ [] := by
      rw [Ne, Module.offendingLibraries_eq_nil_iff, hsupported]
      simp
    obtain ⟨library, hlibrary⟩ := List.exists_mem_of_ne_nil _ hoffending
    exact List.ne_nil_of_mem ((hlibraries library).2 ⟨m, hm, hlibrary⟩)
  · rintro ⟨start, howner, hwhole, hentry, hnonempty, hascending, hlibraries⟩
    obtain ⟨library, hlibrary⟩ := List.exists_mem_of_ne_nil _ hnonempty
    obtain ⟨m, hm, hoffending⟩ := (hlibraries library).1 hlibrary
    have hsupported : m.isSupported = false := by
      rw [← Bool.not_eq_true, ← Module.offendingLibraries_eq_nil_iff]
      exact List.ne_nil_of_mem hoffending
    obtain ⟨v, hv⟩ := (closure_unsupported_iff howner).2 ⟨hwhole, m, hm, hsupported⟩
    obtain ⟨hentry', hascending', start', howner', hlibraries'⟩ := libraries_of_closure hv
    obtain rfl : start = start' := Option.some.inj (howner.symm.trans howner')
    rw [eq_of_libraries_iff (hentry.trans hentry'.symm) hascending hascending'
      fun library => (hlibraries library).trans (hlibraries' library).symm]
    exact hv

theorem closure_error (h : g.closure entry = .error e) :
    ∃ missing requiredBy, e = .missingModule missing requiredBy := by
  cases howner : g.owner? entry with
  | none =>
    unfold ModuleGraph.closure at h
    rw [howner] at h
    cases h
    exact ⟨_, _, rfl⟩
  | some start =>
    have judged := judged_closure howner
    rw [h] at judged
    cases judged with
    | lacking => exact ⟨_, _, rfl⟩

end ModuleGraph

end DartBundle
