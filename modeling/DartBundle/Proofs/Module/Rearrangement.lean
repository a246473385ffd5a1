import DartBundle.Proofs.Module.Contents
import Mathlib.Data.List.Forall2
/-!
This module contains what the order of descriptors means for a closure. Descriptors may come in any order,
and each may name its ids in any order and repeatedly. What an entry point belongs to is then the same
module, as long as only one module has it, and so is all that the verdict says, but for which of several
missing modules it names.
-/

namespace DartBundle

structure Module.Alike (m n : Module) : Prop where
  primarySource : m.primarySource = n.primarySource
  sources : ∀ id, id ∈ m.sources ↔ id ∈ n.sources
  dependencies : ∀ id, id ∈ m.dependencies ↔ id ∈ n.dependencies
  supported : m.supported = n.supported
  unsupportedLibraries : ∀ id, id ∈ m.unsupportedLibraries ↔ id ∈ n.unsupportedLibraries

namespace Module.Alike

variable {m n : Module} {source library : AssetId}

theorem symm (h : m.Alike n) : n.Alike m where
  primarySource := h.primarySource.symm
  sources id := (h.sources id).symm
  dependencies id := (h.dependencies id).symm
  supported := h.supported.symm
  unsupportedLibraries id := (h.unsupportedLibraries id).symm

theorem id (h : m.Alike n) : m.id = n.id :=
  h.primarySource

theorem mem_allSources (h : m.Alike n) : source ∈ m.allSources ↔ source ∈ n.allSources := by
  rw [Module.mem_allSources, Module.mem_allSources, h.primarySource, h.sources]

theorem unsupportedLibraries_eq_nil (h : m.Alike n) :
    m.unsupportedLibraries = [] ↔ n.unsupportedLibraries = [] := by
  simp only [List.eq_nil_iff_forall_not_mem, h.unsupportedLibraries]

theorem isSupported (h : m.Alike n) : m.isSupported = n.isSupported := by
  rw [← Bool.not_inj_iff, Bool.eq_iff_iff, Bool.not_eq_true', Bool.not_eq_true',
    isSupported_eq_false_iff, isSupported_eq_false_iff, h.supported, Ne, Ne,
    h.unsupportedLibraries_eq_nil]

theorem mem_offendingLibraries (h : m.Alike n) :
    library ∈ m.offendingLibraries ↔ library ∈ n.offendingLibraries := by
  rw [mem_offendingLibraries_iff, mem_offendingLibraries_iff, h.supported, Ne, Ne,
    h.unsupportedLibraries_eq_nil, h.unsupportedLibraries, h.primarySource, h.sources]

end Module.Alike

namespace ModuleGraph

variable {g g' : ModuleGraph} {modules modules' : List Module} {m m' start start' : Module}
  {entry missing : AssetId}

structure Matches (g g' : ModuleGraph) : Prop where
  forth : ∀ m ∈ g.modules, ∃ m' ∈ g'.modules, m.Alike m'
  back : ∀ m' ∈ g'.modules, ∃ m ∈ g.modules, m.Alike m'

def OwnedOnce (modules : List Module) (entry : AssetId) : Prop :=
  ∀ m ∈ modules, ∀ n ∈ modules, entry ∈ m.allSources → entry ∈ n.allSources → m = n

theorem owner?_eq_some_iff (once : OwnedOnce g.modules entry) :
    g.owner? entry = some m ↔ m ∈ g.modules ∧ entry ∈ m.allSources := by
  constructor
  · exact mem_of_owner?
  · rintro ⟨hm, hentry⟩
    cases howner : g.owner? entry with
    | none => exact absurd hentry (owner?_eq_none_iff.1 howner m hm)
    | some owner =>
      obtain ⟨hknown, howned⟩ := mem_of_owner? howner
      rw [once owner hknown m hm howned hentry]

namespace Matches

theorem symm (h : Matches g g') : Matches g' g where
  forth m' hm' := by
    obtain ⟨m, hm, halike⟩ := h.back m' hm'
    exact ⟨m, hm, halike.symm⟩
  back m hm := by
    obtain ⟨m', hm', halike⟩ := h.forth m hm
    exact ⟨m', hm', halike.symm⟩

theorem ownedOnce (h : Matches g g') (once : OwnedOnce g.modules entry) :
    OwnedOnce g'.modules entry := by
  intro m' hm' n' hn' hentry hentry'
  obtain ⟨m, hm, halike⟩ := h.back m' hm'
  obtain ⟨n, hn, halike'⟩ := h.back n' hn'
  obtain rfl := once m hm n hn (halike.mem_allSources.2 hentry) (halike'.mem_allSources.2 hentry')
  exact eq_of_id_eq hm' hn' (halike.id.symm.trans halike'.id)

theorem owner?_eq_none (h : Matches g g') (howner : g.owner? entry = none) :
    g'.owner? entry = none := by
  rw [owner?_eq_none_iff] at howner ⊢
  intro m' hm' hentry
  obtain ⟨m, hm, halike⟩ := h.back m' hm'
  exact howner m hm (halike.mem_allSources.2 hentry)

theorem owner?_eq_some (h : Matches g g') (once : OwnedOnce g.modules entry)
    (howner : g.owner? entry = some start) :
    ∃ start', g'.owner? entry = some start' ∧ start.Alike start' := by
  obtain ⟨hstart, hentry⟩ := mem_of_owner? howner
  obtain ⟨start', hstart', halike⟩ := h.forth start hstart
  refine ⟨start', ?_, halike⟩
  rw [owner?_eq_some_iff (h.ownedOnce once)]
  exact ⟨hstart', halike.mem_allSources.1 hentry⟩

theorem reaches (h : Matches g g') (hstart : start.Alike start') (hm : Reaches g.modules start m) :
    ∃ m', Reaches g'.modules start' m' ∧ m.Alike m' := by
  induction hm with
  | start => exact ⟨start', .start, hstart⟩
  | @dependency m next reached known named ih =>
    obtain ⟨m', hm', halike⟩ := ih
    obtain ⟨next', hnext', hnext⟩ := h.forth next known
    refine ⟨next', .dependency hm' hnext' ?_, hnext⟩
    rw [← hnext.id, ← halike.dependencies]
    exact named

theorem lacks (h : Matches g g') (halike : m.Alike m') (hlacks : m.Lacks g.modules missing) :
    m'.Lacks g'.modules missing := by
  obtain ⟨hnamed, hunknown⟩ := hlacks
  refine ⟨(halike.dependencies missing).1 hnamed, ?_⟩
  intro other' hother'
  obtain ⟨other, hother, hsame⟩ := h.back other' hother'
  rw [← hsame.id]
  exact hunknown other hother

theorem lacks_iff (h : Matches g g') (halike : m.Alike m') :
    m.Lacks g.modules missing ↔ m'.Lacks g'.modules missing :=
  ⟨h.lacks halike, h.symm.lacks halike.symm⟩

theorem exists_reaches_iff (h : Matches g g') (hstart : start.Alike start') {p p' : Module → Prop}
    (hp : ∀ {m m'}, m.Alike m' → (p m ↔ p' m')) :
    (∃ m, Reaches g.modules start m ∧ p m) ↔ ∃ m', Reaches g'.modules start' m' ∧ p' m' := by
  constructor
  · rintro ⟨m, hm, hpm⟩
    obtain ⟨m', hm', halike⟩ := h.reaches hstart hm
    exact ⟨m', hm', (hp halike).1 hpm⟩
  · rintro ⟨m', hm', hpm'⟩
    obtain ⟨m, hm, halike⟩ := h.symm.reaches hstart.symm hm'
    exact ⟨m, hm, (hp halike.symm).2 hpm'⟩

theorem forall_reaches_iff (h : Matches g g') (hstart : start.Alike start') {p p' : Module → Prop}
    (hp : ∀ {m m'}, m.Alike m' → (p m ↔ p' m')) :
    (∀ m, Reaches g.modules start m → p m) ↔ ∀ m', Reaches g'.modules start' m' → p' m' := by
  have hnot := not_congr (h.exists_reaches_iff hstart fun halike => not_congr (hp halike))
  simpa only [not_exists, not_and, not_not] using hnot

theorem whole_iff (h : Matches g g') (hstart : start.Alike start') :
    (∀ m missing, Reaches g.modules start m → ¬ m.Lacks g.modules missing) ↔
      ∀ m' missing, Reaches g'.modules start' m' → ¬ m'.Lacks g'.modules missing := by
  rw [forall_comm, forall_comm (α := Module)]
  apply forall_congr'
  intro missing
  apply h.forall_reaches_iff hstart
  intro m m' halike
  rw [h.lacks_iff halike]

end Matches

/--
Whether two verdicts on an entry point say the same, up to the descriptors of the modules in a closure
and up to which missing module is named.
-/
inductive SameOutcome : Except Error Verdict → Except Error Verdict → Prop
  | unowned (entry : AssetId) :
    SameOutcome (.error (.missingModule entry none)) (.error (.missingModule entry none))
  | lacking (missing missing' requiredBy requiredBy' : AssetId) :
    SameOutcome (.error (.missingModule missing (some requiredBy)))
      (.error (.missingModule missing' (some requiredBy')))
  | unsupported (u : Unsupported) : SameOutcome (.ok (.unsupported u)) (.ok (.unsupported u))
  | resolved {c c' : Closure} (entry : c.entry = c'.entry) (ids : c.ids = c'.ids)
    (sources : c.sources = c'.sources) (packages : c.packages = c'.packages) :
    SameOutcome (.ok (.resolved c)) (.ok (.resolved c'))

theorem eq_of_matches {u u' : Unsupported} (h : Matches g g') (hstart : start.Alike start')
    (howner : g.owner? entry = some start) (howner' : g'.owner? entry = some start')
    (hclosure : g.closure entry = .ok (.unsupported u))
    (hclosure' : g'.closure entry = .ok (.unsupported u')) : u = u' := by
  obtain ⟨hentry, hascending, first, hfirst, hlibraries⟩ := libraries_of_closure hclosure
  obtain ⟨hentry', hascending', first', hfirst', hlibraries'⟩ := libraries_of_closure hclosure'
  obtain rfl : start = first := Option.some.inj (howner.symm.trans hfirst)
  obtain rfl : start' = first' := Option.some.inj (howner'.symm.trans hfirst')
  apply eq_of_libraries_iff (hentry.trans hentry'.symm) hascending hascending'
  intro library
  rw [hlibraries, hlibraries']
  apply h.exists_reaches_iff hstart
  exact Module.Alike.mem_offendingLibraries

theorem sameOutcome_resolved {c c' : Closure} (h : Matches g g') (hstart : start.Alike start')
    (howner : g.owner? entry = some start) (howner' : g'.owner? entry = some start')
    (hclosure : g.closure entry = .ok (.resolved c))
    (hclosure' : g'.closure entry = .ok (.resolved c')) :
    SameOutcome (.ok (.resolved c)) (.ok (.resolved c')) := by
  obtain ⟨hentry, hmodules, hascending, -⟩ := closure_modules howner hclosure
  obtain ⟨hentry', hmodules', hascending', -⟩ := closure_modules howner' hclosure'
  have hids : c.ids = c'.ids := by
    apply Ascending.eq_of_mem_iff AssetId.before_strictOrder hascending hascending'
    intro id
    simp only [Closure.ids, List.mem_map, hmodules, hmodules']
    apply h.exists_reaches_iff hstart
    intro m m' halike
    rw [halike.id]
  have hsources : c.sources = c'.sources := by
    apply Ascending.eq_of_mem_iff AssetId.before_strictOrder
    · apply Ascending.pairwise_ofList AssetId.before_strictOrder
    · apply Ascending.pairwise_ofList AssetId.before_strictOrder
    · intro source
      simp only [Closure.mem_sources, hmodules, hmodules']
      apply h.exists_reaches_iff hstart
      exact Module.Alike.mem_allSources
  have hpackages : c.packages = c'.packages := by
    apply Ascending.eq_of_mem_iff Closure.before_strictOrder c.pairwise_packages c'.pairwise_packages
    intro package
    rw [Closure.mem_packages, Closure.mem_packages, hentry, hentry', hsources]
  exact .resolved (hentry.trans hentry'.symm) hids hsources hpackages

theorem sameOutcome_of_owner (h : Matches g g') (hstart : start.Alike start')
    (howner : g.owner? entry = some start) (howner' : g'.owner? entry = some start') :
    SameOutcome (g.closure entry) (g'.closure entry) := by
  have judged := judged_closure howner
  cases hclosure : g.closure entry with
  | error e =>
    rw [hclosure] at judged
    cases judged with
    | @lacking m missing rest reached dangling =>
      have hlacks := lacks_of_dangling dangling
      obtain ⟨m', hm', halike⟩ := h.reaches hstart reached
      obtain ⟨missing', requiredBy', hclosure'⟩ :=
        (closure_lacking_iff howner').2 ⟨m', missing, hm', h.lacks halike hlacks⟩
      rw [hclosure']
      apply SameOutcome.lacking
  | ok verdict =>
    cases verdict with
    | unsupported u =>
      obtain ⟨hwhole, m, hm, hsupported⟩ := (closure_unsupported_iff howner).1 ⟨u, hclosure⟩
      obtain ⟨m', hm', halike⟩ := h.reaches hstart hm
      obtain ⟨u', hclosure'⟩ := (closure_unsupported_iff howner').2
        ⟨(h.whole_iff hstart).1 hwhole, m', hm', halike.isSupported.symm.trans hsupported⟩
      rw [hclosure', eq_of_matches h hstart howner howner' hclosure hclosure']
      apply SameOutcome.unsupported
    | resolved c =>
      obtain ⟨hwhole, hsupported⟩ := (closure_resolved_iff howner).1 ⟨c, hclosure⟩
      obtain ⟨c', hclosure'⟩ := (closure_resolved_iff howner').2 <| by
        refine ⟨(h.whole_iff hstart).1 hwhole, ?_⟩
        rwa [← h.forall_reaches_iff hstart]
        intro m m' halike
        rw [halike.isSupported]
      rw [hclosure']
      exact sameOutcome_resolved h hstart howner howner' hclosure hclosure'

theorem sameOutcome_of_matches (h : Matches g g') (once : OwnedOnce g.modules entry) :
    SameOutcome (g.closure entry) (g'.closure entry) := by
  cases howner : g.owner? entry with
  | none =>
    have howner' := h.owner?_eq_none howner
    rw [owner?_eq_none_iff, ← closure_eq_missing_iff] at howner howner'
    rw [howner, howner']
    apply SameOutcome.unowned
  | some start =>
    obtain ⟨start', howner', hstart⟩ := h.owner?_eq_some once howner
    exact sameOutcome_of_owner h hstart howner howner'

def Rearranged (modules modules' : List Module) : Prop :=
  ∃ turned, modules.Perm turned ∧ List.Forall₂ Module.Alike turned modules'

theorem map_id_of_alike (h : List.Forall₂ Module.Alike modules modules') :
    modules.map Module.id = modules'.map Module.id := by
  induction h with
  | nil => rfl
  | cons halike _ ih => rw [List.map_cons, List.map_cons, halike.id, ih]

theorem exists_alike (h : List.Forall₂ Module.Alike modules modules') :
    (∀ m ∈ modules, ∃ m' ∈ modules', m.Alike m') ∧ ∀ m' ∈ modules', ∃ m ∈ modules, m.Alike m' := by
  induction h with
  | nil => simp
  | cons halike _ ih =>
    obtain ⟨hforth, hback⟩ := ih
    simp only [List.forall_mem_cons, List.exists_mem_cons_iff]
    exact ⟨⟨.inl halike, fun m hm => .inr (hforth m hm)⟩,
      .inl halike, fun m' hm' => .inr (hback m' hm')⟩

theorem distinct_of_rearranged (h : Rearranged modules modules')
    (distinct : (modules.map Module.id).Nodup) : (modules'.map Module.id).Nodup := by
  obtain ⟨turned, hperm, halike⟩ := h
  rw [← map_id_of_alike halike, ← (hperm.map Module.id).nodup_iff]
  exact distinct

theorem matches_of_rearranged (h : Rearranged g.modules g'.modules) : Matches g g' := by
  obtain ⟨turned, hperm, halike⟩ := h
  obtain ⟨hforth, hback⟩ := exists_alike halike
  constructor
  · intro m hm
    exact hforth m (hperm.mem_iff.1 hm)
  · intro m' hm'
    obtain ⟨m, hm, hsame⟩ := hback m' hm'
    exact ⟨m, hperm.mem_iff.2 hm, hsame⟩

theorem closure_independent_of_order (distinct : (modules.map Module.id).Nodup)
    (rearranged : Rearranged modules modules') (once : OwnedOnce modules entry) :
    ∃ g g', ofModules modules = .ok g ∧ ofModules modules' = .ok g' ∧
      SameOutcome (g.closure entry) (g'.closure entry) := by
  have distinct' := distinct_of_rearranged rearranged distinct
  refine ⟨_, _, ofModules_eq_ok distinct, ofModules_eq_ok distinct', ?_⟩
  apply sameOutcome_of_matches _ once
  exact matches_of_rearranged rearranged

def forked : List Module := [
  { primarySource := ⟨"a", "web/x"⟩, sources := [⟨"a", "web/y"⟩],
    dependencies := [⟨"a", "lib/y"⟩, ⟨"a", "lib/z"⟩] },
  { primarySource := ⟨"a", "lib/y"⟩, dependencies := [⟨"a", "lib/z"⟩] },
  { primarySource := ⟨"a", "lib/z"⟩, unsupportedLibraries := [⟨"dart", "io"⟩, ⟨"dart", "ffi"⟩] }]

def forkedOtherwise : List Module := [
  { primarySource := ⟨"a", "lib/z"⟩,
    unsupportedLibraries := [⟨"dart", "ffi"⟩, ⟨"dart", "io"⟩, ⟨"dart", "ffi"⟩] },
  { primarySource := ⟨"a", "web/x"⟩, sources := [⟨"a", "web/y"⟩, ⟨"a", "web/y"⟩],
    dependencies := [⟨"a", "lib/z"⟩, ⟨"a", "lib/y"⟩, ⟨"a", "lib/z"⟩] },
  { primarySource := ⟨"a", "lib/y"⟩, dependencies := [⟨"a", "lib/z"⟩] }]

theorem rearranged_forked : Rearranged forked forkedOtherwise := by
  refine ⟨[forked[2], forked[0], forked[1]], by decide, ?_⟩
  refine .cons ⟨rfl, ?_, ?_, rfl, ?_⟩ (.cons ⟨rfl, ?_, ?_, rfl, ?_⟩ (.cons ⟨rfl, ?_, ?_, rfl, ?_⟩ .nil))
  all_goals
    intro id
    simp only [forked, List.getElem_cons_zero, List.getElem_cons_succ, List.mem_cons, List.not_mem_nil]
  all_goals tauto

theorem closure_of_forked_otherwise :
    (forked.map Module.id).Nodup ∧ Rearranged forked forkedOtherwise ∧
      OwnedOnce forked ⟨"a", "web/y"⟩ ∧
      ∃ g g', ofModules forked = .ok g ∧ ofModules forkedOtherwise = .ok g' ∧
        SameOutcome (g.closure ⟨"a", "web/y"⟩) (g'.closure ⟨"a", "web/y"⟩) := by
  have distinct : (forked.map Module.id).Nodup := by decide
  have once : OwnedOnce forked ⟨"a", "web/y"⟩ := by
    unfold OwnedOnce
    decide
  exact ⟨distinct, rearranged_forked, once,
    closure_independent_of_order distinct rearranged_forked once⟩

end ModuleGraph

end DartBundle
