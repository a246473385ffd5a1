import DartBundle.Proofs.Module.Reachability
/-!
This module contains what the verdict on an entry point says about the modules that can be reached
from the one it belongs to. A missing module comes before an unsupported one, and a closure holds
exactly the modules that can be reached.
-/

namespace DartBundle

theorem Module.offendingLibraries_eq_nil_iff {m : Module} :
    m.offendingLibraries = [] ↔ m.isSupported = true := by
  unfold Module.offendingLibraries
  split
  · next h => simp [h]
  · next h =>
    simp only [Bool.not_eq_true] at h
    rw [h]
    split
    · simp [Module.allSources]
    · next hlibraries => simpa using hlibraries

namespace ModuleGraph

variable {g : ModuleGraph} {entry : AssetId} {start : Module}

inductive Judged (g : ModuleGraph) (entry : AssetId) (start : Module) : Except Error Verdict → Prop
  | lacking {m : Module} {missing : AssetId} {rest : List AssetId}
      (reached : Reaches g.modules start m) (dangling : g.dangling m = missing :: rest) :
      Judged g entry start (.error (.missingModule missing (some m.id)))
  | unsupported {found : List Module} (exact : ∀ m, m ∈ found ↔ Reaches g.modules start m)
      (whole : ∀ m ∈ found, g.dangling m = []) (offending : ∃ m ∈ found, m.isSupported = false) :
      Judged g entry start
        (.ok (.unsupported (.ofList entry (found.flatMap Module.offendingLibraries))))
  | resolved {found : List Module} (nodup : found.Nodup)
      (exact : ∀ m, m ∈ found ↔ Reaches g.modules start m)
      (whole : ∀ m ∈ found, g.dangling m = []) (supported : ∀ m ∈ found, m.isSupported = true) :
      Judged g entry start (.ok (.resolved
        ⟨entry, Ascending.ofList (fun a b => AssetId.before a.id b.id) found⟩))

theorem judged_closure (howner : g.owner? entry = some start) :
    Judged g entry start (g.closure entry) := by
  unfold closure
  rw [howner]
  rcases reach_ends (mem_of_owner? howner).1 with
    ⟨found, hreach, hnodup, hexact, hwhole⟩ | ⟨m, missing, rest, hreach, hreaches, hdangling⟩
  · simp only [hreach]
    by_cases hsupported : ∀ m ∈ found, m.isSupported = true
    · have hnil : found.flatMap Module.offendingLibraries = [] := by
        rw [List.flatMap_eq_nil_iff]
        exact fun m hm => Module.offendingLibraries_eq_nil_iff.2 (hsupported m hm)
      simp only [bind, Except.bind, hnil]
      exact .resolved hnodup hexact hwhole hsupported
    · simp only [not_forall, Bool.not_eq_true, exists_prop] at hsupported
      cases hoffending : found.flatMap Module.offendingLibraries with
      | nil =>
        obtain ⟨m, hm, hnot⟩ := hsupported
        have := Module.offendingLibraries_eq_nil_iff.1 (List.flatMap_eq_nil_iff.1 hoffending m hm)
        simp [hnot] at this
      | cons library others =>
        simp only [bind, Except.bind, hoffending]
        rw [← hoffending]
        exact .unsupported hexact hwhole hsupported
  · simp only [hreach]
    exact .lacking hreaches hdangling

theorem firstDuplicate?_eq_none {earlier : List AssetId} {modules : List Module}
    (distinct : (modules.map Module.id).Nodup) (new : ∀ m ∈ modules, m.id ∉ earlier) :
    firstDuplicate? earlier modules = none := by
  induction modules generalizing earlier with
  | nil => rfl
  | cons m rest ih =>
    obtain ⟨hm, hrest⟩ := List.nodup_cons.1 distinct
    unfold firstDuplicate?
    rw [if_neg (new m List.mem_cons_self)]
    apply ih hrest
    intro other hother hmem
    rcases List.mem_cons.1 hmem with heq | hmem
    · exact hm (heq ▸ List.mem_map_of_mem hother)
    · exact new other (List.mem_cons_of_mem m hother) hmem

theorem ofModules_eq_ok {modules : List Module} (distinct : (modules.map Module.id).Nodup) :
    ofModules modules = .ok ⟨modules, distinct⟩ := by
  unfold ofModules
  split
  · next id h =>
    rw [firstDuplicate?_eq_none distinct (by simp)] at h
    cases h
  · rfl

theorem not_lacks_of_whole {found : List Module}
    (exact : ∀ m, m ∈ found ↔ Reaches g.modules start m) (whole : ∀ m ∈ found, g.dangling m = [])
    (m : Module) (missing : AssetId) (hm : Reaches g.modules start m) :
    ¬ m.Lacks g.modules missing := by
  rw [← mem_dangling_iff, whole m ((exact m).2 hm)]
  exact List.not_mem_nil

theorem lacks_of_dangling {m : Module} {missing : AssetId} {rest : List AssetId}
    (h : g.dangling m = missing :: rest) : m.Lacks g.modules missing := by
  rw [← mem_dangling_iff, h]
  exact List.mem_cons_self

theorem closure_eq_missing_iff :
    g.closure entry = .error (.missingModule entry none) ↔
      ∀ m ∈ g.modules, entry ∉ m.allSources := by
  rw [← owner?_eq_none_iff]
  cases howner : g.owner? entry with
  | none =>
    unfold closure
    simp [howner]
  | some start =>
    have judged := judged_closure howner
    constructor
    · intro h
      rw [h] at judged
      cases judged
    · intro h
      cases h

theorem closure_lacking_iff (howner : g.owner? entry = some start) :
    (∃ missing r, g.closure entry = .error (.missingModule missing (some r))) ↔
      ∃ m missing, Reaches g.modules start m ∧ m.Lacks g.modules missing := by
  have judged := judged_closure howner
  generalize g.closure entry = verdict at judged
  cases judged with
  | @lacking m missing rest reached dangling =>
    constructor
    · intro _
      exact ⟨m, missing, reached, lacks_of_dangling dangling⟩
    · intro _
      exact ⟨missing, m.id, rfl⟩
  | unsupported exact whole offending | resolved nodup exact whole supported =>
    constructor
    · rintro ⟨missing, r, h⟩
      cases h
    · rintro ⟨m, missing, hm, hlacks⟩
      exact absurd hlacks (not_lacks_of_whole exact whole m missing hm)

theorem closure_unsupported_iff (howner : g.owner? entry = some start) :
    (∃ u, g.closure entry = .ok (.unsupported u)) ↔
      (∀ m missing, Reaches g.modules start m → ¬ m.Lacks g.modules missing) ∧
        ∃ m, Reaches g.modules start m ∧ m.isSupported = false := by
  have judged := judged_closure howner
  generalize g.closure entry = verdict at judged
  cases judged with
  | @lacking m missing rest reached dangling =>
    constructor
    · rintro ⟨u, h⟩
      cases h
    · rintro ⟨hwhole, _⟩
      exact absurd (lacks_of_dangling dangling) (hwhole m missing reached)
  | unsupported exact whole offending =>
    obtain ⟨m, hm, hsupported⟩ := offending
    constructor
    · intro _
      exact ⟨not_lacks_of_whole exact whole, m, (exact m).1 hm, hsupported⟩
    · intro _
      exact ⟨_, rfl⟩
  | resolved nodup exact whole supported =>
    constructor
    · rintro ⟨u, h⟩
      cases h
    · rintro ⟨_, m, hm, hsupported⟩
      rw [supported m ((exact m).2 hm)] at hsupported
      cases hsupported

theorem closure_resolved_iff (howner : g.owner? entry = some start) :
    (∃ c, g.closure entry = .ok (.resolved c)) ↔
      (∀ m missing, Reaches g.modules start m → ¬ m.Lacks g.modules missing) ∧
        ∀ m, Reaches g.modules start m → m.isSupported = true := by
  have judged := judged_closure howner
  generalize g.closure entry = verdict at judged
  cases judged with
  | @lacking m missing rest reached dangling =>
    constructor
    · rintro ⟨c, h⟩
      cases h
    · rintro ⟨hwhole, _⟩
      exact absurd (lacks_of_dangling dangling) (hwhole m missing reached)
  | unsupported exact whole offending =>
    obtain ⟨m, hm, hsupported⟩ := offending
    constructor
    · rintro ⟨c, h⟩
      cases h
    · rintro ⟨_, hall⟩
      rw [hall m ((exact m).1 hm)] at hsupported
      cases hsupported
  | resolved nodup exact whole supported =>
    constructor
    · intro _
      exact ⟨not_lacks_of_whole exact whole, fun m hm => supported m ((exact m).2 hm)⟩
    · intro _
      exact ⟨_, rfl⟩

theorem closure_modules {c : Closure} (howner : g.owner? entry = some start)
    (h : g.closure entry = .ok (.resolved c)) :
    c.entry = entry ∧ (∀ m, m ∈ c.modules ↔ Reaches g.modules start m) ∧
      c.ids.Pairwise (AssetId.before · · = true) ∧
      ∀ id, c.contains id = true ↔ ∃ m, Reaches g.modules start m ∧ m.id = id := by
  have judged := judged_closure howner
  rw [h] at judged
  cases judged with
  | @resolved found nodup exact whole supported =>
    have hknown : ∀ m ∈ found, m ∈ g.modules := fun m hm =>
      mem_of_reaches (mem_of_owner? howner).1 ((exact m).1 hm)
    have hmem : ∀ m, m ∈ Ascending.ofList (fun a b => AssetId.before a.id b.id) found ↔
        Reaches g.modules start m := by
      intro m
      rw [Ascending.mem_ofList_key AssetId.before_strictOrder, exact]
      exact fun a ha b hb heq => eq_of_id_eq (hknown a ha) (hknown b hb) heq
    have hids : (Ascending.ofList (fun a b => AssetId.before a.id b.id) found).map Module.id =
        Ascending.ofList AssetId.before (found.map Module.id) :=
      Ascending.map_ofList Module.id found
    have hascending := Ascending.pairwise_ofList AssetId.before_strictOrder (found.map Module.id)
    rw [← hids] at hascending
    refine ⟨rfl, hmem, hascending, ?_⟩
    -- a binary search finds what is there because the ids ascend
    intro id
    unfold Closure.contains Closure.ids
    rw [Ascending.search_eq_true_iff AssetId.before_strictOrder hascending, List.mem_map]
    simp only [hmem]

theorem closure_judges_reachable {modules : List Module}
    (distinct : (modules.map Module.id).Nodup) (entry : AssetId) :
    ∃ g, ofModules modules = .ok g ∧ g.modules = modules ∧
      (g.closure entry = .error (.missingModule entry none) ↔
        ∀ m ∈ modules, entry ∉ m.allSources) ∧
      ∀ start, g.owner? entry = some start →
        ((∃ missing r, g.closure entry = .error (.missingModule missing (some r))) ↔
          ∃ m missing, Reaches modules start m ∧ m.Lacks modules missing) ∧
        ((∃ u, g.closure entry = .ok (.unsupported u)) ↔
          (∀ m missing, Reaches modules start m → ¬ m.Lacks modules missing) ∧
            ∃ m, Reaches modules start m ∧ m.isSupported = false) ∧
        ((∃ c, g.closure entry = .ok (.resolved c)) ↔
          (∀ m missing, Reaches modules start m → ¬ m.Lacks modules missing) ∧
            ∀ m, Reaches modules start m → m.isSupported = true) ∧
        ∀ c, g.closure entry = .ok (.resolved c) →
          c.entry = entry ∧ (∀ m, m ∈ c.modules ↔ Reaches modules start m) ∧
            c.ids.Pairwise (AssetId.before · · = true) ∧
            ∀ id, c.contains id = true ↔ ∃ m, Reaches modules start m ∧ m.id = id := by
  refine ⟨⟨modules, distinct⟩, ofModules_eq_ok distinct, rfl, closure_eq_missing_iff, ?_⟩
  intro start howner
  exact ⟨closure_lacking_iff howner, closure_unsupported_iff howner, closure_resolved_iff howner,
    fun c h => closure_modules howner h⟩

def circle : List Module := [
  { primarySource := ⟨"a", "lib/x"⟩, dependencies := [⟨"a", "lib/y"⟩, ⟨"a", "lib/x"⟩] },
  { primarySource := ⟨"a", "lib/y"⟩, sources := [⟨"a", "lib/x"⟩], dependencies := [⟨"a", "lib/x"⟩] }]

theorem closure_judges_circle :
    (circle.map Module.id).Nodup ∧ ∃ g, ofModules circle = .ok g ∧
      ∃ c, g.closure ⟨"a", "lib/x"⟩ = .ok (.resolved c) ∧ c.contains ⟨"a", "lib/y"⟩ = true := by
  have distinct : (circle.map Module.id).Nodup := by decide
  obtain ⟨g, hg, hmodules, -, hjudged⟩ := closure_judges_reachable distinct ⟨"a", "lib/x"⟩
  have howner : g.owner? ⟨"a", "lib/x"⟩ = some circle[0] := by
    unfold owner?
    rw [hmodules]
    decide
  obtain ⟨-, -, hresolved, hclosure⟩ := hjudged _ howner
  have hmem : ∀ m, Reaches circle circle[0] m → m ∈ circle := fun m =>
    mem_of_reaches (by decide)
  obtain ⟨c, hc⟩ := hresolved.2 <| by
    constructor
    · intro m missing hm hlacks
      have hknown : ∀ m ∈ circle, ∀ id ∈ m.dependencies, ∃ other ∈ circle, other.id = id := by
        decide
      obtain ⟨other, hother, hid⟩ := hknown m (hmem m hm) missing hlacks.1
      exact hlacks.2 other hother hid
    · intro m hm
      have hsupported : ∀ m ∈ circle, m.isSupported = true := by decide
      exact hsupported m (hmem m hm)
  refine ⟨distinct, g, hg, c, hc, ?_⟩
  obtain ⟨-, -, -, hcontains⟩ := hclosure c hc
  rw [hcontains]
  exact ⟨circle[1], .dependency .start (by decide) (by decide), rfl⟩

end ModuleGraph

end DartBundle
