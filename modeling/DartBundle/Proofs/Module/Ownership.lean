import DartBundle.Proofs.Module.Verdict
import DartBundle.Proofs.Work
import Mathlib.Data.List.Find
/-!
This module contains whom the identity of a module belongs to. A source belongs to the first module that
has it, and an identity is a source: a module given earlier that has it among its sources takes it, and
then the closure is that of the other module.
-/

namespace DartBundle

namespace ModuleGraph

variable {g : ModuleGraph} {modules before after : List Module} {m other owner : Module}
  {entry : AssetId} {c : Closure}

theorem modules_of_ofModules (h : ofModules modules = .ok g) : g.modules = modules := by
  unfold ofModules at h
  split at h
  · cases h
  · cases h
    rfl

theorem id_ne_of_mem_before (hg : g.modules = before ++ m :: after) (hother : other ∈ before) :
    m.id ≠ other.id := by
  have distinct := g.distinct
  rw [hg, List.map_append, List.map_cons] at distinct
  have apart := (List.nodup_append.1 distinct).2.2
  exact (apart other.id (List.mem_map_of_mem hother) m.id List.mem_cons_self).symm

theorem owner?_id (hg : g.modules = before ++ m :: after) :
    g.owner? m.id =
      some ((before.find? fun other => decide (m.id ∈ other.sources)).getD m) := by
  have hself : m.id ∈ m.allSources := Module.mem_allSources.2 (.inl rfl)
  have hbefore : before.find? (fun other => decide (m.id ∈ other.allSources)) =
      before.find? fun other => decide (m.id ∈ other.sources) := by
    apply List.find?_congr
    intro other hother
    rw [decide_eq_decide, Module.mem_allSources]
    exact or_iff_right (id_ne_of_mem_before hg hother)
  unfold owner?
  rw [hg, List.find?_append, hbefore, List.find?_cons_of_pos (by simpa using hself)]
  cases before.find? fun other => decide (m.id ∈ other.sources) <;> rfl

theorem get?_id (hg : g.modules = before ++ m :: after) : g.get? m.id = some m := by
  rw [get?_eq_some_iff, hg]
  exact ⟨by simp, rfl⟩

theorem owner?_id_eq_some_iff (hg : g.modules = before ++ m :: after) :
    g.owner? m.id = some m ↔ ∀ other ∈ before, m.id ∉ other.sources := by
  rw [owner?_id hg, Option.some.injEq]
  cases hfind : before.find? fun other => decide (m.id ∈ other.sources) with
  | none =>
    have := List.find?_eq_none.1 hfind
    simpa using this
  | some other =>
    have hother := List.mem_of_find?_eq_some hfind
    have hsource : m.id ∈ other.sources := by simpa using List.find?_some hfind
    constructor
    · intro h
      exact absurd (congrArg Module.id h).symm (id_ne_of_mem_before hg hother)
    · intro h
      exact absurd hsource (h other hother)

theorem contains_id_iff (howner : g.owner? entry = some owner)
    (hclosure : g.closure entry = .ok (.resolved c)) (hm : m ∈ g.modules) :
    c.contains m.id = true ↔ Reaches g.modules owner m := by
  obtain ⟨-, -, -, hcontains⟩ := closure_modules howner hclosure
  rw [hcontains]
  constructor
  · rintro ⟨found, hfound, hid⟩
    have hknown := mem_of_reaches (mem_of_owner? howner).1 hfound
    rwa [← eq_of_id_eq hknown hm hid]
  · intro hreaches
    exact ⟨m, hreaches, rfl⟩

theorem identity_selects_module_iff (hmodules : ofModules modules = .ok g)
    (hm : modules = before ++ m :: after) :
    g.get? m.id = some m ∧
      g.owner? m.id =
        some ((before.find? fun other => decide (m.id ∈ other.sources)).getD m) ∧
      (g.owner? m.id = g.get? m.id ↔ ∀ other ∈ before, m.id ∉ other.sources) ∧
      (∀ owner c, g.owner? m.id = some owner → g.closure m.id = .ok (.resolved c) →
        (c.contains m.id = true ↔ Reaches modules owner m)) ∧
      ∀ entry c, g.owner? entry = some m → g.closure entry = .ok (.resolved c) →
        ∀ next, next ∈ c.modules ↔ Reaches modules m next := by
  obtain rfl := modules_of_ofModules hmodules
  have hknown : m ∈ g.modules := by simp [hm]
  refine ⟨get?_id hm, owner?_id hm, ?_, ?_, ?_⟩
  · rw [get?_id hm]
    exact owner?_id_eq_some_iff hm
  · intro owner c howner hclosure
    exact contains_id_iff howner hclosure hknown
  · intro entry c howner hclosure
    exact (closure_modules howner hclosure).2.1

def overlapping : List Module := [
  { primarySource := ⟨"a", "lib/y"⟩, sources := [⟨"a", "lib/x"⟩] },
  { primarySource := ⟨"a", "lib/x"⟩ },
  { primarySource := ⟨"a", "lib/z"⟩, dependencies := [⟨"a", "lib/x"⟩] }]

theorem overlapping_distinct : (overlapping.map Module.id).Nodup := by decide

theorem identity_selects_third_of_overlapping :
    ∃ g, ofModules overlapping = .ok g ∧ g.owner? ⟨"a", "lib/z"⟩ = some overlapping[2] := by
  have hmodules := ofModules_eq_ok overlapping_distinct
  have hthird : overlapping = overlapping.take 2 ++ overlapping[2] :: [] := rfl
  obtain ⟨hget, -, howner, -⟩ := identity_selects_module_iff hmodules hthird
  have hfree : ∀ other ∈ overlapping.take 2, overlapping[2].id ∉ other.sources := by decide
  exact ⟨_, hmodules, (howner.2 hfree).trans hget⟩

theorem identity_of_second_selects_first :
    ∃ g, ofModules overlapping = .ok g ∧ overlapping[1].id = ⟨"a", "lib/x"⟩ ∧
      g.get? ⟨"a", "lib/x"⟩ = some overlapping[1] ∧
        g.owner? ⟨"a", "lib/x"⟩ = some overlapping[0] ∧
          ∃ c, g.closure ⟨"a", "lib/x"⟩ = .ok (.resolved c) ∧
            c.contains ⟨"a", "lib/x"⟩ = false := by
  refine ⟨_, ofModules_eq_ok overlapping_distinct, rfl, by decide, by decide, ?_⟩
  refine ⟨⟨⟨"a", "lib/x"⟩, [overlapping[0]]⟩, eq_ok_of_toOption ?_, ?_⟩
  · decide +kernel
  · decide +kernel

end ModuleGraph

end DartBundle
