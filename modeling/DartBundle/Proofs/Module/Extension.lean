import DartBundle.Proofs.Module.Contents
import DartBundle.Proofs.Work
/-!
This module contains what further modules mean for a closure. If nothing was missing before they came, the
search finds the same modules in the same order, since no module that it meets leads anywhere else and
whatever belonged to a module still does.
-/

namespace DartBundle

namespace ModuleGraph

variable {g g' : ModuleGraph} {modules further queue reached found : List Module} {m start owner : Module}
  {marked : List AssetId} {entry id source : AssetId} {verdict : Verdict}

structure Extends (g g' : ModuleGraph) : Prop where
  get? : ∀ {id m}, g.get? id = some m → g'.get? id = some m
  owner? : ∀ {source m}, g.owner? source = some m → g'.owner? source = some m

namespace Extends

theorem of_append (h : g'.modules = g.modules ++ further) : g.Extends g' where
  get? hget := by
    unfold ModuleGraph.get? at *
    rw [h, List.find?_append, hget]
    rfl
  owner? howner := by
    unfold ModuleGraph.owner? at *
    rw [h, List.find?_append, howner]
    rfl

theorem get?_eq (h : g.Extends g') (whole : g.dangling m = []) (hid : id ∈ m.dependencies) :
    g'.get? id = g.get? id := by
  cases hget : g.get? id with
  | some next => exact h.get? hget
  | none =>
    have hlacks : id ∈ g.dangling m := by
      rw [mem_dangling_iff]
      exact ⟨hid, get?_eq_none_iff.1 hget⟩
    rw [whole] at hlacks
    cases hlacks

theorem dangling (h : g.Extends g') (whole : g.dangling m = []) : g'.dangling m = [] := by
  have hnone := whole
  unfold ModuleGraph.dangling at hnone ⊢
  rw [List.filter_eq_nil_iff] at hnone ⊢
  intro id hid
  rw [h.get?_eq whole hid]
  exact hnone id hid

theorem successors (h : g.Extends g') (whole : g.dangling m = []) :
    g'.successors m = g.successors m := by
  unfold ModuleGraph.successors
  rw [List.filterMap_congr]
  intro id hid
  apply h.get?_eq whole
  rwa [← mem_firstOccurrences]

theorem fresh (h : g.Extends g') (whole : g.dangling m = []) :
    g'.fresh marked m = g.fresh marked m := by
  unfold ModuleGraph.fresh
  rw [h.successors whole]

theorem explore (h : g.Extends g') (hfound : g.explore queue marked reached = .ok found) :
    g'.explore queue marked reached = .ok found := by
  fun_induction ModuleGraph.explore g queue marked reached with
  | case1 marked reached =>
    rw [ModuleGraph.explore]
    exact hfound
  | case2 marked reached m rest missing others hdangling => cases hfound
  | case3 marked reached m rest whole ih =>
    rw [ModuleGraph.explore, h.dangling whole]
    dsimp only
    rw [h.fresh whole]
    exact ih hfound

theorem closure (h : g.Extends g') (hclosure : g.closure entry = .ok verdict) :
    g'.closure entry = .ok verdict := by
  obtain ⟨start, howner⟩ := exists_owner_of_closure hclosure
  unfold ModuleGraph.closure at hclosure ⊢
  rw [howner] at hclosure
  rw [h.owner? howner]
  dsimp only at hclosure ⊢
  cases hreach : g.reach start with
  | error e =>
    rw [hreach] at hclosure
    cases hclosure
  | ok found =>
    have hreach' : g'.reach start = .ok found := h.explore hreach
    rw [hreach] at hclosure
    rw [hreach']
    exact hclosure

end Extends

theorem verdict_kept_with_further (distinct : ((modules ++ further).map Module.id).Nodup)
    (entry : AssetId) :
    ∃ g g', ofModules modules = .ok g ∧ ofModules (modules ++ further) = .ok g' ∧
      ∀ verdict, g.closure entry = .ok verdict → g'.closure entry = .ok verdict := by
  have hmodules : (modules.map Module.id).Nodup := by
    rw [List.map_append] at distinct
    exact (List.nodup_append.1 distinct).1
  refine ⟨_, _, ofModules_eq_ok hmodules, ofModules_eq_ok distinct, ?_⟩
  intro verdict
  apply Extends.closure
  exact .of_append rfl

def small : List Module := [
  { primarySource := ⟨"a", "lib/u"⟩, dependencies := [⟨"b", "lib/t"⟩] },
  { primarySource := ⟨"a", "web/x"⟩, dependencies := [⟨"a", "lib/y"⟩] },
  { primarySource := ⟨"a", "lib/y"⟩, sources := [⟨"a", "lib/z"⟩] }]

def addition : List Module := [
  { primarySource := ⟨"b", "lib/t"⟩, sources := [⟨"a", "web/x"⟩, ⟨"a", "lib/z"⟩],
    dependencies := [⟨"a", "web/x"⟩], unsupportedLibraries := [⟨"a", "lib/y"⟩] }]

theorem verdict_kept_with_addition :
    ((small ++ addition).map Module.id).Nodup ∧
      ∃ g g', ofModules small = .ok g ∧ ofModules (small ++ addition) = .ok g' ∧
        g.closure ⟨"a", "web/x"⟩ = .ok (.resolved ⟨⟨"a", "web/x"⟩, [small[2], small[1]]⟩) ∧
          g'.closure ⟨"a", "web/x"⟩ = .ok (.resolved ⟨⟨"a", "web/x"⟩, [small[2], small[1]]⟩) := by
  have distinct : ((small ++ addition).map Module.id).Nodup := by decide
  obtain ⟨g, g', hg, hg', hkept⟩ := verdict_kept_with_further distinct ⟨"a", "web/x"⟩
  have hclosure : g.closure ⟨"a", "web/x"⟩ =
      .ok (.resolved ⟨⟨"a", "web/x"⟩, [small[2], small[1]]⟩) := by
    rw [ofModules_eq_ok (show (small.map Module.id).Nodup by decide)] at hg
    cases hg
    exact eq_ok_of_toOption (by decide +kernel)
  exact ⟨distinct, g, g', hg, hg', hclosure, hkept _ hclosure⟩

end ModuleGraph

end DartBundle
