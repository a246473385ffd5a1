import DartBundle.Error
import DartBundle.Module.Basic
/-!
This module contains module graphs: lists of modules of which no two have the same identity. Whom a
source belongs to, which modules a module leads to and what it lacks are questions to the list.
-/

namespace DartBundle

def firstOccurrences [DecidableEq α] : List α → List α
  | [] => []
  | a :: rest => a :: (firstOccurrences rest).filter fun b => decide (b ≠ a)

theorem mem_firstOccurrences [DecidableEq α] {a : α} {as : List α} :
    a ∈ firstOccurrences as ↔ a ∈ as := by
  induction as with
  | nil => simp [firstOccurrences]
  | cons b rest ih =>
    by_cases h : a = b <;> simp [firstOccurrences, h, ih]

theorem nodup_firstOccurrences [DecidableEq α] (as : List α) : (firstOccurrences as).Nodup := by
  induction as with
  | nil => simp [firstOccurrences]
  | cons b rest ih =>
    refine List.nodup_cons.2 ⟨by simp, ?_⟩
    exact ih.sublist List.filter_sublist

/--
Modules with distinct identities, in the order they were given.
-/
structure ModuleGraph where
  modules : List Module
  distinct : (modules.map Module.id).Nodup

namespace ModuleGraph

def empty : ModuleGraph where
  modules := []
  distinct := by simp

def firstDuplicate? (earlier : List AssetId) : List Module → Option AssetId
  | [] => none
  | m :: rest => if m.id ∈ earlier then some m.id else firstDuplicate? (m.id :: earlier) rest

theorem nodup_of_firstDuplicate?_eq_none {earlier : List AssetId} {modules : List Module}
    (h : firstDuplicate? earlier modules = none) :
    (modules.map Module.id).Nodup ∧ ∀ m ∈ modules, m.id ∉ earlier := by
  induction modules generalizing earlier with
  | nil => simp
  | cons m rest ih =>
    unfold firstDuplicate? at h
    split at h
    · cases h
    · next hm =>
      obtain ⟨hrest, hnot⟩ := ih h
      refine ⟨?_, ?_⟩
      · simp only [List.map_cons, List.nodup_cons, List.mem_map, not_exists, not_and]
        refine ⟨fun other hother heq => hnot other hother ?_, hrest⟩
        rw [heq]
        exact List.mem_cons_self
      · intro other hother
        rcases List.mem_cons.1 hother with rfl | hother
        · exact hm
        · exact fun hearlier => hnot other hother (List.mem_cons_of_mem _ hearlier)

def ofModules (modules : List Module) : Except Error ModuleGraph :=
  match h : firstDuplicate? [] modules with
  | some id => .error (.moduleGraph (.duplicate id))
  | none => .ok ⟨modules, (nodup_of_firstDuplicate?_eq_none h).1⟩

def size (g : ModuleGraph) : Nat :=
  g.modules.length

def isEmpty (g : ModuleGraph) : Bool :=
  g.modules.isEmpty

def get? (g : ModuleGraph) (id : AssetId) : Option Module :=
  g.modules.find? fun m => decide (m.id = id)

def owner? (g : ModuleGraph) (source : AssetId) : Option Module :=
  g.modules.find? fun m => decide (source ∈ m.allSources)

/--
The modules that a module depends on, each once. The dependency that is first named last comes
first.
-/
def successors (g : ModuleGraph) (m : Module) : List Module :=
  ((firstOccurrences m.dependencies).filterMap g.get?).reverse

def dangling (g : ModuleGraph) (m : Module) : List AssetId :=
  m.dependencies.filter fun id => (g.get? id).isNone

theorem mem_of_get? {g : ModuleGraph} {id : AssetId} {m : Module} (h : g.get? id = some m) :
    m ∈ g.modules ∧ m.id = id :=
  ⟨List.mem_of_find?_eq_some h, by simpa using List.find?_some h⟩

theorem mem_successors {g : ModuleGraph} {m next : Module} :
    next ∈ g.successors m ↔ ∃ id ∈ m.dependencies, g.get? id = some next := by
  simp [successors, List.mem_filterMap, mem_firstOccurrences]

theorem nodup_filterMap_get? (g : ModuleGraph) {ids : List AssetId} (h : ids.Nodup) :
    (ids.filterMap g.get?).Nodup := by
  induction ids with
  | nil => simp
  | cons id rest ih =>
    obtain ⟨hid, hrest⟩ := List.nodup_cons.1 h
    cases hm : g.get? id with
    | none => simpa [List.filterMap_cons, hm] using ih hrest
    | some m =>
      simp only [List.filterMap_cons, hm]
      refine List.nodup_cons.2 ⟨?_, ih hrest⟩
      intro hmem
      obtain ⟨other, hother, hget⟩ := List.mem_filterMap.1 hmem
      have := (mem_of_get? hm).2.symm.trans (mem_of_get? hget).2
      exact hid (this ▸ hother)

theorem nodup_successors (g : ModuleGraph) (m : Module) : (g.successors m).Nodup :=
  List.pairwise_reverse.2 <|
    (nodup_filterMap_get? g (nodup_firstOccurrences m.dependencies)).imp fun h => Ne.symm h

theorem nodup_modules (g : ModuleGraph) : g.modules.Nodup :=
  List.Pairwise.of_map Module.id (fun _ _ hne heq => hne (congrArg Module.id heq)) g.distinct

end ModuleGraph

end DartBundle
