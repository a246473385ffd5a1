import DartBundle.Module.Graph
/-!
This module contains the closure of an entry point: the modules that can be reached from the module
the entry belongs to. The search is breadth first. A module is marked when it is put on the queue,
so each is there at most once, and the search ends on graphs with cycles as well.
-/

namespace DartBundle

structure Closure where
  entry : AssetId
  modules : List Module
  deriving DecidableEq

namespace Closure

def size (c : Closure) : Nat :=
  c.modules.length

def isEmpty (c : Closure) : Bool :=
  c.modules.isEmpty

def ids (c : Closure) : List AssetId :=
  c.modules.map Module.id

def contains (c : Closure) (id : AssetId) : Bool :=
  Ascending.search AssetId.before id c.ids

def sources (c : Closure) : List AssetId :=
  Ascending.ofList AssetId.before (c.modules.flatMap Module.allSources)

def packages (c : Closure) : List String :=
  Ascending.ofList (fun a b => Text.before a.toList b.toList)
    (c.entry.package :: (c.modules.flatMap Module.allSources).map AssetId.package)

end Closure

inductive Verdict
  | resolved (closure : Closure)
  | unsupported (reason : Unsupported)
  deriving DecidableEq

namespace ModuleGraph

def unmarked (g : ModuleGraph) (marked : List AssetId) : List Module :=
  g.modules.filter fun m => decide (m.id ∉ marked)

def fresh (g : ModuleGraph) (marked : List AssetId) (m : Module) : List Module :=
  (g.successors m).filter fun next => decide (next.id ∉ marked)

theorem unmarked_fresh (g : ModuleGraph) (marked : List AssetId) (m : Module) :
    (g.unmarked (marked ++ (g.fresh marked m).map Module.id)).length + (g.fresh marked m).length ≤
      (g.unmarked marked).length := by
  have distinct : (g.fresh marked m ++
      g.unmarked (marked ++ (g.fresh marked m).map Module.id)).Nodup := by
    refine List.nodup_append.2 ⟨(nodup_successors g m).sublist List.filter_sublist,
      (nodup_modules g).sublist List.filter_sublist, ?_⟩
    intro a ha b hb hab
    subst hab
    have := (List.mem_filter.1 hb).2
    simp only [List.mem_append, List.mem_map, not_or, decide_eq_true_eq] at this
    exact this.2 ⟨a, ha, rfl⟩
  have hsubset : g.fresh marked m ++
      g.unmarked (marked ++ (g.fresh marked m).map Module.id) ⊆ g.unmarked marked := by
    intro a ha
    rcases List.mem_append.1 ha with ha | ha
    · obtain ⟨hsucc, hnot⟩ := List.mem_filter.1 ha
      obtain ⟨id, _, hget⟩ := mem_successors.1 hsucc
      exact List.mem_filter.2 ⟨(mem_of_get? hget).1, hnot⟩
    · obtain ⟨hmem, hnot⟩ := List.mem_filter.1 ha
      refine List.mem_filter.2 ⟨hmem, ?_⟩
      simp only [List.mem_append, not_or, decide_eq_true_eq] at hnot ⊢
      exact hnot.1
  have := distinct.length_le_of_subset hsubset
  simp only [List.length_append] at this
  omega

/--
Searches on from a queue. The modules that have been taken off it are given in that order; a module
with a dependency that is not in the graph ends the search.
-/
def explore (g : ModuleGraph) (queue : List Module) (marked : List AssetId)
    (reached : List Module) :
    Except Error (List Module) :=
  match queue with
  | [] => .ok reached
  | m :: rest =>
    match g.dangling m with
    | missing :: _ => .error (.missingModule missing (some m.id))
    | [] =>
      g.explore (rest ++ g.fresh marked m) (marked ++ (g.fresh marked m).map Module.id)
        (reached ++ [m])
termination_by (g.unmarked marked).length + queue.length
decreasing_by
  have := unmarked_fresh g marked m
  simp only [List.length_append, List.length_cons]
  omega

def reach (g : ModuleGraph) (start : Module) : Except Error (List Module) :=
  g.explore [start] [start.id] []

def closure (g : ModuleGraph) (entry : AssetId) : Except Error Verdict :=
  match g.owner? entry with
  | none => .error (.missingModule entry none)
  | some start => do
    -- the search does not stop at modules that are not supported, so all of them are known
    let reached ← g.reach start
    match reached.flatMap Module.offendingLibraries with
    | [] =>
      return .resolved
        ⟨entry, Ascending.ofList (fun a b => AssetId.before a.id b.id) reached⟩
    | offending => return .unsupported (.ofList entry offending)

end ModuleGraph

end DartBundle
