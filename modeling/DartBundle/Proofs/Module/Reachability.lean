import DartBundle.Module.Closure
import Mathlib.Data.List.Nodup
/-!
This module contains the theory of the search for a closure. What a module reaches is the least set
that holds it and every module that a member depends on. The search ends with exactly that set, or
at a member with a dependency that no module of the graph has as its identity.
-/

namespace DartBundle

inductive Reaches (modules : List Module) (start : Module) : Module → Prop
  | start : Reaches modules start start
  | dependency {m next : Module} (reached : Reaches modules start m) (known : next ∈ modules)
      (named : next.id ∈ m.dependencies) : Reaches modules start next

def Module.Lacks (m : Module) (modules : List Module) (missing : AssetId) : Prop :=
  missing ∈ m.dependencies ∧ ∀ other ∈ modules, other.id ≠ missing

theorem mem_of_reaches {modules : List Module} {start m : Module} (hstart : start ∈ modules)
    (h : Reaches modules start m) : m ∈ modules := by
  cases h with
  | start => exact hstart
  | dependency _ known _ => exact known

namespace ModuleGraph

variable {g : ModuleGraph} {start m next : Module} {queue reached found : List Module}
  {marked : List AssetId}

theorem eq_of_id_eq (hm : m ∈ g.modules) (hnext : next ∈ g.modules) (h : m.id = next.id) :
    m = next := by
  have := List.inj_on_of_nodup_map g.distinct
  exact this hm hnext h

theorem get?_eq_some_iff {id : AssetId} : g.get? id = some m ↔ m ∈ g.modules ∧ m.id = id := by
  constructor
  · exact mem_of_get?
  · rintro ⟨hm, hid⟩
    cases hget : g.get? id with
    | none =>
      have := List.find?_eq_none.1 hget m hm
      simp [hid] at this
    | some other =>
      obtain ⟨hother, hid'⟩ := mem_of_get? hget
      rw [eq_of_id_eq hother hm (hid'.trans hid.symm)]

theorem get?_eq_none_iff {id : AssetId} : g.get? id = none ↔ ∀ m ∈ g.modules, m.id ≠ id := by
  unfold get?
  simp

theorem mem_successors_iff :
    next ∈ g.successors m ↔ next ∈ g.modules ∧ next.id ∈ m.dependencies := by
  rw [mem_successors]
  constructor
  · rintro ⟨id, hid, hget⟩
    obtain ⟨hnext, rfl⟩ := mem_of_get? hget
    exact ⟨hnext, hid⟩
  · rintro ⟨hnext, hid⟩
    exact ⟨next.id, hid, get?_eq_some_iff.2 ⟨hnext, rfl⟩⟩

theorem mem_dangling_iff {id : AssetId} : id ∈ g.dangling m ↔ m.Lacks g.modules id := by
  unfold dangling Module.Lacks
  rw [List.mem_filter, Option.isNone_iff_eq_none, get?_eq_none_iff]

theorem owner?_eq_none_iff {source : AssetId} :
    g.owner? source = none ↔ ∀ m ∈ g.modules, source ∉ m.allSources := by
  unfold owner?
  simp

theorem mem_of_owner? {source : AssetId} (h : g.owner? source = some m) :
    m ∈ g.modules ∧ source ∈ m.allSources :=
  ⟨List.mem_of_find?_eq_some h, by simpa using List.find?_some h⟩

/--
What holds at each turn of the search from a module. The marks tell the modules that have been taken
off the queue and those that are on it, in this order.
-/
structure Searching (g : ModuleGraph) (start : Module) (queue : List Module)
    (marked : List AssetId) (reached : List Module) : Prop where
  marks : marked = (reached ++ queue).map Module.id
  nodup : (reached ++ queue).Nodup
  known : ∀ m ∈ reached ++ queue, m ∈ g.modules
  sound : ∀ m ∈ reached ++ queue, Reaches g.modules start m
  started : start ∈ reached ++ queue
  closed : ∀ m ∈ reached, ∀ next ∈ g.successors m, next ∈ reached ++ queue
  whole : ∀ m ∈ reached, g.dangling m = []

namespace Searching

theorem init (hstart : start ∈ g.modules) : Searching g start [start] [start.id] [] where
  marks := by simp
  nodup := by simp
  known := by simpa using hstart
  sound := by simpa using Reaches.start
  started := by simp
  closed := by simp
  whole := by simp

theorem mem_fresh_iff (h : Searching g start queue marked reached) :
    next ∈ g.fresh marked m ↔ next ∈ g.successors m ∧ next ∉ reached ++ queue := by
  unfold fresh
  rw [List.mem_filter, decide_eq_true_eq, h.marks]
  constructor
  · rintro ⟨hnext, hnot⟩
    exact ⟨hnext, fun hmem => hnot (List.mem_map_of_mem hmem)⟩
  · rintro ⟨hnext, hnot⟩
    refine ⟨hnext, fun hmem => hnot ?_⟩
    obtain ⟨other, hother, hid⟩ := List.mem_map.1 hmem
    rwa [← eq_of_id_eq (h.known other hother) (mem_successors_iff.1 hnext).1 hid]

theorem step (h : Searching g start (m :: queue) marked reached) (hwhole : g.dangling m = []) :
    Searching g start (queue ++ g.fresh marked m) (marked ++ (g.fresh marked m).map Module.id)
      (reached ++ [m]) := by
  -- taking a module off the queue changes neither what is marked nor its order
  have hall : (reached ++ [m]) ++ (queue ++ g.fresh marked m) =
      (reached ++ m :: queue) ++ g.fresh marked m := by
    simp
  have hfresh : ∀ next ∈ g.fresh marked m,
      next ∈ g.modules ∧ next.id ∈ m.dependencies ∧ next ∉ reached ++ m :: queue := by
    intro next hnext
    obtain ⟨hsucc, hnot⟩ := h.mem_fresh_iff.1 hnext
    obtain ⟨hknown, hid⟩ := mem_successors_iff.1 hsucc
    exact ⟨hknown, hid, hnot⟩
  constructor
  case marks =>
    rw [hall, List.map_append, ← h.marks]
  case nodup =>
    rw [hall]
    apply List.nodup_append.2
    refine ⟨h.nodup, (nodup_successors g m).sublist List.filter_sublist, ?_⟩
    rintro a ha b hb rfl
    exact (hfresh a hb).2.2 ha
  case known =>
    intro next hnext
    rw [hall] at hnext
    rcases List.mem_append.1 hnext with hnext | hnext
    · exact h.known next hnext
    · exact (hfresh next hnext).1
  case sound =>
    intro next hnext
    rw [hall] at hnext
    rcases List.mem_append.1 hnext with hnext | hnext
    · exact h.sound next hnext
    · obtain ⟨hknown, hid, _⟩ := hfresh next hnext
      exact .dependency (h.sound m (by simp)) hknown hid
  case started =>
    rw [hall]
    exact List.mem_append_left _ h.started
  case closed =>
    intro n hn next hnext
    rw [hall]
    by_cases hmem : next ∈ reached ++ m :: queue
    · exact List.mem_append_left _ hmem
    · rcases List.mem_append.1 hn with hn | hn
      · exact absurd (h.closed n hn next hnext) hmem
      · rw [List.mem_singleton] at hn
        subst hn
        exact List.mem_append_right _ (h.mem_fresh_iff.2 ⟨hnext, hmem⟩)
  case whole =>
    intro n hn
    rcases List.mem_append.1 hn with hn | hn
    · exact h.whole n hn
    · rw [List.mem_singleton] at hn
      rwa [hn]

theorem mem_iff_reaches (h : Searching g start [] marked reached) :
    m ∈ reached ↔ Reaches g.modules start m := by
  constructor
  · intro hm
    exact h.sound m (by simpa using hm)
  · intro hm
    induction hm with
    | start => simpa using h.started
    | dependency _ known named ih =>
      have := h.closed _ ih _ (mem_successors_iff.2 ⟨known, named⟩)
      simpa using this

end Searching

theorem explore_ends (h : Searching g start queue marked reached) :
    (∃ found, g.explore queue marked reached = .ok found ∧ found.Nodup ∧
      (∀ m, m ∈ found ↔ Reaches g.modules start m) ∧ ∀ m ∈ found, g.dangling m = []) ∨
    ∃ m missing rest, g.explore queue marked reached = .error (.missingModule missing (some m.id)) ∧
      Reaches g.modules start m ∧ g.dangling m = missing :: rest := by
  -- each turn of the search keeps to what holds of it, so it is enough to look at how it ends
  fun_induction explore g queue marked reached with
  | case1 marked reached =>
    refine .inl ⟨reached, rfl, ?_, fun m => h.mem_iff_reaches, h.whole⟩
    simpa using h.nodup
  | case2 marked reached m rest missing others hdangling =>
    exact .inr ⟨m, missing, others, rfl, h.sound m (by simp), hdangling⟩
  | case3 marked reached m rest hdangling ih => exact ih (h.step hdangling)

theorem reach_ends (hstart : start ∈ g.modules) :
    (∃ found, g.reach start = .ok found ∧ found.Nodup ∧
      (∀ m, m ∈ found ↔ Reaches g.modules start m) ∧ ∀ m ∈ found, g.dangling m = []) ∨
    ∃ m missing rest, g.reach start = .error (.missingModule missing (some m.id)) ∧
      Reaches g.modules start m ∧ g.dangling m = missing :: rest :=
  explore_ends (.init hstart)

end ModuleGraph

end DartBundle
