import DartBundle.Module.Search
import DartBundle.Proofs.Module.Index
/-!
This module contains how a search by numbers runs. A number is marked when it is put on the queue, so it
gets there once at most, and what is marked has been taken off the queue or is still on it. The search
ends after no more turns than there are modules, whatever circles their dependencies form, and its verdict
is that of the graph.
-/

namespace DartBundle

namespace ModuleIndex

variable {ix : ModuleIndex} {g : ModuleGraph} {modules : List Module} {m : Module} {s s' : Search}
  {entry : AssetId} {number first turns : Nat} {pushed new numbers seen : List Nat}

structure Searching (ix : ModuleIndex) (s : Search) : Prop where
  length : s.marks.length = ix.size
  marked : ∀ number, s.marks[number]? = some true ↔ number ∈ s.reached ++ s.queue
  nodup : (s.reached ++ s.queue).Nodup

namespace Searching

theorem lt_size (h : ix.Searching s) (hnumber : number ∈ s.reached ++ s.queue) :
    number < ix.size := by
  obtain ⟨hlt, -⟩ := List.getElem?_eq_some_iff.1 ((h.marked number).2 hnumber)
  rwa [h.length] at hlt

theorem length_le (h : ix.Searching s) : (s.reached ++ s.queue).length ≤ ix.size := by
  have hsubset : s.reached ++ s.queue ⊆ List.range ix.size := fun number hnumber =>
    List.mem_range.2 (h.lt_size hnumber)
  have hle := h.nodup.length_le_of_subset hsubset
  rwa [List.length_range] at hle

theorem unmarked (h : ix.Searching s) (hlt : number < ix.size)
    (hnew : number ∉ s.reached ++ s.queue) : s.marks[number]? = some false := by
  rw [← h.length] at hlt
  rw [List.getElem?_eq_getElem hlt, Option.some.injEq, ← Bool.not_eq_true]
  intro hmark
  exact hnew ((h.marked number).1 (List.getElem?_eq_some_iff.2 ⟨hlt, hmark⟩))

theorem push (h : ix.Searching s) (hlt : number < ix.size) :
    ∃ s', s.push number = some s' ∧ ix.Searching s' ∧ s'.reached = s.reached ∧
      s'.queue = s.queue ++ if number ∈ s.reached ++ s.queue then [] else [number] := by
  by_cases hknown : number ∈ s.reached ++ s.queue
  · refine ⟨s, ?_, h, rfl, ?_⟩
    · unfold Search.push
      rw [(h.marked number).2 hknown]
    · rw [if_pos hknown, List.append_nil]
  · refine ⟨{ s with queue := s.queue ++ [number], marks := s.marks.set number true }, ?_, ?_, rfl, ?_⟩
    · unfold Search.push
      rw [h.unmarked hlt hknown]
    · constructor
      case length =>
        rw [List.length_set]
        exact h.length
      case marked =>
        intro other
        have hmark : number < s.marks.length := h.length ▸ hlt
        dsimp only
        rw [← List.append_assoc, List.mem_append, ← h.marked other, List.mem_singleton]
        by_cases hother : other = number
        · subst hother
          simp [List.getElem?_set_self hmark]
        · simp [List.getElem?_set_ne (Ne.symm hother), hother]
      case nodup =>
        dsimp only
        rw [← List.append_assoc, ← List.concat_eq_append, List.nodup_concat]
        exact ⟨hknown, h.nodup⟩
    · rw [if_neg hknown]

theorem foldlM_push (h : ix.Searching s) (distinct : numbers.Nodup)
    (hlt : ∀ number ∈ numbers, number < ix.size) :
    ∃ s', numbers.foldlM Search.push s = some s' ∧ ix.Searching s' ∧ s'.reached = s.reached ∧
      s'.queue = s.queue ++ numbers.filter fun number => decide (number ∉ s.reached ++ s.queue) := by
  induction numbers generalizing s with
  | nil => exact ⟨s, rfl, h, rfl, by simp⟩
  | cons number rest ih =>
    obtain ⟨hnumber, hrest⟩ := List.nodup_cons.1 distinct
    obtain ⟨next, hnext, hsearching, hreached, hqueue⟩ := h.push (hlt number List.mem_cons_self)
    obtain ⟨last, hlast, hsearching', hreached', hqueue'⟩ :=
      ih hsearching hrest fun n hn => hlt n (List.mem_cons_of_mem _ hn)
    refine ⟨last, ?_, hsearching', hreached'.trans hreached, ?_⟩
    · rw [List.foldlM_cons, hnext]
      exact hlast
    · -- what comes after a number is not this number, so it is as new as before
      have hothers : (rest.filter fun n => decide (n ∉ next.reached ++ next.queue)) =
          rest.filter fun n => decide (n ∉ s.reached ++ s.queue) := by
        apply List.filter_congr
        intro n hn
        have hne : n ≠ number := fun heq => hnumber (heq ▸ hn)
        rw [decide_eq_decide, hreached, hqueue]
        split <;> simp [hne]
      rw [hqueue', hothers, hqueue, List.filter_cons]
      by_cases hknown : number ∈ s.reached ++ s.queue <;> simp [hknown]

end Searching

inductive Turned (ix : ModuleIndex) (s : Search) : Option Turn → Prop
  | finished (empty : s.queue = []) : Turned ix s (some .finished)
  | lacking {number : Nat} {rest : List Nat} {m : Module} {missing : AssetId}
      {others : List AssetId} (taken : s.queue = number :: rest)
      (known : ix.modules[number]? = some m) (lacks : ix.lackedBy number = missing :: others) :
      Turned ix s (some (.lacking missing m.id))
  | onward {number : Nat} {rest : List Nat} {m : Module} {next : Search}
      (taken : s.queue = number :: rest) (known : ix.modules[number]? = some m)
      (whole : ix.lackedBy number = []) (searching : ix.Searching next)
      (reached : next.reached = s.reached ++ [number])
      (queue : next.queue = rest ++
        (ix.neighbours number).filter fun n => decide (n ∉ s.reached ++ s.queue)) :
      Turned ix s (some (.onward next))

theorem Searching.turned (h : ix.Searching s) (hix : ix.Represents modules) :
    ix.Turned s (ix.turn s) := by
  unfold turn
  cases hqueue : s.queue with
  | nil => exact .finished hqueue
  | cons number rest =>
    have hlt : number < ix.modules.length := h.lt_size (by simp [hqueue])
    have hknown := List.getElem?_eq_getElem hlt
    cases hlacks : ix.lackedBy number with
    | cons missing others =>
      simp only [hlacks, List.head?_cons, hknown, Option.map_some]
      exact .lacking hqueue hknown hlacks
    | nil =>
      have hall : (s.reached ++ [number]) ++ rest = s.reached ++ s.queue := by simp [hqueue]
      -- the number that is taken off the queue stays marked
      have htaken : ix.Searching { s with queue := rest, reached := s.reached ++ [number] } := by
        constructor
        case length => exact h.length
        case marked => exact hall ▸ h.marked
        case nodup => exact hall ▸ h.nodup
      have hneighbours : ∀ n ∈ ix.neighbours number, n < ix.size := fun n =>
        hix.lt_size_of_mem_neighbours
      obtain ⟨next, hnext, hsearching, hreached, hgrown⟩ :=
        htaken.foldlM_push (hix.nodup_neighbours number) hneighbours
      simp only [hlacks, List.head?_nil, hnext, Option.map_some]
      exact .onward hqueue hknown hlacks hsearching hreached (hall ▸ hgrown)

theorem searching_start (hlt : first < ix.size) :
    ∃ s, ix.start first = some s ∧ ix.Searching s ∧ s.reached = [] ∧ s.queue = [first] := by
  have hempty : ix.Searching ⟨[], List.replicate ix.size false, []⟩ := by
    constructor
    case length => exact List.length_replicate
    case marked =>
      intro number
      simp [List.getElem?_replicate]
    case nodup => exact .nil
  obtain ⟨s, hs, hsearching, hreached, hqueue⟩ := hempty.push hlt
  exact ⟨s, hs, hsearching, hreached, by simpa using hqueue⟩

/--
The states that a search from a module comes to, with the number of turns that it has taken and all
numbers that have been put on the queue, in this order.
-/
inductive Searched (ix : ModuleIndex) (first : Nat) : Nat → List Nat → Search → Prop
  | start {s : Search} (started : ix.start first = some s) : Searched ix first 0 [first] s
  | turn {turns : Nat} {pushed new : List Nat} {s next : Search}
      (searched : Searched ix first turns pushed s) (onward : ix.turn s = some (.onward next))
      (grown : next.queue = s.queue.tail ++ new) :
      Searched ix first (turns + 1) (pushed ++ new) next

namespace Searched

theorem searching (h : ix.Searched first turns pushed s) (hix : ix.Represents modules)
    (hlt : first < ix.size) :
    ix.Searching s ∧ pushed = s.reached ++ s.queue ∧ turns = s.reached.length := by
  induction h with
  | start started =>
    obtain ⟨s, hs, hsearching, hreached, hqueue⟩ := searching_start hlt
    rw [started] at hs
    cases hs
    exact ⟨hsearching, by simp [hreached, hqueue], by simp [hreached]⟩
  | turn searched onward grown ih =>
    obtain ⟨hsearching, hpushed, hturns⟩ := ih
    have turned := hsearching.turned hix
    rw [onward] at turned
    cases turned with
    | onward taken known whole hnext hreached hqueue =>
      refine ⟨hnext, ?_, by simp [hturns, hreached]⟩
      rw [hpushed, taken, hreached, grown, taken]
      simp

theorem exists_turn (h : ix.Searched first turns pushed s) (hix : ix.Represents modules)
    (hlt : first < ix.size) (onward : ix.turn s = some (.onward s')) :
    ∃ new, ix.Searched first (turns + 1) (pushed ++ new) s' := by
  have turned := (h.searching hix hlt).1.turned hix
  rw [onward] at turned
  cases turned with
  | onward taken known whole hnext hreached hqueue =>
    exact ⟨_, .turn h onward (by rw [hqueue, taken]; rfl)⟩

theorem ends (h : ix.Searched first turns pushed s) (hix : ix.Represents modules)
    (hlt : first < ix.size) :
    ∃ turns pushed s, ix.Searched first turns pushed s ∧
      (ix.turn s = some .finished ∨
        ∃ missing requiredBy, ix.turn s = some (.lacking missing requiredBy)) := by
  fun_induction search ix s generalizing turns pushed with
  | case1 s hturn =>
    have turned := (h.searching hix hlt).1.turned hix
    rw [hturn] at turned
    cases turned
  | case2 s hturn => exact ⟨turns, pushed, s, h, .inl hturn⟩
  | case3 s missing requiredBy hturn =>
    exact ⟨turns, pushed, s, h, .inr ⟨missing, requiredBy, hturn⟩⟩
  | case4 s next hturn ih =>
    obtain ⟨new, hnext⟩ := h.exists_turn hix hlt hturn
    exact ih hnext

end Searched

theorem listed_append (ix : ModuleIndex) (numbers others : List Nat) :
    ix.listed (numbers ++ others) = ix.listed numbers ++ ix.listed others :=
  List.filterMap_append

theorem listed_cons (hm : ix.modules[number]? = some m) (rest : List Nat) :
    ix.listed (number :: rest) = m :: ix.listed rest :=
  List.filterMap_cons_some hm

theorem Represents.listed_filter (h : ix.Represents modules) (numbers seen : List Nat) :
    ix.listed (numbers.filter fun n => decide (n ∉ seen)) =
      (ix.listed numbers).filter fun m => decide (m.id ∉ (ix.listed seen).map Module.id) := by
  unfold listed
  rw [List.filterMap_filter, List.filter_filterMap]
  apply List.filterMap_congr
  intro n _
  cases hn : ix.modules[n]? with
  | none => simp
  | some m =>
    have hiff : m.id ∈ (seen.filterMap (ix.modules[·]?)).map Module.id ↔ n ∈ seen := by
      rw [h.modules_eq] at hn ⊢
      simp only [List.mem_map, List.mem_filterMap]
      constructor
      · rintro ⟨other, ⟨k, hk, hother⟩, hid⟩
        have hk' := h.lookup_numbers_iff.2 ⟨other, hother, hid⟩
        have hn' := h.lookup_numbers_iff.2 ⟨m, hn, rfl⟩
        rw [hk'] at hn'
        cases hn'
        exact hk
      · intro hseen
        exact ⟨m, ⟨n, hseen, hn⟩, rfl⟩
    simp only [Option.filter, decide_not, hiff]

theorem Answers.dangling_eq (hg : ix.Answers g) (known : ix.modules[number]? = some m) :
    g.dangling m = ix.lackedBy number :=
  (hg.lackedBy number m (hg.modules ▸ known)).symm

theorem Represents.explore_turn {rest : List Nat} (hix : ix.Represents modules) (hg : ix.Answers g)
    (taken : s.queue = number :: rest) (known : ix.modules[number]? = some m)
    (whole : ix.lackedBy number = []) (reached : s'.reached = s.reached ++ [number])
    (queue : s'.queue = rest ++
      (ix.neighbours number).filter fun n => decide (n ∉ s.reached ++ s.queue)) :
    g.explore (ix.listed s.queue) ((ix.listed (s.reached ++ s.queue)).map Module.id)
        (ix.listed s.reached) =
      g.explore (ix.listed s'.queue) ((ix.listed (s'.reached ++ s'.queue)).map Module.id)
        (ix.listed s'.reached) := by
  have hdangling : g.dangling m = [] := (hg.dangling_eq known).trans whole
  have hfresh : g.fresh ((ix.listed (s.reached ++ s.queue)).map Module.id) m =
      ix.listed ((ix.neighbours number).filter fun n => decide (n ∉ s.reached ++ s.queue)) := by
    rw [hix.listed_filter, hg.neighbours number m (hg.modules ▸ known)]
    rfl
  have hreached : ix.listed s'.reached = ix.listed s.reached ++ [m] := by
    rw [reached, listed_append, listed_cons known]
    rfl
  have hqueue : ix.listed s'.queue = ix.listed rest ++
      g.fresh ((ix.listed (s.reached ++ s.queue)).map Module.id) m := by
    rw [queue, listed_append, hfresh]
  have hmarked : ix.listed (s'.reached ++ s'.queue) = ix.listed (s.reached ++ s.queue) ++
      g.fresh ((ix.listed (s.reached ++ s.queue)).map Module.id) m := by
    rw [listed_append, hreached, hqueue, listed_append ix s.reached, taken, listed_cons known]
    simp
  calc g.explore (ix.listed s.queue) ((ix.listed (s.reached ++ s.queue)).map Module.id)
        (ix.listed s.reached)
    _ = g.explore (m :: ix.listed rest) ((ix.listed (s.reached ++ s.queue)).map Module.id)
          (ix.listed s.reached) := by rw [taken, listed_cons known]
    _ = _ := by
      rw [ModuleGraph.explore, hdangling, hqueue, hmarked, hreached, List.map_append]

theorem Searching.search_eq (h : ix.Searching s) (hix : ix.Represents modules)
    (hg : ix.Answers g) :
    ∃ result, ix.search s = some result ∧
      result.map ix.listed = g.explore (ix.listed s.queue)
        ((ix.listed (s.reached ++ s.queue)).map Module.id) (ix.listed s.reached) ∧
      ∀ numbers, result = .ok numbers → ∀ number ∈ numbers, number < ix.size := by
  fun_induction search ix s with
  | case1 s hturn =>
    have turned := h.turned hix
    rw [hturn] at turned
    cases turned
  | case2 s hturn =>
    have turned := h.turned hix
    rw [hturn] at turned
    cases turned with
    | finished empty =>
      refine ⟨_, rfl, ?_, ?_⟩
      · rw [empty]
        exact (ModuleGraph.explore.eq_1 ..).symm
      · rintro numbers ⟨⟩ number hnumber
        exact h.lt_size (List.mem_append_left _ hnumber)
  | case3 s missing requiredBy hturn =>
    have turned := h.turned hix
    rw [hturn] at turned
    cases turned with
    | lacking taken known lacks =>
      refine ⟨_, rfl, ?_, ?_⟩
      · rw [taken, listed_cons known, ModuleGraph.explore, hg.dangling_eq known, lacks]
        rfl
      · rintro numbers ⟨⟩
  | case4 s next hturn ih =>
    have turned := h.turned hix
    rw [hturn] at turned
    cases turned with
    | onward taken known whole searching reached queue =>
      obtain ⟨result, hresult, hexplore, hall⟩ := ih searching
      refine ⟨result, hresult, ?_, hall⟩
      rw [hexplore, hix.explore_turn hg taken known whole reached queue]

theorem mapM_getElem? (hlt : ∀ number ∈ numbers, number < ix.size) :
    numbers.mapM (ix.modules[·]?) = some (ix.listed numbers) := by
  induction numbers with
  | nil => rfl
  | cons number rest ih =>
    have hknown := List.getElem?_eq_getElem (hlt number List.mem_cons_self)
    rw [List.mapM_cons, hknown, ih fun n hn => hlt n (List.mem_cons_of_mem _ hn),
      listed_cons hknown]
    rfl

theorem Entered.getElem?_of_lookup_owners (h : ix.Entered modules)
    (howner : ix.owners.lookup entry = some number) :
    ∃ m, ix.modules[number]? = some m ∧ ix.owner? entry = some m := by
  have hknown := List.getElem?_eq_getElem (h.lt_size_of_owners howner)
  refine ⟨_, hknown, ?_⟩
  unfold owner?
  rw [howner]
  exact hknown

theorem Represents.closure_eq (h : ix.Represents modules) (hg : ix.Answers g) (entry : AssetId) :
    ix.closure entry = some (g.closure entry) := by
  unfold closure ModuleGraph.closure
  cases howner : ix.owners.lookup entry with
  | none =>
    have hnone : g.owner? entry = none := by
      rw [← hg.owner?, owner?, howner]
      rfl
    rw [hnone]
  | some number =>
    obtain ⟨m, hm, hsome⟩ := h.getElem?_of_lookup_owners howner
    have hlt : number < ix.size := (List.getElem?_eq_some_iff.1 hm).1
    obtain ⟨s, hs, hsearching, hreached, hqueue⟩ := searching_start hlt
    obtain ⟨result, hresult, hexplore, hall⟩ := hsearching.search_eq h hg
    have hreach : g.reach m = result.map ix.listed := by
      rw [hexplore, hreached, hqueue, List.nil_append, listed_cons hm]
      rfl
    rw [hg.owner?] at hsome
    simp only [hs, hresult, hsome, hreach, bind, Option.bind]
    cases result with
    | error e => rfl
    | ok numbers =>
      simp only [mapM_getElem? (hall numbers rfl), Except.map, Except.bind]
      cases (ix.listed numbers).flatMap Module.offendingLibraries <;> rfl

theorem search_visits_once (hix : ofModules modules = .ok ix)
    (howner : ix.owners.lookup entry = some first) :
    (first < ix.size ∧ ∃ s, ix.start first = some s ∧ ix.Searched first 0 [first] s) ∧
      (∀ turns pushed s, ix.Searched first turns pushed s →
        pushed = s.reached ++ s.queue ∧ pushed.Nodup ∧
          (s.queue.Nodup ∧ s.reached.Nodup ∧ s.queue.Disjoint s.reached) ∧
          (∀ number, s.marks[number]? = some true ↔ number ∈ s.queue ∨ number ∈ s.reached) ∧
          (s.marks.length = ix.size ∧ ∀ number ∈ s.queue, number < ix.size ∧
            ∀ next ∈ ix.neighbours number, next < ix.size) ∧
          (turns = s.reached.length ∧ turns + s.queue.length ≤ ix.size) ∧
          ix.turn s ≠ none ∧
          ∀ next, ix.turn s = some (.onward next) →
            ∃ new, ix.Searched first (turns + 1) (pushed ++ new) next) ∧
      (∃ turns pushed s, ix.Searched first turns pushed s ∧
        (ix.turn s = some .finished ∧ turns ≤ ix.size ∨
          ∃ missing requiredBy, ix.turn s = some (.lacking missing requiredBy) ∧
            turns + 1 ≤ ix.size)) ∧
      ∃ g, ModuleGraph.ofModules modules = .ok g ∧ ix.closure entry = some (g.closure entry) := by
  have hrepresents := represents_of_ofModules hix
  obtain ⟨m, hm, -⟩ := hrepresents.getElem?_of_lookup_owners howner
  have hlt : first < ix.size := (List.getElem?_eq_some_iff.1 hm).1
  obtain ⟨begun, hbegun, -⟩ := searching_start hlt
  have hstart : ix.Searched first 0 [first] begun := .start hbegun
  refine ⟨⟨hlt, begun, hbegun, hstart⟩, ?_, ?_, ?_⟩
  · intro turns pushed s h
    obtain ⟨hsearching, hpushed, hturns⟩ := h.searching hrepresents hlt
    obtain ⟨hreached, hqueue, happart⟩ := List.nodup_append.1 hsearching.nodup
    refine ⟨hpushed, hpushed ▸ hsearching.nodup, ⟨hqueue, hreached, ?_⟩, ?_,
      ⟨hsearching.length, ?_⟩, ⟨hturns, ?_⟩, ?_, fun next => h.exists_turn hrepresents hlt⟩
    · intro number hnumber hnumber'
      exact happart number hnumber' number hnumber rfl
    · intro number
      rw [hsearching.marked, List.mem_append, or_comm]
    · intro number hnumber
      refine ⟨hsearching.lt_size (List.mem_append_right _ hnumber), ?_⟩
      intro next hnext
      exact hrepresents.lt_size_of_mem_neighbours hnext
    · rw [hturns, ← List.length_append]
      exact hsearching.length_le
    · -- each number on the queue has a module and each neighbour has a mark, so no turn gets stuck
      intro hnone
      have turned := hsearching.turned hrepresents
      rw [hnone] at turned
      cases turned
  · obtain ⟨turns, pushed, s, h, hend⟩ := hstart.ends hrepresents hlt
    obtain ⟨hsearching, -, rfl⟩ := h.searching hrepresents hlt
    have hle := hsearching.length_le
    rw [List.length_append] at hle
    refine ⟨_, pushed, s, h, ?_⟩
    rcases hend with hfinished | ⟨missing, requiredBy, hlacking⟩
    · exact .inl ⟨hfinished, by omega⟩
    · have turned := hsearching.turned hrepresents
      rw [hlacking] at turned
      cases turned with
      | lacking taken known lacks =>
        -- the number of the module that lacks something is still on the queue
        rw [taken, List.length_cons] at hle
        exact .inr ⟨missing, _, hlacking, by omega⟩
  · obtain ⟨g, hg, hanswers⟩ := hrepresents.answers
    exact ⟨g, hg, hrepresents.closure_eq hanswers entry⟩

theorem circle_visited_once :
    ∃ ix, ofModules ModuleGraph.circle = .ok ix ∧
      ix.owners.lookup ⟨"a", "lib/x"⟩ = some 0 ∧
        ∃ turns pushed s, ix.Searched 0 turns pushed s ∧ turns ≤ 2 ∧ pushed.Nodup ∧
          ∀ next, ix.turn s ≠ some (.onward next) := by
  have distinct : (ModuleGraph.circle.map Module.id).Nodup := by decide
  obtain ⟨ix, hix, hrepresents⟩ := represents_of_distinct distinct
  have howner : ix.owners.lookup ⟨"a", "lib/x"⟩ = some 0 := by
    rw [hrepresents.owners]
    decide
  have hsize : ix.size = 2 := congrArg List.length hrepresents.modules_eq
  obtain ⟨-, hturns, ⟨turns, pushed, s, hsearched, hend⟩, -⟩ := search_visits_once hix howner
  obtain ⟨-, hnodup, -, -, -, hcount, -⟩ := hturns turns pushed s hsearched
  refine ⟨ix, hix, howner, turns, pushed, s, hsearched, by omega, hnodup, ?_⟩
  intro next hnext
  rcases hend with ⟨hfinished, -⟩ | ⟨missing, requiredBy, hlacking, -⟩
  · rw [hfinished] at hnext
    cases hnext
  · rw [hlacking] at hnext
    cases hnext

end ModuleIndex

end DartBundle
