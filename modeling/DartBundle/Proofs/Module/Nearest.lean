import DartBundle.Proofs.Module.Verdict
import Mathlib.Data.Nat.Find
/-!
This module contains which missing module is reported when several are. The search takes modules off its
queue in breadth-first order, so the one that is to blame is a nearest one among those that lack a
dependency, and the first of these in that order.
-/

namespace DartBundle

section FirstOccurrences

variable {α : Type} [DecidableEq α] {as bs : List α}

theorem firstOccurrences_append (as bs : List α) :
    firstOccurrences (as ++ bs) =
      firstOccurrences as ++ (firstOccurrences bs).filter fun b => decide (b ∉ as) := by
  induction as with
  | nil => simp [firstOccurrences]
  | cons a rest ih =>
    rw [List.cons_append, firstOccurrences, ih, List.filter_append, List.filter_filter,
      firstOccurrences, List.cons_append]
    simp only [List.mem_cons, not_or, Bool.decide_and]

theorem firstOccurrences_eq_self (h : as.Nodup) : firstOccurrences as = as := by
  induction as with
  | nil => rfl
  | cons a rest ih =>
    obtain ⟨ha, hrest⟩ := List.nodup_cons.1 h
    rw [firstOccurrences, ih hrest, List.filter_eq_self.2]
    intro b hb
    rw [decide_eq_true_eq]
    rintro rfl
    exact ha hb

theorem firstOccurrences_eq_self_iff : firstOccurrences as = as ↔ as.Nodup := by
  constructor
  · intro h
    rw [← h]
    exact nodup_firstOccurrences as
  · exact firstOccurrences_eq_self

theorem pairwise_firstOccurrences (as : List α) :
    (firstOccurrences as).Pairwise fun a b => as.idxOf a < as.idxOf b := by
  induction as with
  | nil => exact .nil
  | cons a rest ih =>
    have hlater : ∀ b ∈ (firstOccurrences rest).filter fun b => decide (b ≠ a),
        (a :: rest).idxOf b = rest.idxOf b + 1 := by
      intro b hb
      have hne : b ≠ a := by simpa using (List.mem_filter.1 hb).2
      exact List.idxOf_cons_ne _ hne.symm
    rw [firstOccurrences, List.pairwise_cons]
    constructor
    · intro b hb
      rw [hlater b hb, List.idxOf_cons_self]
      exact Nat.succ_pos _
    · refine (ih.filter _).imp_of_mem fun hb hc hlt => ?_
      rw [hlater _ hb, hlater _ hc]
      exact Nat.succ_lt_succ hlt

theorem firstOccurrences_isPrefix (h : as <+: bs) : firstOccurrences as <+: firstOccurrences bs := by
  obtain ⟨rest, rfl⟩ := h
  rw [firstOccurrences_append]
  exact List.prefix_append _ _

theorem firstOccurrences_filterMap {β : Type} [DecidableEq β] {f : α → Option β}
    (inj : ∀ a a' b, f a = some b → f a' = some b → a = a') (as : List α) :
    firstOccurrences (as.filterMap f) = (firstOccurrences as).filterMap f := by
  induction as with
  | nil => rfl
  | cons a rest ih =>
    cases ha : f a with
    | none =>
      have hothers : ∀ x, (if decide (x ≠ a) = true then f x else none) = f x := by
        intro x
        by_cases hx : x = a <;> simp [hx, ha]
      rw [List.filterMap_cons_none ha, ih, firstOccurrences, List.filterMap_cons_none ha,
        List.filterMap_filter]
      simp only [hothers]
    | some b =>
      have hothers : ∀ x, (f x).filter (fun y => decide (y ≠ b)) =
          if decide (x ≠ a) = true then f x else none := by
        intro x
        by_cases hx : x = a
        · simp [hx, ha]
        · cases hfx : f x with
          | none => simp
          | some y =>
            have hy : y ≠ b := by
              rintro rfl
              exact hx (inj x a y hfx ha)
            simp [hx, hy]
      rw [List.filterMap_cons_some ha, firstOccurrences, ih, firstOccurrences,
        List.filterMap_cons_some ha, List.filter_filterMap, List.filterMap_filter]
      simp only [hothers]

theorem firstOccurrences_filter (p : α → Bool) (as : List α) :
    firstOccurrences (as.filter p) = (firstOccurrences as).filter p := by
  rw [← List.filterMap_eq_filter]
  apply firstOccurrences_filterMap
  intro a a' b h h'
  rw [Option.guard_eq_some_iff] at h h'
  exact h.1.trans h'.1.symm

end FirstOccurrences

inductive ReachesIn (modules : List Module) (start : Module) : Nat → Module → Prop
  | start : ReachesIn modules start 0 start
  | dependency {n : Nat} {m next : Module} (reached : ReachesIn modules start n m)
      (known : next ∈ modules) (named : next.id ∈ m.dependencies) :
      ReachesIn modules start (n + 1) next

structure AtDistance (modules : List Module) (start : Module) (n : Nat) (m : Module) : Prop where
  reached : ReachesIn modules start n m
  least : ∀ k, ReachesIn modules start k m → n ≤ k

def Module.LacksFirst (m : Module) (modules : List Module) (missing : AssetId) : Prop :=
  ∃ earlier later, m.dependencies = earlier ++ missing :: later ∧
    (∀ id ∈ earlier, ∃ other ∈ modules, other.id = id) ∧ ∀ other ∈ modules, other.id ≠ missing

theorem reaches_iff_exists_reachesIn {modules : List Module} {start m : Module} :
    Reaches modules start m ↔ ∃ n, ReachesIn modules start n m := by
  constructor
  · intro h
    induction h with
    | start => exact ⟨0, .start⟩
    | dependency _ known named ih =>
      obtain ⟨n, hn⟩ := ih
      exact ⟨n + 1, .dependency hn known named⟩
  · rintro ⟨n, h⟩
    induction h with
    | start => exact .start
    | dependency _ known named ih => exact .dependency ih known named

theorem exists_atDistance {modules : List Module} {start m : Module} (h : Reaches modules start m) :
    ∃ n, AtDistance modules start n m := by
  classical
  have hsome := reaches_iff_exists_reachesIn.1 h
  exact ⟨Nat.find hsome, Nat.find_spec hsome, fun k hk => Nat.find_min' hsome hk⟩

namespace ModuleGraph

variable {g : ModuleGraph} {entry missing r : AssetId} {start m other : Module}
  {queue reached near far : List Module} {marked : List AssetId} {e : Error} {k n : Nat}

theorem pairwise_successors (g : ModuleGraph) (m : Module) :
    (g.successors m).Pairwise fun a b => m.dependencies.idxOf b.id < m.dependencies.idxOf a.id := by
  unfold successors
  rw [List.pairwise_reverse, List.pairwise_filterMap]
  refine (pairwise_firstOccurrences m.dependencies).imp fun hlt a ha b hb => ?_
  rwa [(mem_of_get? ha).2, (mem_of_get? hb).2]

def discover (g : ModuleGraph) (start : Module) (near : List Module) : List Module :=
  firstOccurrences (start :: near.flatMap g.successors)

def within (g : ModuleGraph) (start : Module) : Nat → List Module
  | 0 => [start]
  | n + 1 => g.discover start (g.within start n)

theorem discover_isPrefix (g : ModuleGraph) (start : Module) (h : near <+: far) :
    g.discover start near <+: g.discover start far := by
  obtain ⟨rest, rfl⟩ := h
  unfold discover
  rw [List.flatMap_append, ← List.cons_append]
  exact firstOccurrences_isPrefix (List.prefix_append _ _)

theorem singleton_isPrefix_discover (g : ModuleGraph) (start : Module) (near : List Module) :
    [start] <+: g.discover start near := by
  unfold discover
  rw [firstOccurrences]
  exact List.prefix_append [start] _

theorem within_isPrefix_succ (g : ModuleGraph) (start : Module) (n : Nat) :
    g.within start n <+: g.within start (n + 1) := by
  induction n with
  | zero => exact singleton_isPrefix_discover g start [start]
  | succ n ih => exact discover_isPrefix g start ih

theorem within_isPrefix (g : ModuleGraph) (start : Module) (h : k ≤ n) :
    g.within start k <+: g.within start n := by
  induction h with
  | refl => exact List.prefix_refl _
  | step _ ih => exact ih.trans (within_isPrefix_succ g start _)

theorem mem_within_iff :
    m ∈ g.within start n ↔ ∃ k ≤ n, ReachesIn g.modules start k m := by
  induction n generalizing m with
  | zero =>
    rw [within, List.mem_singleton]
    constructor
    · rintro rfl
      exact ⟨0, Nat.le_refl 0, .start⟩
    · rintro ⟨k, hk, h⟩
      obtain rfl := Nat.le_zero.1 hk
      cases h
      rfl
  | succ n ih =>
    rw [within, discover, mem_firstOccurrences, List.mem_cons, List.mem_flatMap]
    constructor
    · rintro (rfl | ⟨near, hnear, hm⟩)
      · exact ⟨0, Nat.zero_le _, .start⟩
      · obtain ⟨k, hk, hreaches⟩ := ih.1 hnear
        obtain ⟨known, named⟩ := mem_successors_iff.1 hm
        exact ⟨k + 1, Nat.succ_le_succ hk, .dependency hreaches known named⟩
    · rintro ⟨k, hk, h⟩
      cases h with
      | start => exact .inl rfl
      | @dependency k near _ reached known named =>
        refine .inr ⟨near, ih.2 ⟨k, Nat.le_of_succ_le_succ hk, reached⟩, ?_⟩
        exact mem_successors_iff.2 ⟨known, named⟩

/--
At each turn of the search the queue goes on from what has been taken off it as breadth-first order does.
-/
def InOrder (g : ModuleGraph) (start : Module) (queue reached : List Module) : Prop :=
  reached ++ queue = g.discover start reached

theorem inOrder_init (g : ModuleGraph) (start : Module) : g.InOrder start [start] [] := by
  simp [InOrder, discover, firstOccurrences]

theorem Searching.fresh_eq (h : Searching g start queue marked reached) :
    g.fresh marked m = (g.successors m).filter fun next => decide (next ∉ reached ++ queue) := by
  unfold fresh
  apply List.filter_congr
  intro next hnext
  have hmem : next ∈ g.fresh marked m ↔ next ∈ g.successors m ∧ next ∉ reached ++ queue :=
    h.mem_fresh_iff
  unfold fresh at hmem
  rw [List.mem_filter, decide_eq_true_eq] at hmem
  rw [decide_eq_decide]
  tauto

theorem InOrder.step (hordered : g.InOrder start (m :: queue) reached)
    (h : Searching g start (m :: queue) marked reached) :
    g.InOrder start (queue ++ g.fresh marked m) (reached ++ [m]) := by
  unfold InOrder discover at *
  rw [h.fresh_eq, List.flatMap_append, List.flatMap_singleton, ← List.cons_append,
    firstOccurrences_append, ← hordered, firstOccurrences_eq_self (nodup_successors g m)]
  have hmem : ∀ next, next ∈ start :: reached.flatMap g.successors ↔ next ∈ reached ++ m :: queue := by
    intro next
    rw [hordered, mem_firstOccurrences]
  simp only [hmem, List.append_assoc, List.nil_append, List.cons_append]

theorem explore_stops (h : Searching g start queue marked reached)
    (hordered : g.InOrder start queue reached) (herror : g.explore queue marked reached = .error e) :
    ∃ m missing queue marked reached, e = .missingModule missing (some m.id) ∧
      Searching g start (m :: queue) marked reached ∧ g.InOrder start (m :: queue) reached ∧
        (g.dangling m).head? = some missing := by
  fun_induction explore g queue marked reached with
  | case1 marked reached => cases herror
  | case2 marked reached m rest missing others hdangling =>
    cases herror
    exact ⟨m, missing, rest, marked, reached, rfl, h, hordered, by rw [hdangling]; rfl⟩
  | case3 marked reached m rest hdangling ih =>
    exact ih (h.step hdangling) (hordered.step h) herror

theorem InOrder.isPrefix_or_isPrefix (h : g.InOrder start queue reached) (n : Nat) :
    g.within start n <+: reached ++ queue ∨ reached ++ queue <+: g.within start n := by
  induction n with
  | zero =>
    rw [h]
    exact .inl (singleton_isPrefix_discover g start reached)
  | succ n ih =>
    have hreached : g.within start n <+: reached ∨ reached <+: g.within start n := by
      rcases ih with hwithin | hwithin
      · exact List.prefix_or_prefix_of_prefix hwithin (List.prefix_append reached queue)
      · exact .inr ((List.prefix_append reached queue).trans hwithin)
    rw [h]
    exact hreached.imp (discover_isPrefix g start) (discover_isPrefix g start)

theorem isPrefix_or_concat_isPrefix (h : near <+: reached ++ m :: queue) :
    near <+: reached ∨ reached ++ [m] <+: near := by
  have hshort : reached ++ [m] <+: reached ++ m :: queue := by
    rw [List.append_cons reached m queue]
    exact List.prefix_append _ _
  rcases List.prefix_or_prefix_of_prefix h hshort with hnear | hnear
  · rcases List.prefix_concat_iff.1 hnear with heq | hreached
    · exact .inr (heq ▸ List.prefix_refl _)
    · exact .inl hreached
  · exact .inr hnear

theorem InOrder.isPrefix_within (hordered : g.InOrder start (m :: queue) reached)
    (h : Searching g start (m :: queue) marked reached) (hm : m ∈ g.within start n) :
    reached ++ [m] <+: g.within start n := by
  have hnot : m ∉ reached := fun hmem =>
    (List.nodup_append.1 h.nodup).2.2 m hmem m List.mem_cons_self rfl
  rcases hordered.isPrefix_or_isPrefix n with hwithin | hwithin
  · exact (isPrefix_or_concat_isPrefix hwithin).resolve_left fun hshort => hnot (hshort.subset hm)
  · rw [List.append_cons] at hwithin
    exact (List.prefix_append _ queue).trans hwithin

theorem lacksFirst_iff : m.LacksFirst g.modules missing ↔ (g.dangling m).head? = some missing := by
  unfold Module.LacksFirst dangling
  rw [List.head?_filter, List.find?_eq_some_iff_append]
  constructor
  · rintro ⟨earlier, later, hdependencies, hknown, hmissing⟩
    refine ⟨by simpa [get?_eq_none_iff] using hmissing, earlier, later, hdependencies, ?_⟩
    intro id hid
    obtain ⟨other, hother, rfl⟩ := hknown id hid
    rw [get?_eq_some_iff.2 ⟨hother, rfl⟩]
    rfl
  · rintro ⟨hmissing, earlier, later, hdependencies, hknown⟩
    refine ⟨earlier, later, hdependencies, ?_, by simpa [get?_eq_none_iff] using hmissing⟩
    intro id hid
    have hsome := hknown id hid
    cases hget : g.get? id with
    | none =>
      rw [hget] at hsome
      cases hsome
    | some other => exact ⟨other, mem_of_get? hget⟩

theorem lacks_of_lacksFirst (h : m.LacksFirst g.modules missing) : m.Lacks g.modules missing := by
  obtain ⟨earlier, later, hdependencies, -, hmissing⟩ := h
  refine ⟨?_, hmissing⟩
  rw [hdependencies]
  simp

theorem reach_of_closure_error (howner : g.owner? entry = some start)
    (h : g.closure entry = .error e) : g.reach start = .error e := by
  unfold closure at h
  rw [howner] at h
  dsimp only at h
  cases hreach : g.reach start with
  | error e' =>
    rw [hreach] at h
    cases h
    rfl
  | ok found =>
    simp only [hreach, bind, Except.bind] at h
    split at h
    all_goals cases h

theorem first_of_closure_error (howner : g.owner? entry = some start)
    (h : g.closure entry = .error (.missingModule missing (some r))) :
    ∃ m n earlier later, m.id = r ∧ AtDistance g.modules start n m ∧
      m.LacksFirst g.modules missing ∧ g.within start n = earlier ++ m :: later ∧
        ∀ other ∈ earlier, ∀ id, ¬ other.Lacks g.modules id := by
  obtain ⟨m, missing', queue, marked, reached, heq, hsearching, hordered, hfirst⟩ :=
    explore_stops (.init (mem_of_owner? howner).1) (inOrder_init g start)
      (reach_of_closure_error howner h)
  cases heq
  obtain ⟨n, hdistance⟩ := exists_atDistance (hsearching.sound m (by simp))
  have hm : m ∈ g.within start n := mem_within_iff.2 ⟨n, Nat.le_refl n, hdistance.reached⟩
  obtain ⟨later, hwithin⟩ := hordered.isPrefix_within hsearching hm
  refine ⟨m, n, reached, later, rfl, hdistance, lacksFirst_iff.2 hfirst, ?_, ?_⟩
  · rw [← hwithin, List.append_cons reached m later]
  · intro other hother id
    rw [← mem_dangling_iff, hsearching.whole other hother]
    exact List.not_mem_nil

theorem mem_of_nearer {earlier later : List Module} (hdistance : AtDistance g.modules start n m)
    (hwithin : g.within start n = earlier ++ m :: later) (hk : k < n)
    (hother : ReachesIn g.modules start k other) : other ∈ earlier := by
  have hnot : m ∉ g.within start k := by
    intro hm
    obtain ⟨j, hj, hreaches⟩ := mem_within_iff.1 hm
    have := hdistance.least j hreaches
    omega
  have hnear := within_isPrefix g start (Nat.le_of_lt hk)
  rw [hwithin] at hnear
  have hearlier : g.within start k <+: earlier :=
    (isPrefix_or_concat_isPrefix hnear).resolve_right fun hlong =>
      hnot (hlong.subset List.mem_concat_self)
  exact hearlier.subset (mem_within_iff.2 ⟨k, Nat.le_refl k, hother⟩)

theorem eq_of_first {p : Module → Prop} {earlier earlier' far : List Module} {m m' : Module}
    (h : earlier ++ [m] <+: far) (h' : earlier' ++ [m'] <+: far) (hm : p m) (hm' : p m')
    (hearlier : ∀ other ∈ earlier, ¬ p other) (hearlier' : ∀ other ∈ earlier', ¬ p other) :
    m = m' := by
  rcases List.prefix_or_prefix_of_prefix h h' with hle | hle
  · rcases List.prefix_concat_iff.1 hle with heq | hshort
    · exact List.singleton_inj.1 (List.append_inj' heq rfl).2
    · exact absurd hm (hearlier' m (hshort.subset List.mem_concat_self))
  · rcases List.prefix_concat_iff.1 hle with heq | hshort
    · exact (List.singleton_inj.1 (List.append_inj' heq rfl).2).symm
    · exact absurd hm' (hearlier m' (hshort.subset List.mem_concat_self))

theorem eq_of_lacksFirst {missing' : AssetId} (h : m.LacksFirst g.modules missing)
    (h' : m.LacksFirst g.modules missing') : missing = missing' :=
  Option.some.inj ((lacksFirst_iff.1 h).symm.trans (lacksFirst_iff.1 h'))

theorem closure_error_of_first {earlier later : List Module} (howner : g.owner? entry = some start)
    (hlacks : m.LacksFirst g.modules missing) (hwithin : g.within start n = earlier ++ m :: later)
    (hwhole : ∀ other ∈ earlier, ∀ id, ¬ other.Lacks g.modules id) :
    g.closure entry = .error (.missingModule missing (some m.id)) := by
  have hm : m ∈ g.within start n := by simp [hwithin]
  obtain ⟨k, -, hreaches⟩ := mem_within_iff.1 hm
  obtain ⟨missing', r, h⟩ := (closure_lacking_iff howner).2
    ⟨m, missing, reaches_iff_exists_reachesIn.2 ⟨k, hreaches⟩, lacks_of_lacksFirst hlacks⟩
  obtain ⟨m', n', earlier', later', rfl, -, hlacks', hwithin', hwhole'⟩ :=
    first_of_closure_error howner h
  -- both modules are the first to lack something in the longer of the two lists
  have hfar : g.within start n <+: g.within start (max n n') :=
    within_isPrefix g start (Nat.le_max_left n n')
  have hfar' : g.within start n' <+: g.within start (max n n') :=
    within_isPrefix g start (Nat.le_max_right n n')
  rw [hwithin, List.append_cons] at hfar
  rw [hwithin', List.append_cons] at hfar'
  have heq : m = m' := eq_of_first (p := fun m => ∃ id, m.Lacks g.modules id)
    ((List.prefix_append _ _).trans hfar) ((List.prefix_append _ _).trans hfar')
    ⟨missing, lacks_of_lacksFirst hlacks⟩ ⟨missing', lacks_of_lacksFirst hlacks'⟩
    (fun other hother => not_exists.2 (hwhole other hother))
    (fun other hother => not_exists.2 (hwhole' other hother))
  subst heq
  rw [h, eq_of_lacksFirst hlacks hlacks']

theorem missing_module_nearest_iff (howner : g.owner? entry = some start) :
    (∀ m, (∀ next, next ∈ g.successors m ↔ next ∈ g.modules ∧ next.id ∈ m.dependencies) ∧
        (g.successors m).Pairwise fun a b =>
          m.dependencies.idxOf b.id < m.dependencies.idxOf a.id) ∧
      (g.closure entry = .error (.missingModule missing (some r)) ↔
        ∃ m n earlier later, m.id = r ∧ AtDistance g.modules start n m ∧
          m.LacksFirst g.modules missing ∧
          (∀ k < n, ∀ other, ReachesIn g.modules start k other → ∀ id, ¬ other.Lacks g.modules id) ∧
          g.within start n = earlier ++ m :: later ∧
          ∀ other ∈ earlier, ∀ id, ¬ other.Lacks g.modules id) := by
  refine ⟨fun m => ⟨fun next => mem_successors_iff, pairwise_successors g m⟩, ?_⟩
  constructor
  · intro h
    obtain ⟨m, n, earlier, later, hid, hdistance, hlacks, hwithin, hwhole⟩ :=
      first_of_closure_error howner h
    refine ⟨m, n, earlier, later, hid, hdistance, hlacks, ?_, hwithin, hwhole⟩
    intro k hk other hother
    exact hwhole other (mem_of_nearer hdistance hwithin hk hother)
  · rintro ⟨m, n, earlier, later, rfl, -, hlacks, -, hwithin, hwhole⟩
    exact closure_error_of_first howner hlacks hwithin hwhole

def torn : ModuleGraph where
  modules := [
    { primarySource := ⟨"a", "s"⟩, dependencies := [⟨"a", "x"⟩, ⟨"a", "y"⟩, ⟨"a", "x"⟩] },
    { primarySource := ⟨"a", "x"⟩, dependencies := [⟨"a", "u"⟩] },
    { primarySource := ⟨"a", "y"⟩,
      dependencies := [⟨"a", "s"⟩, ⟨"a", "z"⟩, ⟨"a", "v"⟩, ⟨"a", "w"⟩] },
    { primarySource := ⟨"a", "z"⟩, dependencies := [⟨"a", "t"⟩] }]
  distinct := by decide

theorem missing_module_nearest_torn :
    torn.owner? ⟨"a", "s"⟩ = some torn.modules[0] ∧
      torn.closure ⟨"a", "s"⟩ = .error (.missingModule ⟨"a", "v"⟩ (some ⟨"a", "y"⟩)) := by
  have howner : torn.owner? ⟨"a", "s"⟩ = some torn.modules[0] := by decide
  have hwhole : ∀ id, ¬ torn.modules[0].Lacks torn.modules id := by
    intro id
    have hnil : torn.dangling torn.modules[0] = [] := by decide
    rw [← mem_dangling_iff, hnil]
    exact List.not_mem_nil
  refine ⟨howner, (missing_module_nearest_iff howner).2.2
    ⟨torn.modules[2], 1, [torn.modules[0]], [torn.modules[1]], rfl, ?_, ?_, ?_, ?_, ?_⟩⟩
  · refine ⟨.dependency .start (by decide) (by decide), ?_⟩
    intro k hk
    refine Nat.pos_of_ne_zero ?_
    rintro rfl
    have hmem := mem_within_iff.2 ⟨0, Nat.le_refl 0, hk⟩
    revert hmem
    decide
  · exact lacksFirst_iff.2 (by decide)
  · intro k hk other hother
    have hmem := mem_within_iff.2 ⟨k, Nat.le_of_lt_succ hk, hother⟩
    rw [within, List.mem_singleton] at hmem
    rw [hmem]
    exact hwhole
  · decide
  · intro other hother
    rw [List.mem_singleton.1 hother]
    exact hwhole

end ModuleGraph

end DartBundle
