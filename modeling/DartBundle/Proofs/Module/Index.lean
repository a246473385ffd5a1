import DartBundle.Module.Index
import DartBundle.Proofs.Module.Nearest
import DartBundle.Proofs.Module.Ownership
import Mathlib.Data.List.Induction
/-!
This module contains what an index of modules holds. The first pass finds the numbers of identities and
sources, or the first identity that is given again; the second draws one edge for each dependency that is
a module and keeps the others as they stand. The answers are those of the graph of the same modules.
-/

namespace DartBundle

theorem Table.lookup_foldl_insertNew {κ ν : Type} [DecidableEq κ] (t : Table κ ν) (keys : List κ)
    (value : ν) (other : κ) :
    (keys.foldl (fun t key => t.insertNew key value) t).lookup other =
      (t.lookup other).or (if other ∈ keys then some value else none) := by
  induction keys generalizing t with
  | nil => simp
  | cons key rest ih =>
    rw [List.foldl_cons, ih, lookup_insertNew, Option.or_assoc]
    by_cases h : other = key <;> simp [h]

theorem flatMap_zipIdx_ite {α β : Type} (as : List α) (number : Nat) (f : α → List β) :
    (as.zipIdx.flatMap fun (a, n) => if n = number then f a else []) =
      (as[number]?.map f).getD [] := by
  induction as using List.reverseRecOn with
  | nil => rfl
  | append_singleton as a ih =>
    rw [List.zipIdx_append, List.flatMap_append, ih, List.getElem?_append]
    rcases Nat.lt_trichotomy number as.length with h | rfl | h
    · have hne : as.length ≠ number := by omega
      simp [h, hne]
    · simp
    · have hne : as.length ≠ number := by omega
      have hlast : ¬ number < as.length := by omega
      have hbehind : number - as.length ≠ 0 := by omega
      simp [hne, hlast, hbehind]

namespace ModuleIndex

variable {ix : ModuleIndex} {modules before after : List Module} {m : Module} {id source : AssetId}
  {i j : Nat} {e : Error}

structure Entered (ix : ModuleIndex) (modules : List Module) : Prop where
  modules_eq : ix.modules = modules
  distinct : (modules.map Module.id).Nodup
  numbers : ∀ id, ix.numbers.lookup id = modules.findIdx? fun m => decide (m.id = id)
  owners : ∀ source, ix.owners.lookup source =
    modules.findIdx? fun m => decide (source ∈ m.allSources)

namespace Entered

theorem empty : Entered {} [] where
  modules_eq := rfl
  distinct := by simp
  numbers := by simp
  owners := by simp

theorem contains_iff (h : ix.Entered modules) :
    ix.numbers.contains id = true ↔ id ∈ modules.map Module.id := by
  rw [Table.contains, h.numbers, List.findIdx?_isSome, List.any_eq_true, List.mem_map]
  simp only [decide_eq_true_eq]

theorem add_new (h : ix.Entered modules) (new : m.id ∉ modules.map Module.id) :
    ∃ ix', ix.add m = .ok ix' ∧ ix'.Entered (modules ++ [m]) := by
  have hnot : ¬ ix.numbers.contains m.id = true := by rwa [h.contains_iff]
  unfold add
  rw [if_neg hnot]
  refine ⟨_, rfl, ?_⟩
  constructor
  case modules_eq => rw [h.modules_eq]
  case distinct =>
    rw [List.map_append, List.map_singleton, ← List.concat_eq_append, List.nodup_concat]
    exact ⟨new, h.distinct⟩
  case numbers =>
    intro id
    rw [Table.lookup_insert, h.numbers, h.modules_eq, List.findIdx?_append]
    by_cases hid : id = m.id
    · subst hid
      have hnone : modules.findIdx? (fun other => decide (other.id = m.id)) = none := by
        rw [List.findIdx?_eq_none_iff]
        intro other hother
        rw [decide_eq_false_iff_not]
        exact fun heq => new (heq ▸ List.mem_map_of_mem hother)
      simp [hnone]
    · simp [hid, Ne.symm hid]
  case owners =>
    intro source
    rw [Table.lookup_foldl_insertNew, h.owners, h.modules_eq, List.findIdx?_append]
    by_cases hsource : source ∈ m.allSources <;> simp [hsource]

theorem add_known (h : ix.Entered modules) (known : m.id ∈ modules.map Module.id) :
    ix.add m = .error (.moduleGraph (.duplicate m.id)) := by
  unfold add
  rw [if_pos (h.contains_iff.2 known)]

theorem foldlM_add (h : ix.Entered before)
    (distinct : ((before ++ modules).map Module.id).Nodup) :
    ∃ ix', modules.foldlM add ix = .ok ix' ∧ ix'.Entered (before ++ modules) := by
  induction modules generalizing ix before with
  | nil => exact ⟨ix, rfl, by simpa using h⟩
  | cons m rest ih =>
    rw [List.append_cons] at distinct ⊢
    have new : m.id ∉ before.map Module.id := by
      have hfirst := distinct
      rw [List.map_append, List.nodup_append, List.map_append, List.map_singleton,
        ← List.concat_eq_append, List.nodup_concat] at hfirst
      exact hfirst.1.1
    obtain ⟨next, hnext, hentered⟩ := h.add_new new
    obtain ⟨last, hlast, hall⟩ := ih hentered distinct
    refine ⟨last, ?_, hall⟩
    rw [List.foldlM_cons, hnext]
    exact hlast

theorem of_distinct (distinct : (modules.map Module.id).Nodup) :
    ∃ ix, modules.foldlM add {} = .ok ix ∧ ix.Entered modules :=
  empty.foldlM_add distinct

end Entered

theorem exists_first_known (h : ¬ (modules.map Module.id).Nodup) :
    ∃ before m after, modules = before ++ m :: after ∧ (before.map Module.id).Nodup ∧
      m.id ∈ before.map Module.id := by
  induction modules using List.reverseRecOn with
  | nil => simp at h
  | append_singleton earlier last ih =>
    by_cases hearlier : (earlier.map Module.id).Nodup
    · refine ⟨earlier, last, [], rfl, hearlier, ?_⟩
      by_contra hlast
      apply h
      rw [List.map_append, List.map_singleton, ← List.concat_eq_append, List.nodup_concat]
      exact ⟨hlast, hearlier⟩
    · obtain ⟨before, m, after, rfl, hbefore, hm⟩ := ih hearlier
      exact ⟨before, m, after ++ [last], by simp, hbefore, hm⟩

theorem ofModules_of_known (hmodules : modules = before ++ m :: after)
    (distinct : (before.map Module.id).Nodup) (known : m.id ∈ before.map Module.id) :
    ofModules modules = .error (.moduleGraph (.duplicate m.id)) := by
  obtain ⟨ix, hix, hentered⟩ := Entered.of_distinct distinct
  unfold ofModules
  rw [hmodules, List.foldlM_append, hix]
  change (((ix.add m) >>= fun ix => after.foldlM add ix).map connect) = _
  rw [hentered.add_known known]
  rfl

theorem foldl_draw (named : List (Nat × Nat)) :
    named.foldl draw [] = (firstOccurrences named).reverse := by
  induction named using List.reverseRecOn with
  | nil => rfl
  | append_singleton named edge ih =>
    rw [List.foldl_append, ih, firstOccurrences_append]
    unfold draw
    by_cases h : edge ∈ named <;> simp [h, firstOccurrences, mem_firstOccurrences]

namespace Connections

variable {numbers : Table AssetId Nat} {number other : Nat} {found : Connections}

theorem named_note (ids : List AssetId) :
    (ids.foldl (note numbers number) found).named =
      found.named ++ ids.filterMap fun id => (numbers.lookup id).map (number, ·) := by
  induction ids generalizing found with
  | nil => simp
  | cons id rest ih =>
    rw [List.foldl_cons, ih]
    unfold note
    cases hid : numbers.lookup id <;> simp [hid]

theorem lacking_note (ids : List AssetId) :
    ((ids.foldl (note numbers number) found).lacking.lookup other).getD [] =
      (found.lacking.lookup other).getD [] ++
        if number = other then ids.filter fun id => (numbers.lookup id).isNone else [] := by
  induction ids generalizing found with
  | nil => simp
  | cons id rest ih =>
    rw [List.foldl_cons, ih]
    unfold note
    cases hid : numbers.lookup id with
    | some next => simp [hid]
    | none =>
      by_cases h : number = other
      · subst h
        simp [hid]
      · simp [h, Ne.symm h, Table.lookup_insert]

end Connections

theorem named_connections (ix : ModuleIndex) :
    ix.connections.named = ix.modules.zipIdx.flatMap fun (m, number) =>
      m.dependencies.filterMap fun id => (ix.numbers.lookup id).map (number, ·) := by
  unfold connections
  induction ix.modules.zipIdx using List.reverseRecOn with
  | nil => rfl
  | append_singleton numbered entry ih =>
    rw [List.foldl_append, List.flatMap_append, ← ih]
    simp [Connections.named_note]

theorem lacking_connections (ix : ModuleIndex) (number : Nat) :
    (ix.connections.lacking.lookup number).getD [] =
      (ix.modules[number]?.map fun m =>
        m.dependencies.filter fun id => (ix.numbers.lookup id).isNone).getD [] := by
  rw [← flatMap_zipIdx_ite]
  unfold connections
  induction ix.modules.zipIdx using List.reverseRecOn with
  | nil => rfl
  | append_singleton numbered entry ih =>
    rw [List.foldl_append, List.flatMap_append, ← ih]
    simp [Connections.lacking_note]

theorem nodup_edges_connect (ix : ModuleIndex) : ix.connect.edges.Nodup := by
  unfold connect
  rw [foldl_draw]
  exact List.nodup_reverse.2 (nodup_firstOccurrences _)

theorem mem_neighbours : j ∈ ix.neighbours i ↔ (i, j) ∈ ix.edges := by
  simp [neighbours]

theorem neighbours_connect (ix : ModuleIndex) (number : Nat) :
    ix.connect.neighbours number =
      (firstOccurrences ((ix.modules[number]?.map fun m =>
        m.dependencies.filterMap ix.numbers.lookup).getD [])).reverse := by
  -- of the edges that a module has been found to need, only its own number is where they start
  have hfrom : ∀ entry : Module × Nat,
      ((entry.1.dependencies.filterMap fun id => (ix.numbers.lookup id).map (entry.2, ·)).filterMap
        fun edge => if edge.1 = number then some edge.2 else none) =
      if entry.2 = number then entry.1.dependencies.filterMap ix.numbers.lookup else [] := by
    intro entry
    rw [List.filterMap_filterMap]
    split
    · next h =>
      apply List.filterMap_congr
      intro id _
      cases ix.numbers.lookup id <;> simp [h]
    · next h =>
      rw [List.filterMap_eq_nil_iff]
      intro id _
      cases ix.numbers.lookup id <;> simp [h]
  -- an edge from a known number is told by where it ends
  have hinj : ∀ (edge edge' : Nat × Nat) (next : Nat),
      (if edge.1 = number then some edge.2 else none) = some next →
      (if edge'.1 = number then some edge'.2 else none) = some next → edge = edge' := by
    intro edge edge' next h h'
    simp only [Option.ite_none_right_eq_some, Option.some.injEq] at h h'
    exact Prod.ext (h.1.trans h'.1.symm) (h.2.trans h'.2.symm)
  unfold neighbours connect
  rw [foldl_draw, List.filterMap_reverse, ← firstOccurrences_filterMap hinj, named_connections,
    List.filterMap_flatMap, ← flatMap_zipIdx_ite]
  simp only [hfrom]

structure Represents (ix : ModuleIndex) (modules : List Module) : Prop extends
    ix.Entered modules where
  nodup_edges : ix.edges.Nodup
  neighbours_eq : ∀ number, ix.neighbours number =
    (firstOccurrences ((modules[number]?.map fun m =>
      m.dependencies.filterMap ix.numbers.lookup).getD [])).reverse
  lackedBy_eq : ∀ number, ix.lackedBy number =
    (modules[number]?.map fun m =>
      m.dependencies.filter fun id => (ix.numbers.lookup id).isNone).getD []

theorem Entered.connect (h : ix.Entered modules) : ix.connect.Represents modules where
  modules_eq := h.modules_eq
  distinct := h.distinct
  numbers := h.numbers
  owners := h.owners
  nodup_edges := nodup_edges_connect ix
  neighbours_eq number := h.modules_eq ▸ neighbours_connect ix number
  lackedBy_eq number := h.modules_eq ▸ lacking_connections ix number

theorem represents_of_distinct (distinct : (modules.map Module.id).Nodup) :
    ∃ ix, ofModules modules = .ok ix ∧ ix.Represents modules := by
  obtain ⟨ix, hix, hentered⟩ := Entered.of_distinct distinct
  refine ⟨ix.connect, ?_, hentered.connect⟩
  unfold ofModules
  rw [hix]
  rfl

theorem exists_ofModules_error_iff :
    (∃ e, ofModules modules = .error e) ↔ ¬ (modules.map Module.id).Nodup := by
  constructor
  · rintro ⟨e, he⟩ distinct
    obtain ⟨ix, hix, -⟩ := represents_of_distinct distinct
    rw [he] at hix
    cases hix
  · intro twice
    obtain ⟨before, m, after, hmodules, hbefore, hm⟩ := exists_first_known twice
    exact ⟨_, ofModules_of_known hmodules hbefore hm⟩

theorem ofModules_eq_error_iff :
    ofModules modules = .error e ↔
      ∃ before m after, modules = before ++ m :: after ∧ (before.map Module.id).Nodup ∧
        m.id ∈ before.map Module.id ∧ e = .moduleGraph (.duplicate m.id) := by
  constructor
  · intro h
    obtain ⟨before, m, after, hmodules, hbefore, hm⟩ :=
      exists_first_known (exists_ofModules_error_iff.1 ⟨e, h⟩)
    rw [ofModules_of_known hmodules hbefore hm] at h
    cases h
    exact ⟨before, m, after, hmodules, hbefore, hm, rfl⟩
  · rintro ⟨before, m, after, hmodules, hbefore, hm, rfl⟩
    exact ofModules_of_known hmodules hbefore hm

theorem represents_of_ofModules (h : ofModules modules = .ok ix) : ix.Represents modules := by
  have distinct : (modules.map Module.id).Nodup := by
    by_contra twice
    obtain ⟨e, he⟩ := exists_ofModules_error_iff.2 twice
    rw [h] at he
    cases he
  obtain ⟨ix', hix', hrepresents⟩ := represents_of_distinct distinct
  rw [h] at hix'
  cases hix'
  exact hrepresents

def listed (ix : ModuleIndex) (numbers : List Nat) : List Module :=
  numbers.filterMap (ix.modules[·]?)

namespace Entered

theorem get?_eq (h : ix.Entered modules) :
    ix.get? id = modules.find? fun m => decide (m.id = id) := by
  unfold get?
  rw [h.numbers, h.modules_eq, List.find?_eq_bind_findIdx?_getElem?]

theorem owner?_eq (h : ix.Entered modules) :
    ix.owner? source = modules.find? fun m => decide (source ∈ m.allSources) := by
  unfold owner?
  rw [h.owners, h.modules_eq, List.find?_eq_bind_findIdx?_getElem?]

theorem lt_size_of_numbers (h : ix.Entered modules) (hid : ix.numbers.lookup id = some i) :
    i < ix.size := by
  rw [h.numbers, List.findIdx?_eq_some_iff_getElem, ← h.modules_eq] at hid
  exact hid.1

theorem lt_size_of_owners (h : ix.Entered modules) (hsource : ix.owners.lookup source = some i) :
    i < ix.size := by
  rw [h.owners, List.findIdx?_eq_some_iff_getElem, ← h.modules_eq] at hsource
  exact hsource.1

theorem lookup_numbers_iff (h : ix.Entered modules) :
    ix.numbers.lookup id = some i ↔ ∃ m, modules[i]? = some m ∧ m.id = id := by
  rw [h.numbers, List.findIdx?_eq_some_iff_getElem]
  simp only [decide_eq_true_eq]
  constructor
  · rintro ⟨hi, hid, -⟩
    exact ⟨modules[i], List.getElem?_eq_getElem hi, hid⟩
  · rintro ⟨m, hm, hid⟩
    obtain ⟨hi, rfl⟩ := List.getElem?_eq_some_iff.1 hm
    refine ⟨hi, hid, ?_⟩
    intro k hk hsame
    have hplace : (modules.map Module.id)[k]? = (modules.map Module.id)[i]? := by
      simpa [hi, Nat.lt_trans hk hi] using hsame.trans hid.symm
    have := (List.getElem?_inj (by simpa using Nat.lt_trans hk hi) h.distinct).1 hplace
    omega

theorem lookup_numbers_eq_none_iff (h : ix.Entered modules) :
    ix.numbers.lookup id = none ↔ id ∉ modules.map Module.id := by
  rw [← h.contains_iff, Table.contains, Bool.not_eq_true, Option.isSome_eq_false_iff,
    Option.isNone_iff_eq_none]

end Entered

namespace Represents

theorem mem_neighbours_iff (h : ix.Represents modules) :
    j ∈ ix.neighbours i ↔
      ∃ a b, modules[i]? = some a ∧ modules[j]? = some b ∧ b.id ∈ a.dependencies := by
  rw [h.neighbours_eq, List.mem_reverse, mem_firstOccurrences]
  cases ha : modules[i]? with
  | none => simp
  | some a =>
    simp only [Option.map_some, Option.getD_some, List.mem_filterMap, h.lookup_numbers_iff,
      Option.some.injEq]
    constructor
    · rintro ⟨id, hid, b, hb, rfl⟩
      exact ⟨a, b, rfl, hb, hid⟩
    · rintro ⟨a, b, rfl, hb, hid⟩
      exact ⟨b.id, hid, b, hb, rfl⟩

theorem lt_size_of_mem_neighbours (h : ix.Represents modules) (hj : j ∈ ix.neighbours i) :
    j < ix.size := by
  obtain ⟨a, b, -, hb, -⟩ := h.mem_neighbours_iff.1 hj
  rw [← h.modules_eq] at hb
  exact (List.getElem?_eq_some_iff.1 hb).1

theorem nodup_neighbours (h : ix.Represents modules) (number : Nat) :
    (ix.neighbours number).Nodup := by
  rw [h.neighbours_eq]
  exact List.nodup_reverse.2 (nodup_firstOccurrences _)

theorem lackedBy_of_getElem? (h : ix.Represents modules) (hm : modules[i]? = some m) :
    ix.lackedBy i = m.dependencies.filter fun id => decide (id ∉ modules.map Module.id) := by
  rw [h.lackedBy_eq, hm]
  apply List.filter_congr
  intro id _
  rw [Bool.eq_iff_iff, Option.isNone_iff_eq_none, h.lookup_numbers_eq_none_iff, decide_eq_true_eq]

theorem listed_neighbours (h : ix.Represents modules) (hm : modules[i]? = some m) :
    ix.listed (ix.neighbours i) =
      ((firstOccurrences m.dependencies).filterMap ix.get?).reverse := by
  have inj : ∀ id id' number, ix.numbers.lookup id = some number →
      ix.numbers.lookup id' = some number → id = id' := by
    intro id id' number hid hid'
    obtain ⟨m, hm, rfl⟩ := h.lookup_numbers_iff.1 hid
    obtain ⟨m', hm', rfl⟩ := h.lookup_numbers_iff.1 hid'
    rw [hm] at hm'
    cases hm'
    rfl
  rw [h.neighbours_eq, hm]
  unfold listed
  rw [List.filterMap_reverse, Option.map_some, Option.getD_some, firstOccurrences_filterMap inj,
    List.filterMap_filterMap]
  rfl

end Represents

structure Answers (ix : ModuleIndex) (g : ModuleGraph) : Prop where
  modules : ix.modules = g.modules
  get? : ∀ id, ix.get? id = g.get? id
  owner? : ∀ source, ix.owner? source = g.owner? source
  neighbours : ∀ number m, g.modules[number]? = some m →
    ix.listed (ix.neighbours number) = g.successors m
  lackedBy : ∀ number m, g.modules[number]? = some m → ix.lackedBy number = g.dangling m

theorem Represents.answers (h : ix.Represents modules) :
    ∃ g, ModuleGraph.ofModules modules = .ok g ∧ ix.Answers g := by
  have hget : ∀ id, ix.get? id = ModuleGraph.get? ⟨modules, h.distinct⟩ id := fun id => h.get?_eq
  refine ⟨⟨modules, h.distinct⟩, ModuleGraph.ofModules_eq_ok h.distinct, ?_⟩
  constructor
  case modules => exact h.modules_eq
  case get? => exact hget
  case owner? => exact fun source => h.owner?_eq
  case neighbours =>
    intro number m hm
    rw [h.listed_neighbours hm, funext hget]
    rfl
  case lackedBy =>
    intro number m hm
    rw [h.lackedBy_of_getElem? hm]
    unfold ModuleGraph.dangling
    apply List.filter_congr
    intro id _
    rw [Bool.eq_iff_iff, Option.isNone_iff_eq_none, ModuleGraph.get?_eq_none_iff, decide_eq_true_eq]
    simp

end ModuleIndex

namespace ModuleGraph

variable {modules before after : List Module} {m : Module} {earlier : List AssetId}

theorem firstDuplicate?_of_known (hmodules : modules = before ++ m :: after)
    (distinct : (before.map Module.id).Nodup) (new : ∀ id ∈ earlier, id ∉ before.map Module.id)
    (known : m.id ∈ earlier ∨ m.id ∈ before.map Module.id) :
    firstDuplicate? earlier modules = some m.id := by
  induction before generalizing earlier modules with
  | nil =>
    subst hmodules
    have hearlier : m.id ∈ earlier := by simpa using known
    simp [firstDuplicate?, hearlier]
  | cons first rest ih =>
    subst hmodules
    rw [List.map_cons, List.nodup_cons] at distinct
    have hfirst : first.id ∉ earlier := fun hearlier => new first.id hearlier (by simp)
    rw [List.cons_append, firstDuplicate?, if_neg hfirst]
    apply ih rfl distinct.2
    · intro id hid hrest
      rcases List.mem_cons.1 hid with rfl | hid
      · exact distinct.1 hrest
      · exact new id hid (List.mem_cons_of_mem _ hrest)
    · rw [List.map_cons, List.mem_cons] at known
      rw [List.mem_cons]
      tauto

theorem ofModules_of_known (hmodules : modules = before ++ m :: after)
    (distinct : (before.map Module.id).Nodup) (known : m.id ∈ before.map Module.id) :
    ofModules modules = .error (.moduleGraph (.duplicate m.id)) := by
  have hfirst : firstDuplicate? [] modules = some m.id :=
    firstDuplicate?_of_known hmodules distinct (by simp) (.inr known)
  unfold ofModules
  split
  · next id h =>
    rw [hfirst] at h
    cases h
    rfl
  · next h =>
    rw [hfirst] at h
    cases h

end ModuleGraph

namespace ModuleIndex

variable {ix : ModuleIndex} {modules : List Module} {m : Module} {source : AssetId} {e : Error}

theorem ofModules_error_iff_graph :
    ofModules modules = .error e ↔ ModuleGraph.ofModules modules = .error e := by
  by_cases distinct : (modules.map Module.id).Nodup
  · obtain ⟨ix, hix, -⟩ := represents_of_distinct distinct
    rw [hix, ModuleGraph.ofModules_eq_ok distinct]
    simp
  · obtain ⟨before, m, after, hmodules, hbefore, hm⟩ := exists_first_known distinct
    rw [ofModules_of_known hmodules hbefore hm, ModuleGraph.ofModules_of_known hmodules hbefore hm]
    simp

theorem Entered.owner?_eq_some_iff (h : ix.Entered modules) :
    ix.owner? source = some m ↔ ∃ before after, modules = before ++ m :: after ∧
      (source = m.primarySource ∨ source ∈ m.sources) ∧
        ∀ other ∈ before, source ≠ other.primarySource ∧ source ∉ other.sources := by
  rw [h.owner?_eq, List.find?_eq_some_iff_append]
  simp only [decide_eq_true_eq, Bool.not_eq_true', decide_eq_false_iff_not, Module.mem_allSources,
    not_or]
  constructor
  · rintro ⟨hsource, before, after, hmodules, hbefore⟩
    exact ⟨before, after, hmodules, hsource, hbefore⟩
  · rintro ⟨before, after, hmodules, hsource, hbefore⟩
    exact ⟨hsource, before, after, hmodules, hbefore⟩

theorem Entered.get?_eq_some_iff (h : ix.Entered modules) {id : AssetId} :
    ix.get? id = some m ↔ m ∈ modules ∧ m.primarySource = id := by
  rw [h.get?_eq]
  exact ModuleGraph.get?_eq_some_iff (g := ⟨modules, h.distinct⟩)

theorem index_represents_modules (modules : List Module) :
    ((∃ e, ofModules modules = .error e) ↔ ¬ (modules.map Module.primarySource).Nodup) ∧
      (∀ e, ofModules modules = .error e ↔ ∃ before m after, modules = before ++ m :: after ∧
        (before.map Module.primarySource).Nodup ∧
        m.primarySource ∈ before.map Module.primarySource ∧
        e = .moduleGraph (.duplicate m.primarySource)) ∧
      (∀ e, ofModules modules = .error e ↔ ModuleGraph.ofModules modules = .error e) ∧
      ∀ ix, ofModules modules = .ok ix →
        ix.modules = modules ∧ ix.size = modules.length ∧
          (∀ id i, ix.numbers.lookup id = some i → i < ix.size) ∧
          (∀ source i, ix.owners.lookup source = some i → i < ix.size) ∧
          (∀ id m, ix.get? id = some m ↔ m ∈ modules ∧ m.primarySource = id) ∧
          (∀ source m, ix.owner? source = some m ↔
            ∃ before after, modules = before ++ m :: after ∧
              (source = m.primarySource ∨ source ∈ m.sources) ∧
              ∀ other ∈ before, source ≠ other.primarySource ∧ source ∉ other.sources) ∧
          ix.edges.Nodup ∧
          (∀ i j, (i, j) ∈ ix.edges ↔ ∃ a b, modules[i]? = some a ∧ modules[j]? = some b ∧
            b.primarySource ∈ a.dependencies) ∧
          (∀ i a, modules[i]? = some a → ix.lackedBy i =
            a.dependencies.filter fun id => decide (id ∉ modules.map Module.primarySource)) ∧
          ∃ g, ModuleGraph.ofModules modules = .ok g ∧ ix.Answers g := by
  refine ⟨exists_ofModules_error_iff, fun e => ofModules_eq_error_iff,
    fun e => ofModules_error_iff_graph, ?_⟩
  intro ix hix
  have h := represents_of_ofModules hix
  refine ⟨h.modules_eq, congrArg List.length h.modules_eq, fun id i => h.lt_size_of_numbers,
    fun source i => h.lt_size_of_owners, fun id m => h.get?_eq_some_iff,
    fun source m => h.owner?_eq_some_iff, h.nodup_edges, ?_, ?_, h.answers⟩
  · intro i j
    rw [← mem_neighbours]
    exact h.mem_neighbours_iff
  · intro i a ha
    exact h.lackedBy_of_getElem? ha

def tangled : List Module := [
  { primarySource := ⟨"a", "lib/x"⟩, sources := [⟨"a", "lib/y"⟩, ⟨"a", "lib/y"⟩],
    dependencies := [⟨"a", "lib/y"⟩, ⟨"b", "lib/u"⟩, ⟨"a", "lib/x"⟩, ⟨"a", "lib/y"⟩, ⟨"b", "lib/u"⟩] },
  { primarySource := ⟨"a", "lib/y"⟩, sources := [⟨"a", "lib/x"⟩],
    dependencies := [⟨"a", "lib/x"⟩, ⟨"a", "lib/y"⟩] }]

theorem index_represents_tangled :
    ofModules (tangled ++ tangled) = .error (.moduleGraph (.duplicate ⟨"a", "lib/x"⟩)) ∧
      ∃ ix, ofModules tangled = .ok ix ∧ ix.get? ⟨"a", "lib/y"⟩ = some tangled[1] ∧
        ix.owner? ⟨"a", "lib/y"⟩ = some tangled[0] ∧ (0, 1) ∈ ix.edges ∧ (1, 1) ∈ ix.edges ∧
          ix.lackedBy 0 = [⟨"b", "lib/u"⟩, ⟨"b", "lib/u"⟩] := by
  constructor
  · refine ((index_represents_modules (tangled ++ tangled)).2.1 _).2
      ⟨tangled, tangled[0], [tangled[1]], rfl, by decide, by decide, rfl⟩
  · have distinct : (tangled.map Module.id).Nodup := by decide
    obtain ⟨ix, hix, -⟩ := represents_of_distinct distinct
    obtain ⟨-, -, -, hrepresents⟩ := index_represents_modules tangled
    obtain ⟨-, -, -, -, hget, howner, -, hedges, hlacked, -⟩ := hrepresents ix hix
    refine ⟨ix, hix, (hget _ _).2 ⟨by decide, rfl⟩,
      (howner _ _).2 ⟨[], [tangled[1]], rfl, by decide, by simp⟩,
      (hedges 0 1).2 ⟨tangled[0], tangled[1], rfl, rfl, by decide⟩,
      (hedges 1 1).2 ⟨tangled[1], tangled[1], rfl, rfl, by decide⟩, ?_⟩
    rw [hlacked 0 tangled[0] rfl]
    decide

end ModuleIndex

end DartBundle
