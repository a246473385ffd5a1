import DartBundle.Proofs.FileTree.Lexical
/-!
This module contains the shortest texts for paths from the root on. Such a path spells out the names on its
way, the paths above it are those of the locations above, and joining a name to it gives the next one.
-/

namespace DartBundle

namespace FileTree

variable {t : FileTree} {l d : Location} {name path q base : String}

def Named (l : Location) : Prop :=
  ∀ name ∈ l, Path.IsName name

theorem named_cons : Named (name :: l) ↔ Path.IsName name ∧ Named l :=
  List.forall_mem_cons

theorem Named.of_suffix (h : Named l) (hsuffix : d <:+ l) : Named d :=
  fun name hmem => h name (hsuffix.subset hmem)

theorem Named.slash_not_mem (h : Named l) : ∀ piece ∈ l.reverse.map String.toList, '/' ∉ piece := by
  intro piece hpiece
  obtain ⟨name, hname, rfl⟩ := List.mem_map.1 hpiece
  exact (h name (List.mem_reverse.1 hname)).separate

theorem toList_pathText (l : Location) :
    (pathText l).toList = '/' :: ['/'].intercalate (l.reverse.map String.toList) := by
  unfold pathText
  rw [String.toList_append, String.toList_intercalate]
  rfl

theorem split_pathText (h : Named l) (hl : l ≠ []) :
    List.splitOn '/' (pathText l).toList = [] :: l.reverse.map String.toList := by
  have hne : l.reverse.map String.toList ≠ [] := by simpa using hl
  rw [toList_pathText]
  rw [List.splitOn_cons_eq_if_modifyHead, if_pos (beq_self_eq_true _), List.splitOn_intercalate _ h.slash_not_mem hne]

theorem pathText_cons (name : String) (hl : l ≠ []) :
    pathText (name :: l) = pathText l ++ "/" ++ name := by
  have hne : l.reverse.map String.toList ≠ [] := by simpa using hl
  rw [← String.toList_inj, toList_pathText, List.reverse_cons, List.map_append, List.map_cons,
    List.map_nil, Text.intercalate_append '/' hne (List.cons_ne_nil _ _), String.toList_append,
    String.toList_append, toList_pathText]
  simp

theorem pathText_singleton (name : String) : pathText [name] = "/" ++ name := by
  rw [← String.toList_inj, toList_pathText]
  simp

theorem isAbsolute_pathText (l : Location) : Path.isAbsolute (pathText l) = true := by
  unfold Path.isAbsolute
  rw [toList_pathText]
  rfl

theorem isEmpty_pathText (l : Location) : (pathText l).isEmpty = false :=
  Path.isEmpty_of_isAbsolute (isAbsolute_pathText l)

theorem toList_ne_nil (h : Path.IsName name) : name.toList ≠ [] := by
  rw [Ne, String.toList_eq_nil_iff]
  exact h.nonempty

theorem steps_pathText (h : Named l) : Path.steps (pathText l) = l.reverse := by
  cases l with
  | nil => rfl
  | cons name above =>
    unfold Path.steps
    rw [split_pathText h (List.cons_ne_nil _ _)]
    have hfilter : (((name :: above).reverse.map String.toList).filter fun piece => !piece.isEmpty) =
        (name :: above).reverse.map String.toList := by
      rw [List.filter_eq_self]
      intro piece hpiece
      obtain ⟨other, hother, rfl⟩ := List.mem_map.1 hpiece
      have := toList_ne_nil (h other (List.mem_reverse.1 hother))
      simpa using this
    rw [List.filter_cons_of_neg (by simp), hfilter, List.map_map]
    have hid : String.ofList ∘ String.toList = id := funext fun text => String.ofList_toList
    rw [hid, List.map_id]

theorem foldl_reverse (h : Named l) (here : Location) : l.reverse.foldl stepFrom here = l ++ here := by
  induction l with
  | nil => rfl
  | cons name above ih =>
    obtain ⟨hname, habove⟩ := named_cons.1 h
    rw [List.reverse_cons, List.foldl_append, ih habove, List.foldl_cons, List.foldl_nil]
    exact stepFrom_of_ne hname.ne_here hname.ne_up

theorem place_pathText (h : Named l) : Path.place (pathText l) = l := by
  unfold Path.place
  rw [steps_pathText h, foldl_reverse h, List.append_nil]

theorem locate_pathText (t : FileTree) (h : Named l) : t.locate (pathText l) = l := by
  rw [Path.locate_eq_place (isAbsolute_pathText l), place_pathText h]

theorem namesDirectory_pathText (h : Named l) (hl : l ≠ []) :
    Path.namesDirectory (pathText l) = false := by
  cases l with
  | nil => exact absurd rfl hl
  | cons name above =>
    apply Path.namesDirectory_of_getLast? _ (toList_ne_nil (named_cons.1 h).1)
    rw [split_pathText h hl]
    simp [List.getLast?_cons]

theorem isIdle_name (h : Path.IsName name) : Path.isIdle name.toList = false := by
  unfold Path.isIdle
  rw [Bool.or_eq_false_iff, List.isEmpty_eq_false_iff, decide_eq_false_iff_not]
  refine ⟨toList_ne_nil h, fun hdot => h.ne_here ?_⟩
  rw [← String.toList_inj, hdot]
  rfl

theorem above_names (h : Named l) :
    Path.above ['/'] (l.map String.toList) = Path.parents (pathText l) := by
  unfold Path.parents
  rw [toList_pathText]
  cases l with
  | nil => rfl
  | cons name above =>
    have hne : (name :: above).reverse.map String.toList ≠ [] := by simp
    change _ = Path.above ['/'] (List.splitOn '/' (['/'].intercalate
      ((name :: above).reverse.map String.toList))).reverse
    rw [List.splitOn_intercalate _ h.slash_not_mem hne, ← List.map_reverse, List.reverse_reverse]

theorem parents_pathText (h : Named (name :: l)) :
    Path.parents (pathText (name :: l)) = pathText l :: Path.parents (pathText l) := by
  obtain ⟨hname, hl⟩ := named_cons.1 h
  have hkept : (l.map String.toList).dropWhile Path.isIdle = l.map String.toList := by
    cases l with
    | nil => rfl
    | cons next above =>
      rw [List.map_cons, List.dropWhile_cons_of_neg]
      rw [isIdle_name (named_cons.1 hl).1]
      exact Bool.false_ne_true
  rw [← above_names h, ← above_names hl, List.map_cons]
  conv => lhs; unfold Path.above
  rw [isIdle_name hname, if_neg Bool.false_ne_true, hkept, ← List.map_reverse]
  congr 1
  rw [← String.toList_inj, toList_pathText, String.toList_ofList]
  rfl

theorem ancestors_pathText (h : Named (name :: l)) :
    Path.ancestors (pathText (name :: l)) = pathText l :: Path.parents (pathText l) := by
  unfold Path.ancestors Path.parent?
  rw [parents_pathText h]
  rfl

theorem exists_of_mem_parents_pathText (h : Named l) (hq : q ∈ Path.parents (pathText l)) :
    ∃ above, above <:+ l ∧ q = pathText above := by
  induction l with
  | nil => cases hq
  | cons name above ih =>
    rw [parents_pathText h] at hq
    rcases List.mem_cons.1 hq with rfl | hmem
    · exact ⟨above, List.suffix_cons name above, rfl⟩
    · obtain ⟨other, hsuffix, hother⟩ := ih (named_cons.1 h).2 hmem
      exact ⟨other, hsuffix.trans (List.suffix_cons name above), hother⟩

theorem suffix_of_leads (h : Named (name :: d)) (hl : t.Leads (Path.ancestors (pathText (name :: d))) l) :
    l <:+ d := by
  obtain ⟨q, hmem, -, rfl⟩ := hl
  obtain ⟨-, hd⟩ := named_cons.1 h
  rw [ancestors_pathText h] at hmem
  rcases List.mem_cons.1 hmem with rfl | hmem
  · simp only [locate_pathText t hd, List.suffix_refl]
  · obtain ⟨above, hsuffix, rfl⟩ := exists_of_mem_parents_pathText hd hmem
    rw [locate_pathText t (hd.of_suffix hsuffix)]
    exact hsuffix

theorem join_pathText (h : Named l) (hname : '/' ∉ name.toList) :
    Path.join (pathText l) name = pathText (name :: l) := by
  unfold Path.join
  rw [Path.not_isAbsolute hname, isEmpty_pathText]
  simp only [Bool.false_or, Bool.false_eq_true, if_false]
  by_cases hl : l = []
  · subst hl
    rw [pathText_singleton]
    rfl
  · have hfile := namesDirectory_pathText h hl
    unfold Path.namesDirectory at hfile
    rw [hfile, pathText_cons name hl]
    rfl

end FileTree

namespace Path

open FileTree

variable {base relative : String} {l : Location} {segments : List (List Char)}

def Spells (text : String) (l : Location) : Prop :=
  text = pathText l ∨ l ≠ [] ∧ text = pathText l ++ "/"

theorem join_of_spells {text name : String} (h : Spells text l) (named : Named l) (hname : IsName name) :
    join text name = pathText (name :: l) := by
  rcases h with rfl | ⟨hl, rfl⟩
  · exact join_pathText named hname.separate
  · have hslash : (pathText l ++ "/").toList.getLast? = some '/' := by
      rw [String.toList_append, List.getLast?_append]
      rfl
    unfold join
    rw [not_isAbsolute hname.separate, hslash, pathText_cons name hl]
    simp

theorem spells_join_empty {text : String} (h : Spells text l) : Spells (join text "") l := by
  have hempty : text.isEmpty = false := by
    apply isEmpty_of_isAbsolute
    rcases h with rfl | ⟨-, rfl⟩
    · exact isAbsolute_pathText l
    · rw [isAbsolute_append _ (isEmpty_pathText l)]
      exact isAbsolute_pathText l
  have habs : isAbsolute "" = false := rfl
  unfold join
  rw [habs, hempty]
  simp only [Bool.false_or, Bool.false_eq_true, if_false]
  split
  · rw [String.append_empty]
    exact h
  · next hslash =>
    rw [String.append_empty]
    rcases h with rfl | ⟨-, rfl⟩
    · refine .inr ⟨?_, rfl⟩
      rintro rfl
      exact hslash (by decide)
    · rw [String.toList_append, List.getLast?_append] at hslash
      exact absurd rfl hslash

theorem spells_foldl_join (named : Named l) (hnames : ∀ segment ∈ segments, segment ≠ [] →
      IsName (String.ofList segment)) {text : String} (h : Spells text l) :
    ∃ l', Named l' ∧
      Spells (segments.foldl (fun path segment => join path (String.ofList segment)) text) l' := by
  induction segments generalizing text l with
  | nil => exact ⟨l, named, h⟩
  | cons segment rest ih =>
    obtain ⟨hsegment, hrest⟩ := List.forall_mem_cons.1 hnames
    rw [List.foldl_cons]
    cases segment with
    | nil => exact ih named hrest (spells_join_empty h)
    | cons c cs =>
      have hname := hsegment (List.cons_ne_nil c cs)
      exact ih (named_cons.2 ⟨hname, named⟩) hrest (.inl (join_of_spells h named hname))

theorem Normal.spells (h : Normal base) : Spells base (place base) :=
  .inl h.symm

theorem named_foldl {way : List String} (hway : ∀ step ∈ way, step ≠ "" ∧ '/' ∉ step.toList)
    (named : Named l) : Named (way.foldl stepFrom l) := by
  induction way generalizing l with
  | nil => exact named
  | cons step rest ih =>
    obtain ⟨hstep, hrest⟩ := List.forall_mem_cons.1 hway
    rw [List.foldl_cons]
    apply ih hrest
    unfold stepFrom
    split
    · exact named
    · next hdot =>
      split
      · exact named.of_suffix (List.tail_suffix l)
      · next hup => exact named_cons.2 ⟨⟨hstep.1, hstep.2, hdot, hup⟩, named⟩

theorem ne_empty_of_mem_steps {step : String} {path : String} (h : step ∈ steps path) : step ≠ "" := by
  obtain ⟨segment, hsegment, rfl⟩ := List.mem_map.1 h
  have := (List.mem_filter.1 hsegment).2
  intro hempty
  have hnil : segment = [] := by
    rw [← String.toList_ofList (l := segment), hempty]
    rfl
  rw [hnil] at this
  cases this

theorem named_place (path : String) : Named (place path) :=
  named_foldl (fun _ hstep => ⟨ne_empty_of_mem_steps hstep, not_mem_of_mem_steps hstep⟩) nofun

theorem normal_resolve (h : Normal base) (hdot : "." ∉ steps relative) (hup : ".." ∉ steps relative)
    {name : List Char} (hlast : (List.splitOn '/' relative.toList).getLast? = some name)
    (hname : name ≠ []) : Normal (resolve base relative) := by
  obtain ⟨front, hsplit⟩ := List.getLast?_eq_some_iff.1 hlast
  have hnames : ∀ segment ∈ List.splitOn '/' relative.toList, segment ≠ [] →
      IsName (String.ofList segment) := by
    intro segment hsegment hne
    have hmem : String.ofList segment ∈ steps relative := by
      apply List.mem_map_of_mem
      rw [List.mem_filter]
      refine ⟨hsegment, by simpa using hne⟩
    exact ⟨ne_empty_of_mem_steps hmem, not_mem_of_mem_steps hmem, fun heq => hdot (heq ▸ hmem),
      fun heq => hup (heq ▸ hmem)⟩
  rw [hsplit] at hnames
  obtain ⟨l, hl, hspells⟩ := spells_foldl_join (named_place base)
    (fun segment hmem => hnames segment (List.mem_append_left _ hmem)) h.spells
  have hend := hnames name (List.mem_append_right _ List.mem_cons_self) hname
  unfold resolve
  rw [hsplit, List.foldl_append, List.foldl_cons, List.foldl_nil, join_of_spells hspells hl hend]
  unfold Normal
  rw [place_pathText (named_cons.2 ⟨hend, hl⟩)]

end Path

end DartBundle
