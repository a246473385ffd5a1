import DartBundle.Path
/-!
This module contains what becomes of path texts when something without a slash is written after them:
only the last segment grows, so the longer path leads into the same directory. It also contains what the
last segment of a joined path is, that the segments of a joined path are those of its parts, and which
segments are names.
-/

namespace DartBundle

namespace Text

theorem splitOn_append {sep : Char} (cs : List Char) {added : List Char} (h : sep ∉ added) :
    ∃ front last, cs.splitOn sep = front ++ [last] ∧
      (cs ++ added).splitOn sep = front ++ [last ++ added] := by
  induction cs with
  | nil => exact ⟨[], [], rfl, List.splitOn_eq_singleton h⟩
  | cons c rest ih =>
    obtain ⟨front, last, hrest, hadded⟩ := ih
    simp only [List.cons_append, List.splitOn_cons_eq_if_modifyHead, hrest, hadded]
    by_cases hc : c = sep
    · exact ⟨[] :: front, last, by simp [hc], by simp [hc]⟩
    · cases front with
      | nil => exact ⟨[], c :: last, by simp [hc], by simp [hc]⟩
      | cons first others => exact ⟨(c :: first) :: others, last, by simp [hc], by simp [hc]⟩

theorem intercalate_append (sep : Char) {as bs : List (List Char)} (has : as ≠ []) (hbs : bs ≠ []) :
    [sep].intercalate (as ++ bs) = [sep].intercalate as ++ sep :: [sep].intercalate bs := by
  induction as with
  | nil => exact absurd rfl has
  | cons piece rest ih =>
    rw [List.cons_append]
    cases rest with
    | nil => simp [List.intercalate_cons_of_ne_nil hbs]
    | cons next others =>
      rw [List.intercalate_cons_of_ne_nil (by simp), ih (List.cons_ne_nil _ _),
        List.intercalate_cons_cons, List.append_assoc _ _ (sep :: _)]

theorem splitOn_last_nil {sep : Char} {cs : List Char} {front : List (List Char)}
    (h : cs.splitOn sep = front ++ [[]]) : cs = [] ∨ cs.getLast? = some sep := by
  have hjoined : [sep].intercalate (cs.splitOn sep) = cs := List.intercalate_splitOn sep
  rw [← hjoined, h]
  cases front with
  | nil => exact .inl rfl
  | cons first others =>
    rw [intercalate_append sep (List.cons_ne_nil _ _) (List.cons_ne_nil _ _)]
    exact .inr (by simp)

theorem getLast?_splitOn_append (sep : Char) (as bs : List Char) :
    ((as ++ sep :: bs).splitOn sep).getLast? = (bs.splitOn sep).getLast? := by
  rw [List.splitOn_append_cons_self, List.getLast?_append, Option.or_of_isSome]
  rw [List.getLast?_isSome]
  exact List.splitOn_ne_nil sep bs

end Text

namespace Path

theorem not_isAbsolute {part : String} (h : '/' ∉ part.toList) : isAbsolute part = false := by
  unfold isAbsolute
  rw [decide_eq_false_iff_not]
  intro hhead
  exact h (List.mem_of_head? hhead)

theorem isAbsolute_append {path : String} (added : String) (h : path.isEmpty = false) :
    isAbsolute (path ++ added) = isAbsolute path := by
  unfold isAbsolute
  rw [String.toList_append]
  cases hpath : path.toList with
  | nil =>
    have : path = "" := String.toList_injective hpath
    simp [this] at h
  | cons c rest => rfl

theorem join_append {base part added : String} (hpart : '/' ∉ part.toList)
    (hadded : '/' ∉ added.toList) : join base (part ++ added) = join base part ++ added := by
  have happ : '/' ∉ (part ++ added).toList := by simp [hpart, hadded]
  unfold join
  rw [not_isAbsolute hpart, not_isAbsolute happ]
  split <;> simp [String.append_assoc]

theorem slash_not_mem_last {path : String} {front : List (List Char)} {last : List Char}
    (hsplit : List.splitOn '/' path.toList = front ++ [last]) : '/' ∉ (String.ofList last).toList := by
  have hmem : last ∈ List.splitOn '/' path.toList := by simp [hsplit]
  rw [String.toList_ofList]
  exact Text.not_mem_of_mem_splitOn hmem

theorem resolve_append (base relative : String) {added : String} (h : '/' ∉ added.toList) :
    resolve base (relative ++ added) = resolve base relative ++ added := by
  obtain ⟨front, last, hsplit, hadded⟩ := Text.splitOn_append relative.toList h
  unfold resolve
  rw [String.toList_append, hsplit, hadded, List.foldl_append, List.foldl_append]
  simp only [List.foldl_cons, List.foldl_nil]
  rw [← join_append (slash_not_mem_last hsplit) h, String.ofList_append, String.ofList_toList]

theorem isEmpty_of_isAbsolute {path : String} (h : isAbsolute path = true) :
    path.isEmpty = false := by
  rw [← Bool.not_eq_true]
  intro hempty
  rw [String.isEmpty_iff] at hempty
  subst hempty
  cases h

theorem isAbsolute_join {base : String} (part : String) (h : isAbsolute base = true) :
    isAbsolute (join base part) = true := by
  have hempty := isEmpty_of_isAbsolute h
  unfold join
  repeat' split
  · assumption
  · rwa [isAbsolute_append _ hempty]
  · rwa [String.append_assoc, isAbsolute_append _ hempty]

theorem isAbsolute_resolve {base : String} (relative : String) (h : isAbsolute base = true) :
    isAbsolute (resolve base relative) = true := by
  unfold resolve
  generalize List.splitOn '/' relative.toList = segments
  induction segments generalizing base with
  | nil => exact h
  | cons segment rest ih => exact ih (isAbsolute_join _ h)

theorem not_mem_of_mem_steps {path step : String} (h : step ∈ steps path) : '/' ∉ step.toList := by
  unfold steps at h
  obtain ⟨segment, hsegment, rfl⟩ := List.mem_map.1 h
  rw [String.toList_ofList]
  exact Text.not_mem_of_mem_splitOn (List.mem_filter.1 hsegment).1

theorem last_ne_nil {path : String} {front : List (List Char)} {last : List Char}
    (hpath : path.isEmpty = false) (hfile : namesDirectory path = false)
    (hsplit : List.splitOn '/' path.toList = front ++ [last]) : last ≠ [] := by
  rintro rfl
  rcases Text.splitOn_last_nil hsplit with hnil | hslash
  · have : path = "" := String.toList_injective hnil
    simp [this] at hpath
  · simp [namesDirectory, hslash] at hfile

theorem steps_append {path added : String} (hpath : path.isEmpty = false)
    (hfile : namesDirectory path = false) (h : '/' ∉ added.toList) :
    ∃ front last, steps path = front ++ [last] ∧ steps (path ++ added) = front ++ [last ++ added] := by
  obtain ⟨front, last, hsplit, hadded⟩ := Text.splitOn_append path.toList h
  have hlast := last_ne_nil hpath hfile hsplit
  refine ⟨(front.filter fun segment => !segment.isEmpty).map String.ofList, String.ofList last, ?_, ?_⟩
  · unfold steps
    rw [hsplit]
    simp [List.filter_append, hlast]
  · unfold steps
    rw [String.toList_append, hadded]
    simp [List.filter_append, hlast, String.ofList_append]

theorem namesDirectory_append {path added : String} (hadded : added.isEmpty = false)
    (h : '/' ∉ added.toList) : namesDirectory (path ++ added) = false := by
  unfold namesDirectory
  rw [decide_eq_false_iff_not, String.toList_append, List.getLast?_append]
  cases hlast : added.toList.getLast? with
  | none =>
    have : added = "" := String.toList_injective (List.getLast?_eq_none_iff.1 hlast)
    simp [this] at hadded
  | some c =>
    intro hc
    cases hc
    exact h (List.mem_of_getLast? hlast)

theorem namesDirectory_of_getLast? {path : String} {name : List Char}
    (h : (List.splitOn '/' path.toList).getLast? = some name) (hname : name ≠ []) :
    namesDirectory path = false := by
  unfold namesDirectory
  rw [decide_eq_false_iff_not]
  intro hslash
  obtain ⟨front, hfront⟩ := List.getLast?_eq_some_iff.1 hslash
  rw [hfront, Text.getLast?_splitOn_append] at h
  exact hname (Option.some.inj h).symm

theorem split_join_getLast? {base part : String} (h : '/' ∉ part.toList) :
    (List.splitOn '/' (join base part).toList).getLast? = some part.toList := by
  have hpart : (List.splitOn '/' part.toList).getLast? = some part.toList := by
    rw [List.splitOn_eq_singleton h]
    rfl
  unfold join
  rw [not_isAbsolute h]
  simp only [Bool.false_or, Bool.false_eq_true, if_false]
  split
  · next hbase =>
    rw [Bool.or_eq_true, decide_eq_true_eq] at hbase
    rw [String.toList_append]
    rcases hbase with hempty | hslash
    · rw [String.isEmpty_iff.1 hempty]
      exact hpart
    · obtain ⟨front, hfront⟩ := List.getLast?_eq_some_iff.1 hslash
      rw [hfront, List.append_assoc]
      exact (Text.getLast?_splitOn_append ..).trans hpart
  · rw [String.toList_append, String.toList_append, List.append_assoc]
    exact (Text.getLast?_splitOn_append ..).trans hpart

theorem split_resolve_getLast? (base relative : String) :
    (List.splitOn '/' (resolve base relative).toList).getLast? =
      (List.splitOn '/' relative.toList).getLast? := by
  obtain ⟨front, last, hsplit⟩ :
      ∃ front last, List.splitOn '/' relative.toList = front ++ [last] := by
    rcases List.eq_nil_or_concat (List.splitOn '/' relative.toList) with hnil | ⟨front, last, hlast⟩
    · exact absurd hnil (List.splitOn_ne_nil '/' relative.toList)
    · exact ⟨front, last, by simpa using hlast⟩
  unfold resolve
  rw [hsplit, List.foldl_append, List.getLast?_concat]
  exact (split_join_getLast? (slash_not_mem_last hsplit)).trans (by rw [String.toList_ofList])

theorem steps_getLast? {path : String} {name : List Char}
    (h : (List.splitOn '/' path.toList).getLast? = some name) (hname : name ≠ []) :
    (steps path).getLast? = some (String.ofList name) := by
  obtain ⟨front, hsplit⟩ := List.getLast?_eq_some_iff.1 h
  unfold steps
  rw [hsplit]
  simp [List.filter_append, hname]

theorem steps_getLast?_congr {path other : String} (hpath : path.isEmpty = false)
    (hfile : namesDirectory path = false)
    (h : (List.splitOn '/' path.toList).getLast? = (List.splitOn '/' other.toList).getLast?) :
    (steps path).getLast? = (steps other).getLast? := by
  cases hlast : (List.splitOn '/' path.toList).getLast? with
  | none => exact absurd (List.getLast?_eq_none_iff.1 hlast) (List.splitOn_ne_nil '/' path.toList)
  | some name =>
    obtain ⟨front, hsplit⟩ := List.getLast?_eq_some_iff.1 hlast
    have hname := last_ne_nil hpath hfile hsplit
    rw [steps_getLast? hlast hname, steps_getLast? (h ▸ hlast) hname]

theorem steps_of_not_mem {part : String} (h : '/' ∉ part.toList) :
    steps part = if part.isEmpty then [] else [part] := by
  unfold steps
  rw [List.splitOn_eq_singleton h]
  cases hempty : part.isEmpty with
  | true =>
    rw [String.isEmpty_iff] at hempty
    subst hempty
    rfl
  | false =>
    have hpart : part.toList.isEmpty = false := by
      rw [List.isEmpty_eq_false_iff]
      intro hnil
      have : part = "" := String.toList_injective hnil
      simp [this] at hempty
    simp [hpart, String.ofList_toList]

theorem steps_ofList_append (front back : List Char) :
    steps (String.ofList (front ++ '/' :: back)) =
      steps (String.ofList front) ++ steps (String.ofList back) := by
  unfold steps
  simp only [String.toList_ofList]
  rw [List.splitOn_append_cons_self, List.filter_append, List.map_append]

theorem steps_join {part : String} (base : String) (h : isAbsolute part = false) :
    steps (join base part) = steps base ++ steps part := by
  unfold join
  rw [h]
  simp only [Bool.false_or, Bool.false_eq_true, if_false]
  split
  · next hbase =>
    rw [Bool.or_eq_true, decide_eq_true_eq] at hbase
    rcases hbase with hempty | hslash
    · rw [String.isEmpty_iff.1 hempty]
      simp [steps]
    · obtain ⟨front, hfront⟩ := List.getLast?_eq_some_iff.1 hslash
      have hbase : base = String.ofList (front ++ '/' :: []) := by
        rw [← hfront, String.ofList_toList]
      have hjoined : base ++ part = String.ofList (front ++ '/' :: part.toList) := by
        rw [hbase, ← String.toList_inj]
        simp
      rw [hjoined, hbase, steps_ofList_append, steps_ofList_append, String.ofList_toList]
      simp [steps]
  · have hjoined : base ++ "/" ++ part = String.ofList (base.toList ++ '/' :: part.toList) := by
      rw [← String.toList_inj]
      simp
    rw [hjoined, steps_ofList_append, String.ofList_toList, String.ofList_toList]

theorem steps_foldl_join {segments : List (List Char)} (base : String)
    (h : ∀ segment ∈ segments, '/' ∉ segment) :
    steps (segments.foldl (fun path segment => join path (String.ofList segment)) base) =
      steps base ++ (segments.filter fun segment => !segment.isEmpty).map String.ofList := by
  induction segments generalizing base with
  | nil => simp
  | cons segment others ih =>
    have hsegment : '/' ∉ (String.ofList segment).toList := by
      rw [String.toList_ofList]
      exact h segment List.mem_cons_self
    rw [List.foldl_cons, ih _ fun other hother => h other (List.mem_cons_of_mem _ hother),
      steps_join base (not_isAbsolute hsegment), steps_of_not_mem hsegment, List.append_assoc]
    cases segment with
    | nil => simp
    | cons c cs => simp

theorem steps_resolve (base relative : String) :
    steps (resolve base relative) = steps base ++ steps relative :=
  steps_foldl_join base fun _ hsegment => Text.not_mem_of_mem_splitOn hsegment

structure IsName (text : String) : Prop where
  nonempty : text ≠ ""
  separate : '/' ∉ text.toList
  ne_here : text ≠ "."
  ne_up : text ≠ ".."

end Path

end DartBundle
