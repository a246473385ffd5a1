import DartBundle.Proofs.Path
/-!
This module contains what the paths above a path are. Each of them is a beginning of its text, and the steps
that it leaves out lead down from it.
-/

namespace DartBundle

namespace Path

variable {path q : String} {head : List Char} {segments : List (List Char)}

theorem splitHead_append (path : List Char) : (splitHead path).1 ++ (splitHead path).2 = path := by
  unfold splitHead
  split <;> rfl

theorem mem_above_cons {segment : List Char} (h : q ∈ above head (segment :: segments)) :
    q ∈ above head segments ∨ segment ≠ [] ∧
      q = String.ofList (head ++ ['/'].intercalate (segments.dropWhile isIdle).reverse) := by
  unfold above at h
  split at h
  · exact .inl h
  · next hidle =>
    rcases List.mem_cons.1 h with hfirst | hmem
    · refine .inr ⟨?_, hfirst⟩
      rintro rfl
      exact hidle rfl
    · exact .inl hmem

theorem exists_of_mem_above (h : q ∈ above head segments) (hq : q.isEmpty = false) :
    ∃ segment between kept, segment :: (between ++ kept) <:+ segments ∧ segment ≠ [] ∧
      q = String.ofList (head ++ ['/'].intercalate kept.reverse) := by
  induction segments with
  | nil =>
    unfold above at h
    split at h
    · rw [List.mem_singleton.1 h] at hq
      cases hq
    · cases h
  | cons segment rest ih =>
    rcases mem_above_cons h with hmem | ⟨hsegment, htext⟩
    · obtain ⟨other, between, kept, hsuffix, hother, htext⟩ := ih hmem
      exact ⟨other, between, kept, hsuffix.trans (List.suffix_cons ..), hother, htext⟩
    · refine ⟨segment, rest.takeWhile isIdle, rest.dropWhile isIdle, ?_, hsegment, htext⟩
      simp only [List.takeWhile_append_dropWhile, List.suffix_refl]

theorem steps_intercalate_ne_nil {segment : List Char} (h : ∀ piece ∈ segments, '/' ∉ piece)
    (hmem : segment ∈ segments) (hsegment : segment ≠ []) :
    steps (String.ofList (['/'].intercalate segments)) ≠ [] := by
  unfold steps
  rw [String.toList_ofList, List.splitOn_intercalate '/' h (List.ne_nil_of_mem hmem)]
  intro hnil
  rw [List.map_eq_nil_iff, List.filter_eq_nil_iff] at hnil
  have := hnil segment hmem
  simp [hsegment] at this

theorem splitHead_cases (path : List Char) :
    splitHead path = ([], path) ∨ (∃ body, path = '/' :: body ∧ splitHead path = (['/'], body)) ∨
      splitHead path = (['.'], []) ∨
        ∃ body, path = '.' :: '/' :: body ∧ splitHead path = (['.'], '/' :: body) := by
  unfold splitHead
  split
  · exact .inr (.inl ⟨_, rfl, rfl⟩)
  · exact .inr (.inr (.inl rfl))
  · exact .inr (.inr (.inr ⟨_, rfl, rfl⟩))
  · exact .inl rfl

theorem eq_ofList_of_splitHead {body : List Char} (h : splitHead path.toList = (head, body)) :
    path = String.ofList (head ++ body) := by
  have := splitHead_append path.toList
  rw [h] at this
  rw [this, String.ofList_toList]

theorem exists_steps_of_head {body : List Char} (hhead : splitHead path.toList = (head, body))
    (hq : (String.ofList head).isEmpty = false) (hbody : steps (String.ofList body) ≠ []) :
    ∃ added rest, path = String.ofList head ++ added ∧
      steps path = steps (String.ofList head) ++ rest ∧ rest ≠ [] := by
  have htext := eq_ofList_of_splitHead hhead
  rcases splitHead_cases path.toList with hplain | ⟨rest, -, hroot⟩ | hdot | ⟨rest, -, hhere⟩
  · rw [hhead, Prod.mk.injEq] at hplain
    rw [hplain.1] at hq
    cases hq
  · rw [hhead, Prod.mk.injEq] at hroot
    obtain ⟨rfl, rfl⟩ := hroot
    refine ⟨String.ofList body, steps (String.ofList body), ?_, ?_, hbody⟩
    · rw [htext, String.ofList_append]
    · rw [htext]
      exact steps_ofList_append [] body
  · rw [hhead, Prod.mk.injEq] at hdot
    rw [hdot.2] at hbody
    exact absurd rfl hbody
  · rw [hhead, Prod.mk.injEq] at hhere
    obtain ⟨rfl, rfl⟩ := hhere
    refine ⟨String.ofList ('/' :: rest), steps (String.ofList rest), ?_, ?_, ?_⟩
    · rw [htext, String.ofList_append]
    · rw [htext]
      exact steps_ofList_append ['.'] rest
    · have := steps_ofList_append [] rest
      rw [List.nil_append] at this
      rw [this] at hbody
      exact hbody

theorem exists_steps_of_kept {body : List Char} {kept dropped : List (List Char)}
    {segment : List Char} (hsplit : List.splitOn '/' body = kept ++ dropped) (hmem : segment ∈ dropped)
    (hsegment : segment ≠ []) (hhead : splitHead path.toList = (head, body))
    (hq : (String.ofList (head ++ ['/'].intercalate kept)).isEmpty = false) :
    ∃ added rest, path = String.ofList (head ++ ['/'].intercalate kept) ++ added ∧
      steps path = steps (String.ofList (head ++ ['/'].intercalate kept)) ++ rest ∧ rest ≠ [] := by
  have hslash : ∀ piece ∈ dropped, '/' ∉ piece := by
    intro piece hpiece
    have hmem' : piece ∈ List.splitOn '/' body := by
      rw [hsplit]
      exact List.mem_append_right _ hpiece
    exact Text.not_mem_of_mem_splitOn hmem'
  have hrest := steps_intercalate_ne_nil hslash hmem hsegment
  have hbody : body = ['/'].intercalate (kept ++ dropped) := by
    rw [← hsplit, List.intercalate_splitOn]
  by_cases hne : kept = []
  · subst hne
    rw [List.nil_append] at hbody
    rw [List.intercalate_nil, List.append_nil] at hq ⊢
    exact exists_steps_of_head hhead hq (hbody ▸ hrest)
  · rw [Text.intercalate_append '/' hne (List.ne_nil_of_mem hmem)] at hbody
    have htext : path = String.ofList ((head ++ ['/'].intercalate kept) ++
        '/' :: ['/'].intercalate dropped) := by
      rw [eq_ofList_of_splitHead hhead, hbody, List.append_assoc]
    refine ⟨String.ofList ('/' :: ['/'].intercalate dropped), _, ?_, ?_, hrest⟩
    · rw [htext, String.ofList_append]
    · rw [htext, steps_ofList_append]

theorem exists_steps_of_mem_parents (h : q ∈ parents path) (hq : q.isEmpty = false) :
    ∃ added rest, path = q ++ added ∧ steps path = steps q ++ rest ∧ rest ≠ [] := by
  have habove : q ∈ above (splitHead path.toList).1 (List.splitOn '/' (splitHead path.toList).2).reverse := h
  obtain ⟨segment, between, kept, ⟨front, hsegments⟩, hsegment, rfl⟩ := exists_of_mem_above habove hq
  have hsplit : List.splitOn '/' (splitHead path.toList).2 =
      kept.reverse ++ (between.reverse ++ segment :: front.reverse) := by
    rw [← List.reverse_inj, ← hsegments]
    simp
  exact exists_steps_of_kept hsplit (by simp) hsegment rfl hq

def ancestors (path : String) : List String :=
  match parent? path with
  | none => []
  | some parent => parent :: parents parent

theorem exists_steps_of_mem_ancestors (h : q ∈ ancestors path) (hq : q.isEmpty = false) :
    ∃ added rest, path = q ++ added ∧ steps path = steps q ++ rest ∧ rest ≠ [] := by
  unfold ancestors at h
  cases hparent : parent? path with
  | none =>
    rw [hparent] at h
    cases h
  | some parent =>
    rw [hparent] at h
    have hmem : parent ∈ parents path := List.mem_of_head? hparent
    rcases List.mem_cons.1 h with rfl | habove
    · exact exists_steps_of_mem_parents hmem hq
    · have hne : parent.isEmpty = false := by
        rw [← Bool.not_eq_true, String.isEmpty_iff]
        rintro rfl
        cases habove
      obtain ⟨added, rest, rfl, hsteps, -⟩ := exists_steps_of_mem_parents hmem hne
      obtain ⟨added', rest', rfl, hsteps', hrest'⟩ := exists_steps_of_mem_parents habove hq
      refine ⟨added' ++ added, rest' ++ rest, String.append_assoc, ?_, ?_⟩
      · rw [hsteps, hsteps', List.append_assoc]
      · exact List.append_ne_nil_of_left_ne_nil hrest' rest

end Path

end DartBundle
