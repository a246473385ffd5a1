import DartBundle.Proofs.FileTree.Operations
/-!
This module contains where a path leads by its text alone, and how high its steps rise on the way. Steps
that rise no higher than they have come down stay below any directory that they start from, and other
steps leave some directory.
-/

namespace DartBundle

namespace Path

theorem isAbsolute_join_eq {base part : String} (h : isAbsolute part = false) :
    isAbsolute (join base part) = isAbsolute base := by
  unfold join
  rw [h]
  simp only [Bool.false_or, Bool.false_eq_true, if_false]
  cases hempty : base.isEmpty with
  | true =>
    rw [String.isEmpty_iff] at hempty
    subst hempty
    have hnone : isAbsolute "" = false := rfl
    rw [hnone]
    simpa using h
  | false =>
    split
    · exact isAbsolute_append part hempty
    · rw [String.append_assoc]
      exact isAbsolute_append _ hempty

theorem isAbsolute_resolve_eq (base relative : String) :
    isAbsolute (resolve base relative) = isAbsolute base := by
  have hsegments : ∀ segment ∈ List.splitOn '/' relative.toList, '/' ∉ segment :=
    fun _ => Text.not_mem_of_mem_splitOn
  unfold resolve
  generalize List.splitOn '/' relative.toList = segments at hsegments
  induction segments generalizing base with
  | nil => rfl
  | cons segment rest ih =>
    obtain ⟨hsegment, hrest⟩ := List.forall_mem_cons.1 hsegments
    have hrelative : isAbsolute (String.ofList segment) = false := by
      apply not_isAbsolute
      rwa [String.toList_ofList]
    rw [List.foldl_cons, ih _ hrest, isAbsolute_join_eq hrelative]

end Path

namespace FileTree

theorem locate_resolve (t : FileTree) (base relative : String) :
    t.locate (Path.resolve base relative) =
      (Path.steps relative).foldl stepFrom (t.locate base) := by
  unfold locate start
  rw [Path.isAbsolute_resolve_eq, Path.steps_resolve, List.foldl_append]

theorem locate_join {part : String} (t : FileTree) (base : String)
    (h : Path.isAbsolute part = false) :
    t.locate (Path.join base part) = (Path.steps part).foldl stepFrom (t.locate base) := by
  unfold locate start
  rw [Path.isAbsolute_join_eq h, Path.steps_join base h, List.foldl_append]

end FileTree

namespace Path

open FileTree

variable {path name : String} {way rest : List String} {inner outer : Location}

def place (path : String) : Location :=
  (Path.steps path).foldl stepFrom []

def AtOrBelow (top path : String) : Prop :=
  place top <:+ place path

instance (top path : String) : Decidable (AtOrBelow top path) :=
  inferInstanceAs (Decidable (_ <:+ _))

def Normal (path : String) : Prop :=
  pathText (place path) = path

instance (path : String) : Decidable (Normal path) :=
  inferInstanceAs (Decidable (_ = _))

theorem Normal.isAbsolute (h : Normal path) : isAbsolute path = true := by
  unfold Normal at h
  rw [← h]
  unfold pathText Path.isAbsolute
  rw [String.toList_append]
  rfl

theorem locate_eq_place {t : FileTree} (h : isAbsolute path = true) : t.locate path = place path := by
  unfold locate place
  rw [start_of_absolute h]

theorem place_resolve (base relative : String) :
    place (resolve base relative) = (Path.steps relative).foldl stepFrom (place base) := by
  unfold place
  rw [steps_resolve, List.foldl_append]

def risesAtMost : Nat → List String → Bool
  | _, [] => true
  | height, step :: rest =>
    if step = "." then
      risesAtMost height rest
    else if step = ".." then
      match height with
      | 0 => false
      | height + 1 => risesAtMost height rest
    else
      risesAtMost (height + 1) rest

theorem risesAtMost_of_ne_up {height : Nat} (h : ∀ step ∈ way, step ≠ "..") :
    risesAtMost height way = true := by
  induction way generalizing height with
  | nil => rfl
  | cons step rest ih =>
    have hrest : ∀ height, risesAtMost height rest = true :=
      fun height => ih fun other hother => h other (List.mem_cons_of_mem _ hother)
    have hstep : step ≠ ".." := h step List.mem_cons_self
    unfold risesAtMost
    simp only [hstep, if_false, hrest, ite_self]

theorem risesAtMost_append {height : Nat} (h : ∀ step ∈ rest, step ≠ "..") :
    risesAtMost height (way ++ rest) = risesAtMost height way := by
  induction way generalizing height with
  | nil => exact risesAtMost_of_ne_up h
  | cons step others ih =>
    rw [List.cons_append]
    unfold risesAtMost
    split
    · exact ih
    · split
      · cases height with
        | zero => rfl
        | succ height => exact ih
      · exact ih

theorem foldl_of_risesAtMost (h : risesAtMost inner.length way = true) :
    way.foldl stepFrom (inner ++ outer) = way.foldl stepFrom inner ++ outer := by
  induction way generalizing inner with
  | nil => rfl
  | cons step rest ih =>
    unfold risesAtMost at h
    rw [List.foldl_cons, List.foldl_cons]
    unfold stepFrom
    split at h
    · next hdot =>
      rw [if_pos hdot, if_pos hdot]
      exact ih h
    · next hdot =>
      rw [if_neg hdot, if_neg hdot]
      split at h
      · next hup =>
        rw [if_pos hup, if_pos hup]
        cases inner with
        | nil => cases h
        | cons top below => exact ih h
      · next hup =>
        rw [if_neg hup, if_neg hup]
        have hlonger : risesAtMost (step :: inner).length rest = true := h
        exact ih hlonger

theorem not_mem_foldl_of_rises (h : risesAtMost inner.length way = false) (hinner : name ∉ inner)
    (hway : name ∉ way) : name ∉ way.foldl stepFrom (inner ++ [name]) := by
  induction way generalizing inner with
  | nil => cases h
  | cons step rest ih =>
    rw [List.mem_cons, not_or] at hway
    unfold risesAtMost at h
    rw [List.foldl_cons]
    unfold stepFrom
    split at h
    · next hdot =>
      rw [if_pos hdot]
      exact ih h hinner hway.2
    · next hdot =>
      rw [if_neg hdot]
      split at h
      · next hup =>
        rw [if_pos hup]
        cases inner with
        | nil =>
          -- the name has been left behind, and no later step brings it back
          intro hmem
          rcases mem_of_mem_foldl hmem with hnil | hrest
          · cases hnil
          · exact hway.2 hrest
        | cons top below => exact ih h (fun hmem => hinner (List.mem_cons_of_mem _ hmem)) hway.2
      · next hup =>
        rw [if_neg hup]
        have hlonger : risesAtMost (step :: inner).length rest = false := h
        refine ih hlonger ?_ hway.2
        rw [List.mem_cons, not_or]
        exact ⟨hway.1, hinner⟩

theorem exists_normal_name (way : List String) :
    ∃ name, name ∉ way ∧ place ("/" ++ name) = [name] ∧ Normal ("/" ++ name) := by
  let longest := (way.map String.length).foldl max 0
  let name := String.ofList (List.replicate (longest + 1) 'd')
  have hlength : name.length = longest + 1 := by simp [name, String.length]
  have hslash : '/' ∉ name.toList := by simp [name]
  have hempty : name.isEmpty = false := by simp [name, List.replicate_succ]
  have hdots : ∀ dots : String, dots.toList.head? = some '.' → name ≠ dots := by
    intro dots hhead hname
    rw [← hname] at hhead
    simp [name, List.replicate_succ] at hhead
  have hplace : place ("/" ++ name) = [name] := by
    have hsteps : Path.steps ("/" ++ name) = [name] := by
      have : "/" ++ name = String.ofList ([] ++ '/' :: name.toList) := by
        rw [← String.toList_inj]
        simp
      rw [this, steps_ofList_append, String.ofList_toList, steps_of_not_mem hslash, hempty]
      rfl
    unfold place
    rw [hsteps]
    exact stepFrom_of_ne (hdots _ (by decide)) (hdots _ (by decide))
  refine ⟨name, ?_, hplace, ?_⟩
  · intro hmem
    have : name.length ≤ longest := le_foldl_max (.inr (List.mem_map_of_mem hmem))
    omega
  · unfold Normal
    rw [hplace]
    simp [pathText]

theorem forall_suffix_foldl_iff :
    (∀ root, Normal root → place root <:+ way.foldl stepFrom (place root)) ↔
      risesAtMost 0 way = true := by
  constructor
  · intro h
    rw [← Bool.not_eq_false]
    intro hrises
    obtain ⟨name, hname, hplace, hnormal⟩ := exists_normal_name way
    have hsuffix := h _ hnormal
    rw [hplace] at hsuffix
    have hleft : name ∉ way.foldl stepFrom ([] ++ [name]) :=
      not_mem_foldl_of_rises hrises List.not_mem_nil hname
    exact hleft (hsuffix.subset List.mem_cons_self)
  · intro h root _
    have hstays : way.foldl stepFrom ([] ++ place root) = way.foldl stepFrom [] ++ place root :=
      foldl_of_risesAtMost h
    rw [List.nil_append] at hstays
    rw [hstays]
    exact List.suffix_append _ _

theorem exists_not_suffix_foldl :
    ∃ root, Normal root ∧ ¬ place root <:+ way.foldl stepFrom [] := by
  obtain ⟨name, hname, hplace, hnormal⟩ := exists_normal_name way
  refine ⟨_, hnormal, ?_⟩
  rw [hplace]
  intro hsuffix
  rcases mem_of_mem_foldl (hsuffix.subset List.mem_cons_self) with hnil | hmem
  · cases hnil
  · exact hname hmem

end Path

end DartBundle
