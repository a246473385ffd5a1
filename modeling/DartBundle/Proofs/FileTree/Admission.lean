import DartBundle.Proofs.FileTree.Normal
/-!
This module contains when a file can be written on the shortest path to a location: the directories on the
way have to be there or to be such that they can be made, and no directory may lie at the location itself.
-/

namespace DartBundle

namespace FileTree

variable {t u v : FileTree} {l d above : Location} {name path : String} {places : List Location}
  {made : Location → Prop} {e : Entry} {content : ByteArray}

def Reaches (t : FileTree) : Location → Prop
  | [] => True
  | name :: above => t.Reaches above ∧ name.utf8ByteSize ≤ maxName ∧
    ∃ e, t.get? (name :: above) = some e ∧ e.isDirectory = true ∧ e.isExecutable = true

def Accessible (t : FileTree) : Location → Prop
  | [] => True
  | name :: above => t.Accessible above ∧ name.utf8ByteSize ≤ maxName ∧
    match t.get? (name :: above) with
    | some e => e.isDirectory = true ∧ e.isExecutable = true
    | none => ∀ e, t.get? above = some e → e.isWritable = true

structure Admits (t : FileTree) (name : String) (d : Location) : Prop where
  accessible : t.Accessible d
  short : name.utf8ByteSize ≤ maxName
  writable : ∀ e, t.get? d = some e → e.isWritable = true
  free : ∀ e, t.get? (name :: d) = some e → e.isDirectory = false

theorem isGone_of_named (h : Named l) : isGone l = false := by
  unfold isGone
  rw [decide_eq_false_iff_not]
  intro hhead
  exact (h "/" (List.mem_of_head? hhead)).separate (by decide)

theorem advance_eq_ok_iff (hd : Named d) (hname : Path.IsName name) :
    t.advance d name = .ok l ↔
      l = name :: d ∧ name.utf8ByteSize ≤ maxName ∧
        ∃ e, t.get? d = some e ∧ e.isDirectory = true ∧ e.isExecutable = true := by
  unfold advance
  cases t.get? d with
  | none => simp [isGone_of_named hd]
  | some e =>
    dsimp only
    rw [stepFrom_of_ne hname.ne_here hname.ne_up]
    constructor
    · intro h
      repeat' split at h
      all_goals cases h
      next hdir hexec hshort =>
        exact ⟨rfl, by omega, e, rfl, by simpa using hdir, by simpa using hexec⟩
    · rintro ⟨rfl, hshort, e', he, hdir, hexec⟩
      cases he
      simp [hdir, hexec, Nat.not_lt.2 hshort]

theorem walk_cons (name : String) (d : Location) :
    (name :: d).reverse.foldlM t.advance [] = (do
      let here ← d.reverse.foldlM t.advance []
      t.advance here name) := by
  rw [List.reverse_cons, List.foldlM_append]
  congr
  funext here
  simp

theorem Reaches.get? (h : t.Reaches l) :
    ∃ e, t.get? l = some e ∧ e.isDirectory = true ∧ e.isExecutable = true := by
  cases l with
  | nil => exact ⟨Entry.root, rfl, rfl, by decide⟩
  | cons name above => exact h.2.2

theorem Reaches.walk (h : t.Reaches l) (named : Named l) : l.reverse.foldlM t.advance [] = .ok l := by
  induction l with
  | nil => rfl
  | cons name above ih =>
    obtain ⟨hname, habove⟩ := named_cons.1 named
    rw [walk_cons, ih h.1 habove]
    exact (advance_eq_ok_iff habove hname).2 ⟨rfl, h.2.1, h.1.get?⟩

theorem reaches_of_walk (named : Named l) (h : l.reverse.foldlM t.advance [] = .ok l)
    (hget : ∃ e, t.get? l = some e ∧ e.isDirectory = true ∧ e.isExecutable = true) : t.Reaches l := by
  induction l with
  | nil => trivial
  | cons name above ih =>
    obtain ⟨hname, habove⟩ := named_cons.1 named
    rw [walk_cons] at h
    cases hfirst : above.reverse.foldlM t.advance [] with
    | error fault =>
      rw [hfirst] at h
      cases h
    | ok here =>
      have hhere : here = above := by
        rw [eq_foldl_of_foldlM hfirst, foldl_reverse habove, List.append_nil]
      subst hhere
      rw [hfirst] at h
      obtain ⟨-, hshort, hdir⟩ := (advance_eq_ok_iff habove hname).1 h
      exact ⟨ih habove hfirst hdir, hshort, hget⟩

theorem Reaches.keeps (h : t.Reaches l) (hkeeps : Keeps t u) : u.Reaches l := by
  induction l with
  | nil => trivial
  | cons name above ih =>
    obtain ⟨habove, hshort, e, hget, hdir, hexec⟩ := h
    exact ⟨ih habove, hshort, e, hkeeps.directory hget hdir, hdir, hexec⟩

theorem Reaches.accessible (h : t.Reaches l) : t.Accessible l := by
  induction l with
  | nil => trivial
  | cons name above ih =>
    obtain ⟨habove, hshort, e, hget, hdir, hexec⟩ := h
    refine ⟨ih habove, hshort, ?_⟩
    rw [hget]
    exact ⟨hdir, hexec⟩

theorem holder_pathText_iff (plain : t.Plain) (named : Named (name :: d)) {found : Location × String} :
    t.holder (pathText (name :: d)) = .ok found ↔
      found = (d, name) ∧ pathFault? (pathText (name :: d)) = none ∧ t.Reaches d ∧
        name.utf8ByteSize ≤ maxName := by
  obtain ⟨-, hd⟩ := named_cons.1 named
  obtain ⟨d', last⟩ := found
  rw [holder_eq_ok_iff plain, steps_pathText named, List.reverse_cons, List.dropLast_concat,
    List.getLast?_concat, Option.getD_some, start_of_absolute (isAbsolute_pathText _)]
  constructor
  · rintro ⟨hpath, rfl, hwalk, e, hget, hdir, hexec, hshort⟩
    have hplace : d' = d := by
      rw [eq_foldl_of_foldlM hwalk, foldl_reverse hd, List.append_nil]
    subst hplace
    exact ⟨rfl, hpath, reaches_of_walk hd hwalk ⟨e, hget, hdir, hexec⟩, Nat.not_lt.1 hshort⟩
  · rintro ⟨hfound, hpath, hreaches, hshort⟩
    cases hfound
    obtain ⟨e, hget, hdir, hexec⟩ := hreaches.get?
    exact ⟨hpath, rfl, hreaches.walk hd, e, hget, hdir, hexec, Nat.not_lt.2 hshort⟩

theorem Accessible.walk (h : t.Accessible l) (named : Named l) :
    t.Reaches l ∨ l.reverse.foldlM t.advance [] = .error .notFound ∨
      l.reverse.foldlM t.advance [] = .ok l ∧ t.get? l = none := by
  induction l with
  | nil => exact .inl trivial
  | cons name above ih =>
    obtain ⟨hname, habove⟩ := named_cons.1 named
    obtain ⟨hacc, hshort, hhere⟩ := h
    rw [walk_cons]
    rcases ih hacc habove with hreaches | herror | ⟨hok, hnone⟩
    · have hstep := (advance_eq_ok_iff habove hname).2 ⟨rfl, hshort, hreaches.get?⟩
      rw [hreaches.walk habove]
      cases hget : t.get? (name :: above) with
      | some e =>
        rw [hget] at hhere
        exact .inl ⟨hreaches, hshort, e, hget, hhere.1, hhere.2⟩
      | none => exact .inr (.inr ⟨hstep, rfl⟩)
    · rw [herror]
      exact .inr (.inl rfl)
    · rw [hok]
      right
      left
      change t.advance above name = .error .notFound
      unfold advance
      rw [hnone]
      simp [isGone_of_named habove]

theorem Accessible.holder_eq_notFound (h : t.Accessible d) (plain : t.Plain)
    (named : Named (name :: d)) (hpath : pathFault? (pathText (name :: d)) = none)
    (hmissing : ¬ t.Reaches d) : t.holder (pathText (name :: d)) = .error .notFound := by
  obtain ⟨-, hd⟩ := named_cons.1 named
  have hsteps : ∀ step ∈ d.reverse, step ≠ "/" := by
    rintro step hstep rfl
    exact (hd "/" (List.mem_reverse.1 hstep)).separate (by decide)
  unfold holder
  rw [hpath]
  dsimp only
  rw [steps_pathText named, List.reverse_cons, List.dropLast_concat,
    start_of_absolute (isAbsolute_pathText _), walk_eq_foldlM plain maxLinks hsteps]
  rcases h.walk hd with hreaches | herror | ⟨hok, hnone⟩
  · exact absurd hreaches hmissing
  · rw [herror]
  · rw [hok]
    dsimp only
    rw [hnone]

theorem exists_pathText_cons (d : Location) :
    ∃ front, front.isEmpty = false ∧ ∀ name, pathText (name :: d) = front ++ name := by
  by_cases hd : d = []
  · subst hd
    exact ⟨"/", rfl, pathText_singleton⟩
  · refine ⟨pathText d ++ "/", ?_, fun name => pathText_cons name hd⟩
    apply Path.isEmpty_of_isAbsolute
    rw [Path.isAbsolute_append _ (isEmpty_pathText d)]
    exact isAbsolute_pathText d

theorem pathFault?_above (h : pathFault? (pathText (name :: d)) = none) :
    pathFault? (pathText d) = none := by
  by_cases hd : d = []
  · subst hd
    decide +kernel
  · rw [pathText_cons name hd, String.append_assoc] at h
    exact pathFault?_of_append h (isEmpty_pathText d)

theorem pathFault?_dot (h : pathFault? (pathText (name :: d)) = none) (hname : name ≠ "") :
    pathFault? (pathText ("." :: d)) = none := by
  obtain ⟨front, hfront, htext⟩ := exists_pathText_cons d
  rw [htext] at h ⊢
  have hsize : name.utf8ByteSize ≠ 0 := by
    rwa [Ne, String.utf8ByteSize_eq_zero_iff]
  obtain ⟨-, hnul, hlong⟩ := pathFault?_eq_none_iff.1 h
  rw [String.toList_append, List.mem_append, not_or] at hnul
  rw [String.utf8ByteSize_append] at hlong
  refine pathFault?_eq_none_iff.2 ⟨by simp, by simp [hnul.1], ?_⟩
  have hdot : ".".utf8ByteSize = 1 := by decide
  rw [String.utf8ByteSize_append]
  omega

theorem find_pathText (plain : t.Plain) (named : Named l) (hpath : pathFault? (pathText l) = none)
    (h : t.Reaches l) : ∃ e, t.get? l = some e ∧ t.find (pathText l) true = .ok (l, e) ∧
      e.isDirectory = true := by
  obtain ⟨e, hget, hdir, -⟩ := h.get?
  have hwalk := h.walk named
  have hfollow : t.follow (pathText l) true = .ok l := by
    rw [follow_eq_ok_iff plain, steps_pathText named, start_of_absolute (isAbsolute_pathText l)]
    exact ⟨hpath, hwalk⟩
  exact ⟨e, hget, find_eq_ok_iff.2 ⟨hfollow, .inl ⟨hget, fun _ => hdir⟩⟩, hdir⟩

theorem isDirectory_pathText (plain : t.Plain) (named : Named l)
    (hpath : pathFault? (pathText l) = none) (h : t.Reaches l) : t.isDirectory (pathText l) = true := by
  obtain ⟨e, -, hfind, hdir⟩ := find_pathText plain named hpath h
  unfold FileTree.isDirectory
  rw [hfind]
  exact hdir

namespace Builds

theorem eq_or_made (h : Builds made places t u) (hl : l ∉ places) :
    u.get? l = t.get? l ∨ t.get? l = none ∧ Made t u l ∧ made l := by
  by_cases hsame : u.get? l = t.get? l
  · exact .inl hsame
  · obtain ⟨hmade, hnew⟩ := h.built hl hsame
    exact .inr ⟨h.get?_eq_none hl hsame, hnew, hmade⟩

theorem accessible_iff (h : Builds made places t u) (hl : ∀ other, other <:+ l → other ∉ places) :
    u.Accessible l ↔ t.Accessible l := by
  induction l with
  | nil => exact Iff.rfl
  | cons name above ih =>
    have habove := List.suffix_cons name above
    refine and_congr (ih fun other hother => hl other (hother.trans habove)) (and_congr_right' ?_)
    rcases h.eq_or_made (hl _ (List.suffix_refl _)) with heq | ⟨hnone, hnew, -⟩
    · rw [heq]
      cases t.get? (name :: above) with
      | some e => exact Iff.rfl
      | none =>
        rcases h.eq_or_made (hl _ habove) with heq' | ⟨hnone', hnew', -⟩
        · rw [heq']
        · rw [hnone']
          exact ⟨fun _ => nofun, fun _ e hget => hnew'.isWritable hget⟩
    · obtain ⟨e, e', hget, -, hget', hdir', -⟩ := hnew.entry
      rw [hnone, hget]
      refine ⟨fun _ other hother => ?_, fun _ => ⟨hnew.isDirectory hget, hnew.isExecutable hget⟩⟩
      -- a directory has been made here, so the one above could be changed
      rcases h.eq_or_made (hl _ habove) with heq' | ⟨hnone', -⟩
      · have hsame : e' = other := by
          rw [← heq'] at hother
          exact Option.some.inj (hget'.symm.trans hother)
        exact hnew.writable hother (hsame ▸ hdir')
      · rw [hnone'] at hother
        cases hother

theorem admits_iff (h : Builds made places t u) (hl : ∀ other, other <:+ name :: d → other ∉ places)
    (hnew : ¬ made (name :: d)) : u.Admits name d ↔ t.Admits name d := by
  have habove := List.suffix_cons name d
  have hacc := h.accessible_iff fun other hother => hl other (hother.trans habove)
  have hsame : u.get? (name :: d) = t.get? (name :: d) := by
    rcases h.eq_or_made (hl _ (List.suffix_refl _)) with heq | ⟨-, -, hmade⟩
    · exact heq
    · exact absurd hmade hnew
  constructor
  · rintro ⟨haccess, hshort, hwritable, hfree⟩
    rw [hsame] at hfree
    refine ⟨hacc.1 haccess, hshort, fun e hget => ?_, hfree⟩
    rcases h.eq_or_made (hl _ habove) with heq | ⟨hnone, -⟩
    · exact hwritable e (heq.trans hget)
    · rw [hnone] at hget
      cases hget
  · rintro ⟨haccess, hshort, hwritable, hfree⟩
    rw [← hsame] at hfree
    refine ⟨hacc.2 haccess, hshort, fun e hget => ?_, hfree⟩
    rcases h.eq_or_made (hl _ habove) with heq | ⟨-, hmade, -⟩
    · exact hwritable e (heq.symm.trans hget)
    · exact hmade.isWritable hget

end Builds

theorem not_suffix_cons (name : String) (d : Location) : ∀ other, other <:+ d → other ∉ [name :: d] := by
  intro other hother hmem
  have := hother.length_le
  rw [List.mem_singleton.1 hmem, List.length_cons] at this
  omega

theorem makeDirectory_of_reaches (plain : t.Plain) (named : Named (name :: d))
    (hpath : pathFault? (pathText (name :: d)) = none) (h : t.Reaches d)
    (hacc : t.Accessible (name :: d)) :
    (∃ u, Disk.makeDirectory (pathText (name :: d)) t = .ok () u ∧ u.Reaches (name :: d)) ∨
      Disk.makeDirectory (pathText (name :: d)) t = .error .alreadyExists t ∧
        t.isDirectory (pathText (name :: d)) = true ∧ t.Reaches (name :: d) := by
  obtain ⟨hname, -⟩ := named_cons.1 named
  obtain ⟨-, hshort, hhere⟩ := hacc
  have hholder := (holder_pathText_iff plain named).2 ⟨rfl, hpath, h, hshort⟩
  have hmake := Disk.makeDirectoryAs_of_holder 0o755 hholder hname.ne_here hname.ne_up
  cases hget : t.get? (name :: d) with
  | some e =>
    rw [hget] at hmake hhere
    have hreaches : t.Reaches (name :: d) := ⟨h, hshort, e, hget, hhere.1, hhere.2⟩
    exact .inr ⟨hmake, isDirectory_pathText plain named hpath hreaches, hreaches⟩
  | none =>
    obtain ⟨above, habove, -⟩ := h.get?
    rw [hget] at hhere
    rw [hget, habove] at hmake
    dsimp only at hmake
    rw [if_pos (hhere above habove)] at hmake
    have hbuilds := Disk.makeDirectory_builds plain hmake
    obtain ⟨-, hnew⟩ := hbuilds.built (l := name :: d) List.not_mem_nil (by
      rw [hget, get?_create _ _ _ _ _ (List.cons_ne_nil _ _), if_pos rfl]
      nofun)
    obtain ⟨e, _, hget', -⟩ := hnew.entry
    exact .inl ⟨_, hmake, h.keeps hbuilds.toKeeps, hshort, e, hget', hnew.isDirectory hget',
      hnew.isExecutable hget'⟩

theorem makeDirectory_root (plain : t.Plain) :
    Disk.makeDirectory (pathText []) t = .error .alreadyExists t := by
  have hholder : t.holder (pathText []) = .ok ([], ".") :=
    (holder_eq_ok_iff plain).2 ⟨by decide +kernel, rfl, rfl, Entry.root, rfl, rfl, by decide, by decide⟩
  unfold Disk.makeDirectory Disk.makeDirectoryAs
  rw [Work.bind_of_ok (Disk.ask_of_ok hholder)]
  rfl

theorem createDirectories_of_accessible (plain : t.Plain) (named : Named d)
    (hpath : pathFault? (pathText d) = none) (h : t.Accessible d) :
    ∃ u, Disk.createDirectories (pathText d) t = .ok () u ∧ u.Reaches d := by
  induction d with
  | nil =>
    have hdir := isDirectory_pathText plain named hpath (show t.Reaches [] from trivial)
    refine ⟨t, ?_, trivial⟩
    unfold Disk.createDirectories
    rw [Disk.makeDirectories_cons (isEmpty_pathText []), makeDirectory_root plain]
    dsimp only
    rw [if_pos hdir]
  | cons name above ih =>
    obtain ⟨-, habove⟩ := named_cons.1 named
    have hmakes : Disk.createDirectories (pathText (name :: above)) =
        Disk.makeDirectories (pathText (name :: above) :: pathText above ::
          Path.parents (pathText above)) := by
      unfold Disk.createDirectories
      rw [parents_pathText named]
    rw [hmakes, Disk.makeDirectories_cons (isEmpty_pathText _)]
    by_cases hreaches : t.Reaches above
    · rcases makeDirectory_of_reaches plain named hpath hreaches h with
        ⟨u, hmake, hu⟩ | ⟨hmake, hdir, ht⟩
      · rw [hmake]
        exact ⟨u, rfl, hu⟩
      · rw [hmake]
        dsimp only
        rw [if_pos hdir]
        exact ⟨t, rfl, ht⟩
    · -- the directories above are made first, and the place is then as accessible as before
      have hmissing : Disk.makeDirectory (pathText (name :: above)) t = .error .notFound t :=
        Work.bind_of_error (Disk.ask_of_error (h.1.holder_eq_notFound plain named hpath hreaches))
      obtain ⟨v, hfirst, hv⟩ := ih habove (pathFault?_above hpath) h.1
      have hbuilds := Disk.createDirectories_builds plain (pathText above)
      rw [hfirst, Work.left_ok] at hbuilds
      have plain' := hbuilds.plain plain
      have hacc : v.Accessible (name :: above) :=
        (hbuilds.accessible_iff fun _ _ => List.not_mem_nil).2 h
      unfold Disk.createDirectories at hfirst
      rw [hmissing]
      dsimp only
      rw [hfirst]
      dsimp only
      rcases makeDirectory_of_reaches plain' named hpath hv hacc with
        ⟨u, hmake, hu⟩ | ⟨hmake, hdir, hv'⟩
      · rw [hmake]
        exact ⟨u, rfl, hu⟩
      · rw [hmake]
        dsimp only
        rw [if_pos hdir]
        exact ⟨v, rfl, hv'⟩

theorem find_dot (plain : t.Plain) (named : Named d) (hpath : pathFault? (pathText ("." :: d)) = none)
    (h : t.Reaches d) : ∃ e, t.find (Path.join (pathText d) ".") true = .ok (d, e) := by
  obtain ⟨e, hget, hdir, hexec⟩ := h.get?
  have habs : Path.isAbsolute (Path.join (pathText d) ".") = true :=
    Path.isAbsolute_join _ (isAbsolute_pathText d)
  have hfollow : t.follow (Path.join (pathText d) ".") true = .ok d := by
    rw [follow_eq_ok_iff plain, start_of_absolute habs, Path.steps_join _ rfl, steps_pathText named,
      List.foldlM_append, h.walk named, join_pathText named (by decide)]
    refine ⟨hpath, ?_⟩
    have hstep : t.advance d "." = .ok d := by
      have hshort : ¬ maxName < ".".utf8ByteSize := by decide
      unfold advance
      rw [hget]
      simp [hdir, hexec, hshort, stepFrom]
    change (t.advance d ".").bind (fun here => .ok here) = .ok d
    rw [hstep]
    rfl
  exact ⟨e, find_eq_ok_iff.2 ⟨hfollow, .inl ⟨hget, fun _ => hdir⟩⟩⟩

theorem replaceFile_of_admits (plain : t.Plain) (named : Named (name :: d))
    (hpath : pathFault? (pathText (name :: d)) = none) (h : t.Admits name d) (content : ByteArray) :
    ∃ u, Disk.replaceFile (pathText (name :: d)) content t = .ok () u := by
  obtain ⟨hname, hd⟩ := named_cons.1 named
  obtain ⟨u, hcreate, hreaches⟩ :=
    createDirectories_of_accessible plain hd (pathFault?_above hpath) h.accessible
  have hbuilds := Disk.createDirectories_builds plain (pathText d)
  rw [hcreate, Work.left_ok] at hbuilds
  have plain' := hbuilds.plain plain
  obtain ⟨e, hget, hdir, -⟩ := hreaches.get?
  have hwritable : e.isWritable = true := by
    rcases hbuilds.eq_or_made (l := d) List.not_mem_nil with heq | ⟨-, hnew, -⟩
    · exact h.writable e (heq.symm.trans hget)
    · exact hnew.isWritable hget
  have hchange : u.mayChange d = true := (mayChange_eq hget).trans hwritable
  obtain ⟨_, hfind⟩ := find_dot plain' hd (pathFault?_dot hpath hname.nonempty) hreaches
  have htemporary := Disk.createTemporary_of_find content hfind hchange
  have hdraft := confinedTo_draft u d content
  have hholder := hdraft.toKeeps.holder plain' (hdraft.plain plain')
    ((holder_pathText_iff plain' named).2 ⟨rfl, hpath, hreaches, h.short⟩)
  have hchange' : (u.draft d content).mayChange d = true :=
    (hdraft.mayChange hget hdir).trans hchange
  -- only directories above the place have been made
  have hfree : (u.draft d content).kind? (name :: d) ≠ some .directory := by
    unfold kind?
    rw [get?_draft]
    split
    · nofun
    · rcases hbuilds.eq_or_made (l := name :: d) List.not_mem_nil with heq | ⟨-, -, hleads⟩
      · rw [heq]
        intro hdir
        obtain ⟨e, hget, hkind⟩ := Option.map_eq_some_iff.1 hdir
        have := h.free e hget
        simp [Entry.isDirectory, hkind] at this
      · rw [← ancestors_pathText named] at hleads
        exact absurd (List.mem_singleton_self _)
          (not_suffix_cons name d _ (suffix_of_leads named hleads))
  have hsource := get?_draft u d (Disk.freshName u d :: d) content
  rw [if_pos rfl] at hsource
  have hleaves : (u.draft d content).mayChange (Disk.freshName u d :: d).tail = true := hchange'
  obtain ⟨v, hrename⟩ : ∃ v, Disk.renameFile (Disk.freshName u d :: d) (pathText (name :: d))
      (u.draft d content) = .ok () v :=
    ⟨_, Disk.renameFile_of_holder hholder hname.ne_here hname.ne_up
      (namesDirectory_pathText named (List.cons_ne_nil _ _)) hleaves hchange' hfree hsource⟩
  refine ⟨v, ?_⟩
  unfold Disk.replaceFile Path.parent?
  rw [parents_pathText named]
  dsimp only [List.head?_cons]
  rw [Work.bind_of_ok hcreate, Work.bind_of_ok htemporary]
  exact Disk.keepTemporary_of_ok hrename

theorem admits_of_replaceFile (plain : t.Plain) (named : Named (name :: d))
    (h : Disk.replaceFile (pathText (name :: d)) content t = .ok () u) :
    pathFault? (pathText (name :: d)) = none ∧ t.Admits name d := by
  obtain ⟨hbuilds, d', last, e, hholder, -, -, -, hat, -, -, hchange⟩ :=
    Disk.replaceFile_ok_builds plain h
  rw [locate_pathText t named] at hbuilds
  obtain ⟨hfound, hpath, hreaches, hshort⟩ :=
    (holder_pathText_iff (hbuilds.plain plain) named).1 hholder
  cases hfound
  refine ⟨hpath, (hbuilds.accessible_iff (not_suffix_cons name d)).1 hreaches.accessible, hshort, ?_, ?_⟩
  · intro above habove
    rcases hbuilds.eq_or_made (not_suffix_cons name d d (List.suffix_refl d)) with heq | ⟨hnone, -⟩
    · rwa [mayChange_eq (heq.trans habove)] at hchange
    · rw [hnone] at habove
      cases habove
  · intro old hget
    exact hbuilds.toKeeps.isDirectory_eq_false hget hat.get? hat.isFile

theorem exists_replaceFile_iff (plain : t.Plain) (named : Named (name :: d)) :
    (∃ u, Disk.replaceFile (pathText (name :: d)) content t = .ok () u) ↔
      pathFault? (pathText (name :: d)) = none ∧ t.Admits name d := by
  constructor
  · rintro ⟨u, h⟩
    exact admits_of_replaceFile plain named h
  · rintro ⟨hpath, h⟩
    exact replaceFile_of_admits plain named hpath h content

end FileTree

end DartBundle
