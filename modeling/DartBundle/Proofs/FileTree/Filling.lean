import DartBundle.Proofs.FileTree.Admission
import Mathlib.Data.List.Nodup
/-!
This module contains what becomes of a tree when files are put at a few locations, one after the other. Which
file goes where decides what the tree is like in the end, and the order of them does not.
-/

namespace DartBundle

namespace FileTree

variable {t u v : FileTree} {l d l' d' : Location} {name name' : String} {content content' : ByteArray}
  {places : List Location} {files others : List (Location × ByteArray)} {fault : FileFault}

structure IsTree (t : FileTree) : Prop where
  plain : t.Plain
  above : ∀ {l e}, t.get? l = some e → ∃ e', t.get? l.tail = some e' ∧ e'.isDirectory = true

theorem isTree_empty : FileTree.empty.IsTree where
  plain := plain_empty
  above := by
    intro l e hget
    cases l with
    | nil => exact ⟨Entry.root, rfl, rfl⟩
    | cons name above => cases hget

theorem IsTree.create {kind : Entry.Kind} {mode : Nat} (tree : t.IsTree) (hget : t.get? l = none)
    (habove : ∃ e, t.get? l.tail = some e ∧ e.isDirectory = true)
    (hkind : ∀ target, kind ≠ .link target) : (t.create l kind mode).IsTree := by
  have hl : l ≠ [] := by
    rintro rfl
    cases hget
  have hkept {other : Location} (h : ∃ e, t.get? other = some e ∧ e.isDirectory = true) :
      ∃ e, (t.create l kind mode).get? other = some e ∧ e.isDirectory = true := by
    obtain ⟨e, hother, hdir⟩ := h
    refine ⟨e, ?_, hdir⟩
    rw [get?_create _ _ _ _ _ hl, if_neg, hother]
    rintro rfl
    cases hget.symm.trans hother
  refine ⟨tree.plain.create hl hkind, ?_⟩
  intro other e hother
  rw [get?_create _ _ _ _ _ hl] at hother
  split at hother
  · next heq =>
    rw [heq]
    exact hkept habove
  · exact hkept (tree.above hother)

theorem holds_of_suffix {holds : Location → Prop} (hup : ∀ name above, holds (name :: above) → holds above)
    (h : holds l) (hsuffix : d <:+ l) : holds d := by
  induction l with
  | nil =>
    rw [List.suffix_nil.1 hsuffix]
    exact h
  | cons name above ih =>
    rcases List.suffix_cons_iff.1 hsuffix with rfl | habove
    · exact h
    · exact ih (hup name above h) habove

theorem Reaches.of_suffix (h : t.Reaches l) (hsuffix : d <:+ l) : t.Reaches d :=
  holds_of_suffix (fun _ _ hreaches => hreaches.1) h hsuffix

theorem Accessible.of_suffix (h : t.Accessible l) (hsuffix : d <:+ l) : t.Accessible d :=
  holds_of_suffix (fun _ _ haccessible => haccessible.1) h hsuffix

theorem Accessible.isDirectory {e : Entry} (h : t.Accessible l) (hget : t.get? l = some e) :
    e.isDirectory = true := by
  cases l with
  | nil =>
    cases hget
    rfl
  | cons name above =>
    obtain ⟨-, -, hhere⟩ := h
    rw [hget] at hhere
    exact hhere.1

theorem Reaches.back (h : u.Reaches l) (keeps : Keeps t u) (tree : t.IsTree)
    (hdir : ∃ e, t.get? l = some e ∧ e.isDirectory = true) : t.Reaches l := by
  induction l with
  | nil => trivial
  | cons name above ih =>
    obtain ⟨habove, hshort, e, hget, -, hexec⟩ := h
    obtain ⟨e', hget', hdir'⟩ := hdir
    rw [keeps.directory hget' hdir', Option.some.injEq] at hget
    subst hget
    exact ⟨ih habove (tree.above hget'), hshort, e', hget', hdir', hexec⟩

theorem read_pathText_iff (plain : t.Plain) (named : Named (name :: d)) :
    t.read (pathText (name :: d)) = .ok content ↔
      pathFault? (pathText (name :: d)) = none ∧ t.Reaches d ∧ name.utf8ByteSize ≤ maxName ∧
        ∃ e, t.get? (name :: d) = some e ∧ e.isReadable = true ∧ e.kind = .file content := by
  obtain ⟨hname, -⟩ := named_cons.1 named
  rw [read_eq_ok_iff]
  constructor
  · rintro ⟨l, e, hat, hreadable, hkind⟩
    obtain ⟨d', last, hholder⟩ := holder_of_follow plain (isAbsolute_pathText _) hat.follow
    obtain ⟨hfound, hpath, hreaches, hshort⟩ := (holder_pathText_iff plain named).1 hholder
    cases hfound
    have hfollow := follow_of_name (b := true) plain hholder hname.ne_here hname.ne_up
    rw [hat.follow, Except.ok.injEq] at hfollow
    subst hfollow
    exact ⟨hpath, hreaches, hshort, e, hat.get?, hreadable, hkind⟩
  · rintro ⟨hpath, hreaches, hshort, e, hget, hreadable, hkind⟩
    have hholder := (holder_pathText_iff plain named).2 ⟨rfl, hpath, hreaches, hshort⟩
    have hfollow := follow_of_name (b := true) plain hholder hname.ne_here hname.ne_up
    exact ⟨name :: d, e, ⟨hfollow, hget, isFile_of_kind hkind,
      namesDirectory_pathText named (List.cons_ne_nil _ _)⟩, hreadable, hkind⟩

theorem Keeps.read_back (h : Keeps t u) (tree : t.IsTree) (plain : u.Plain) (named : Named (name :: d))
    (hsame : u.get? (name :: d) = t.get? (name :: d))
    (hread : u.read (pathText (name :: d)) = .ok content) :
    t.read (pathText (name :: d)) = .ok content := by
  obtain ⟨hpath, hreaches, hshort, e, hget, hfile⟩ := (read_pathText_iff plain named).1 hread
  rw [hsame] at hget
  exact (read_pathText_iff tree.plain named).2
    ⟨hpath, hreaches.back h tree (tree.above hget), hshort, e, hget, hfile⟩

theorem ConfinedTo.read_iff (h : ConfinedTo places t u) (tree : t.IsTree) (named : Named (name :: d))
    (hl : name :: d ∉ places) :
    u.read (pathText (name :: d)) = .ok content ↔ t.read (pathText (name :: d)) = .ok content := by
  have plain := h.plain tree.plain
  constructor
  · intro hread
    obtain ⟨-, -, -, e, hget, -, hkind⟩ := (read_pathText_iff plain named).1 hread
    have hget' := h.get?_of_file hl hget (isFile_of_kind hkind)
    exact h.toKeeps.read_back tree plain named (hget.trans hget'.symm) hread
  · apply h.read tree.plain
    rwa [locate_pathText t named]

def IsPlace (l : Location) : Prop :=
  Named l ∧ l ≠ []

theorem IsPlace.exists_cons (h : IsPlace l) : ∃ name d, l = name :: d ∧ Named (name :: d) := by
  obtain ⟨named, hne⟩ := h
  obtain ⟨name, d, rfl⟩ := List.exists_cons_of_ne_nil hne
  exact ⟨name, d, rfl, named⟩

theorem exists_of_mem_map_fst (h : l ∈ files.map Prod.fst) : ∃ content, (l, content) ∈ files := by
  obtain ⟨⟨place, content⟩, hmem, rfl⟩ := List.mem_map.1 h
  exact ⟨content, hmem⟩

def Above (files : List (Location × ByteArray)) (l : Location) : Prop :=
  ∃ f ∈ files, l <:+ f.1 ∧ l ≠ f.1

structure Put (u : FileTree) (l : Location) (content : ByteArray) : Prop where
  entry : ∃ e, u.get? l = some e ∧ e.kind = .file content ∧ e.mode = 0o600
  reaches : u.Reaches l.tail

/--
Whether a tree has come from another one by putting some of a few files where they belong, and by making
directories above them.
-/
structure MayFill (files : List (Location × ByteArray)) (t u : FileTree) : Prop extends Keeps t u where
  change : ∀ l, u.get? l = t.get? l ∨ (∃ content, (l, content) ∈ files ∧ Put u l content) ∨
    t.get? l = none ∧ Made t u l ∧ Above files l

namespace MayFill

theorem refl (files : List (Location × ByteArray)) (t : FileTree) : MayFill files t t where
  toKeeps := Keeps.refl t
  change := fun _ => .inl rfl

theorem trans (h : MayFill files t u) (h' : MayFill files u v) : MayFill files t v where
  toKeeps := h.toKeeps.trans h'.toKeeps
  change := by
    intro l
    rcases h'.change l with heq | hput | ⟨hnone, hmade, habove⟩
    · rw [heq]
      rcases h.change l with heq' | ⟨content, hmem, ⟨e, hget, hfile⟩, hreaches⟩ | ⟨hnone, hmade, habove⟩
      · exact .inl heq'
      · exact .inr (.inl ⟨content, hmem, ⟨e, heq.trans hget, hfile⟩, hreaches.keeps h'.toKeeps⟩)
      · exact .inr (.inr ⟨hnone, hmade.keeps h'.toKeeps, habove⟩)
    · exact .inr (.inl hput)
    · rcases h.change l with heq | ⟨_, -, ⟨e, hget, -⟩, -⟩ | ⟨-, hmade', -⟩
      · exact .inr (.inr ⟨heq.symm.trans hnone, hmade.of_keeps h.toKeeps, habove⟩)
      · cases hnone.symm.trans hget
      · obtain ⟨e, _, hget, -⟩ := hmade'.entry
        cases hnone.symm.trans hget

theorem mono (h : MayFill files t u) (hsub : files ⊆ others) : MayFill others t u where
  toKeeps := h.toKeeps
  change := by
    intro l
    rcases h.change l with heq | ⟨content, hmem, hput⟩ | ⟨hnone, hmade, f, hmem, hf⟩
    · exact .inl heq
    · exact .inr (.inl ⟨content, hsub hmem, hput⟩)
    · exact .inr (.inr ⟨hnone, hmade, f, hsub hmem, hf⟩)

theorem builds (h : MayFill files t u) : Builds (Above files) (files.map Prod.fst) t u where
  toKeeps := h.toKeeps
  elsewhere := by
    intro l hl
    rcases h.change l with heq | ⟨content, hmem, -⟩ | ⟨hnone, hmade, -⟩
    · exact .inl heq
    · exact absurd (List.mem_map_of_mem (f := Prod.fst) hmem) hl
    · obtain ⟨e, _, hget, -⟩ := hmade.entry
      exact .inr ⟨hnone, e, hget, hmade.isDirectory hget⟩
  link := by
    intro l e hget hlink
    rcases h.change l with heq | ⟨content, -, ⟨e', hget', hkind, -⟩, -⟩ | ⟨-, hmade, -⟩
    · rw [← heq, hget]
    · rw [hget, Option.some.injEq] at hget'
      subst hget'
      simp [Entry.isLink, hkind] at hlink
    · have hdir := hmade.isDirectory hget
      unfold Entry.isDirectory at hdir
      unfold Entry.isLink at hlink
      simp_all
  built := by
    intro l hl hne
    rcases h.change l with heq | ⟨content, hmem, -⟩ | ⟨-, hmade, habove⟩
    · exact absurd heq hne
    · exact absurd (List.mem_map_of_mem (f := Prod.fst) hmem) hl
    · exact ⟨habove, hmade⟩

theorem isTree (h : MayFill files t u) (tree : t.IsTree) : u.IsTree where
  plain := h.builds.plain tree.plain
  above := by
    intro l e hget
    rcases h.change l with heq | ⟨content, -, -, hreaches⟩ | ⟨-, hmade, -⟩
    · rw [heq] at hget
      obtain ⟨e', hget', hdir⟩ := tree.above hget
      exact ⟨e', h.directory hget' hdir, hdir⟩
    · obtain ⟨e', hget', hdir, -⟩ := hreaches.get?
      exact ⟨e', hget', hdir⟩
    · obtain ⟨_, e', -, -, hget', hdir, -⟩ := hmade.entry
      exact ⟨e', hget', hdir⟩

theorem contentAt (h : MayFill files t u) (l : Location) :
    u.contentAt l = t.contentAt l ∨ ∃ content, (l, content) ∈ files ∧ u.contentAt l = some content := by
  rcases h.change l with heq | ⟨content, hmem, ⟨e, hget, hkind, -⟩, -⟩ | ⟨hnone, hmade, -⟩
  · exact .inl (contentAt_congr heq)
  · refine .inr ⟨content, hmem, ?_⟩
    unfold FileTree.contentAt
    rw [hget]
    simp [hkind]
  · obtain ⟨e, _, hget, hkind, -⟩ := hmade.entry
    left
    unfold FileTree.contentAt
    rw [hget, hnone]
    simp [hkind]

end MayFill

structure Fills (files : List (Location × ByteArray)) (t u : FileTree) : Prop extends MayFill files t u where
  read : ∀ {l content}, (l, content) ∈ files → u.read (pathText l) = .ok content
  kept : ∀ {l content}, (l, content) ∈ files → t.read (pathText l) = .ok content → u.get? l = t.get? l

theorem Builds.mayFill (named : Named (name :: d))
    (h : Builds (t.Leads (Path.ancestors (pathText (name :: d)))) places t u)
    (hplaces : ∀ l ∈ places, l = name :: d ∧ Put u (name :: d) content) :
    MayFill [(name :: d, content)] t u where
  toKeeps := h.toKeeps
  change := by
    intro l
    by_cases hl : l ∈ places
    · obtain ⟨rfl, hput⟩ := hplaces l hl
      exact .inr (.inl ⟨content, List.mem_singleton_self _, hput⟩)
    · rcases h.eq_or_made hl with heq | ⟨hnone, hmade, hleads⟩
      · exact .inl heq
      · have hsuffix := suffix_of_leads named hleads
        refine .inr (.inr ⟨hnone, hmade, _, List.mem_singleton_self _,
          hsuffix.trans (List.suffix_cons name d), ?_⟩)
        exact fun heq => not_suffix_cons name d l hsuffix (List.mem_singleton.2 heq)

theorem mayFill_of_replaceFile_error (plain : t.Plain) (named : Named (name :: d))
    (h : Disk.replaceFile (pathText (name :: d)) content t = .error fault u) :
    MayFill [(name :: d, content)] t u :=
  (Disk.replaceFile_error_builds plain h).mayFill named nofun

theorem fills_of_replaceFile (plain : t.Plain) (named : Named (name :: d))
    (hmissing : t.read (pathText (name :: d)) ≠ .ok content)
    (h : Disk.replaceFile (pathText (name :: d)) content t = .ok () u) :
    Fills [(name :: d, content)] t u := by
  obtain ⟨hbuilds, d', last, e, hholder, -, -, -, hat, hkind, hmode, -⟩ :=
    Disk.replaceFile_ok_builds plain h
  rw [locate_pathText t named] at hbuilds
  obtain ⟨hfound, -, hreaches, -⟩ := (holder_pathText_iff (hbuilds.plain plain) named).1 hholder
  cases hfound
  refine ⟨hbuilds.mayFill named ?_, ?_, ?_⟩
  · intro l hl
    exact ⟨List.mem_singleton.1 hl, ⟨e, hat.get?, hkind, hmode⟩, hreaches⟩
  · intro l bytes hmem
    obtain ⟨rfl, rfl⟩ := Prod.mk.inj (List.mem_singleton.1 hmem)
    exact (writes_replaceFile plain h).read
  · intro l bytes hmem hread
    obtain ⟨rfl, rfl⟩ := Prod.mk.inj (List.mem_singleton.1 hmem)
    exact absurd hread hmissing

namespace Fills

theorem nil (t : FileTree) : Fills [] t t where
  toMayFill := .refl [] t
  read := nofun
  kept := nofun

theorem of_read (h : t.read (pathText l) = .ok content) : Fills [(l, content)] t t where
  toMayFill := .refl _ t
  read := by
    intro l bytes hmem
    obtain ⟨rfl, rfl⟩ := Prod.mk.inj (List.mem_singleton.1 hmem)
    exact h
  kept := fun _ _ => rfl

theorem get?_other (h : Fills files t u) (tree : t.IsTree) (named : IsPlace l)
    (hl : l ∉ files.map Prod.fst) (hread : t.read (pathText l) = .ok content) :
    u.get? l = t.get? l := by
  obtain ⟨name, d, rfl, hnamed⟩ := named.exists_cons
  obtain ⟨-, -, -, e, hget, -⟩ := (read_pathText_iff tree.plain hnamed).1 hread
  rw [hget]
  exact h.toMayFill.builds.get?_file hl hget

theorem read_iff (h : Fills files t u) (tree : t.IsTree) (named : IsPlace l) (hl : l ∉ files.map Prod.fst) :
    u.read (pathText l) = .ok content ↔ t.read (pathText l) = .ok content := by
  obtain ⟨name, d, rfl, hnamed⟩ := named.exists_cons
  exact h.toMayFill.builds.read_iff tree hnamed hl

theorem trans (h : Fills files t u) (h' : Fills others u v) (tree : t.IsTree)
    (hfiles : ∀ f ∈ files, IsPlace f.1) (hothers : ∀ f ∈ others, IsPlace f.1)
    (hne : (files.map Prod.fst).Disjoint (others.map Prod.fst)) : Fills (files ++ others) t v := by
  have tree' := h.toMayFill.isTree tree
  have hout {l content} (hmem : (l, content) ∈ files) : l ∉ others.map Prod.fst :=
    fun hother => hne (List.mem_map_of_mem (f := Prod.fst) hmem) hother
  have hout' {l content} (hmem : (l, content) ∈ others) : l ∉ files.map Prod.fst :=
    fun hfile => hne hfile (List.mem_map_of_mem (f := Prod.fst) hmem)
  refine ⟨(h.toMayFill.mono (List.subset_append_left _ _)).trans
    (h'.toMayFill.mono (List.subset_append_right _ _)), ?_, ?_⟩
  · intro l content hmem
    rcases List.mem_append.1 hmem with hfile | hother
    · exact (h'.read_iff tree' (hfiles _ hfile) (hout hfile)).2 (h.read hfile)
    · exact h'.read hother
  · intro l content hmem hread
    rcases List.mem_append.1 hmem with hfile | hother
    · rw [h'.get?_other tree' (hfiles _ hfile) (hout hfile) (h.read hfile), h.kept hfile hread]
    · rw [h'.kept hother ((h.read_iff tree (hothers _ hother) (hout' hother)).2 hread),
        h.get?_other tree (hothers _ hother) (hout' hother) hread]

theorem get?_of_mem (h : Fills files t u) (tree : t.IsTree) (named : IsPlace l) (hmem : (l, content) ∈ files)
    (hmissing : t.read (pathText l) ≠ .ok content) :
    ∃ e, u.get? l = some e ∧ e.kind = .file content ∧ e.mode = 0o600 := by
  obtain ⟨name, d, rfl, hnamed⟩ := named.exists_cons
  have plain := h.toMayFill.builds.plain tree.plain
  have hread := h.read hmem
  obtain ⟨-, -, -, e, hget, -, hkind⟩ := (read_pathText_iff plain hnamed).1 hread
  refine ⟨e, hget, hkind, ?_⟩
  rcases h.change (name :: d) with heq | ⟨_, -, ⟨e', hget', -, hmode⟩, -⟩ | ⟨-, hmade, -⟩
  · exact absurd (h.toKeeps.read_back tree plain hnamed heq hread) hmissing
  · rw [hget, Option.some.injEq] at hget'
    rw [hget', hmode]
  · have hdir := hmade.isDirectory hget
    simp [Entry.isDirectory, hkind] at hdir

theorem exists_above (h : Fills files t u) (tree : t.IsTree) (hfiles : ∀ f ∈ files, IsPlace f.1)
    (habove : Above files l) : ∃ e, u.get? l = some e := by
  obtain ⟨f, hmem, hsuffix, hne⟩ := habove
  obtain ⟨name, d, hf, hnamed⟩ := (hfiles f hmem).exists_cons
  have hread := h.read hmem
  rw [hf] at hread hsuffix hne
  obtain ⟨-, hreaches, -⟩ :=
    (read_pathText_iff (h.toMayFill.builds.plain tree.plain) hnamed).1 hread
  rcases List.suffix_cons_iff.1 hsuffix with heq | hd
  · exact absurd heq hne
  · obtain ⟨e, hget, -⟩ := (hreaches.of_suffix hd).get?
    exact ⟨e, hget⟩

end Fills

def shape (t : FileTree) (l : Location) : Option (Entry.Kind × Nat) :=
  (t.get? l).map fun e => (e.kind, e.mode)

theorem shape_of_get? {e : Entry} (h : t.get? l = some e) : t.shape l = some (e.kind, e.mode) := by
  unfold shape
  rw [h]
  rfl

theorem Fills.shape_eq (h : Fills files t u) (h' : Fills others t v) (tree : t.IsTree)
    (hfiles : ∀ f ∈ files, IsPlace f.1) (hsame : ∀ f, f ∈ others ↔ f ∈ files) (l : Location) :
    u.shape l = v.shape l := by
  have hothers : ∀ f ∈ others, IsPlace f.1 := fun f hf => hfiles f ((hsame f).1 hf)
  have habove : ∀ l, Above others l ↔ Above files l := by
    intro l
    unfold Above
    simp only [hsame]
  induction l with
  | nil => rfl
  | cons name above ih =>
    by_cases hl : name :: above ∈ files.map Prod.fst
    · obtain ⟨content, hmem⟩ := exists_of_mem_map_fst hl
      have hplace := hfiles _ hmem
      have hmem' := (hsame _).2 hmem
      by_cases hread : t.read (pathText (name :: above)) = .ok content
      · unfold shape
        rw [h.kept hmem hread, h'.kept hmem' hread]
      · obtain ⟨e, hget, hkind, hmode⟩ := h.get?_of_mem tree hplace hmem hread
        obtain ⟨e', hget', hkind', hmode'⟩ := h'.get?_of_mem tree hplace hmem' hread
        rw [shape_of_get? hget, shape_of_get? hget', hkind, hmode, hkind', hmode']
    · have hl' : name :: above ∉ others.map Prod.fst := by
        intro hmem
        obtain ⟨content, hother⟩ := exists_of_mem_map_fst hmem
        exact hl (List.mem_map_of_mem (f := Prod.fst) ((hsame _).1 hother))
      rcases h.toMayFill.builds.eq_or_made hl with heq | ⟨hnone, hmade, hu⟩
      · rcases h'.toMayFill.builds.eq_or_made hl' with heq' | ⟨hnone, -, hv⟩
        · unfold shape
          rw [heq, heq']
        · obtain ⟨e, hget⟩ := h.exists_above tree hfiles ((habove _).1 hv)
          rw [heq, hnone] at hget
          cases hget
      · rcases h'.toMayFill.builds.eq_or_made hl' with heq' | ⟨-, hmade', -⟩
        · obtain ⟨e, hget⟩ := h'.exists_above tree hothers ((habove _).2 hu)
          rw [heq', hnone] at hget
          cases hget
        · -- the permissions of a new directory come from the one above
          obtain ⟨e, a, hget, hkind, ha, -, hmode⟩ := hmade.entry
          obtain ⟨e', a', hget', hkind', ha', -, hmode'⟩ := hmade'.entry
          rw [List.tail_cons] at ha ha'
          rw [shape_of_get? ha, shape_of_get? ha', Option.some.injEq, Prod.mk.injEq] at ih
          rw [shape_of_get? hget, shape_of_get? hget', hkind, hkind', hmode, hmode', ih.2]

def Accepts (t : FileTree) : Location → Prop
  | [] => False
  | name :: above => t.Admits name above

def CanHold (t : FileTree) (l : Location) (content : ByteArray) : Prop :=
  t.read (pathText l) = .ok content ∨ pathFault? (pathText l) = none ∧ t.Accepts l

namespace CanHold

theorem accessible (h : t.CanHold (name :: d) content) (plain : t.Plain) (named : Named (name :: d)) :
    t.Accessible d := by
  rcases h with hread | ⟨-, hadmits⟩
  · obtain ⟨-, hreaches, -⟩ := (read_pathText_iff plain named).1 hread
    exact hreaches.accessible
  · exact hadmits.accessible

theorem isDirectory_eq_false {e : Entry} (h : t.CanHold (name :: d) content) (plain : t.Plain)
    (named : Named (name :: d)) (hget : t.get? (name :: d) = some e) : e.isDirectory = false := by
  rcases h with hread | ⟨-, hadmits⟩
  · obtain ⟨-, -, -, e', hget', -, hkind⟩ := (read_pathText_iff plain named).1 hread
    rw [hget, Option.some.injEq] at hget'
    subst hget'
    exact isDirectory_of_isFile (isFile_of_kind hkind)
  · exact hadmits.free e hget

end CanHold

def Apart (l l' : Location) : Prop :=
  ¬ l <:+ l' ∧ ¬ l' <:+ l

theorem Apart.symm (h : Apart l l') : Apart l' l :=
  And.symm h

theorem apart_of_read (plain : t.Plain) (named : Named (name :: d)) (named' : Named (name' :: d'))
    (hne : name' :: d' ≠ name :: d) (hread : t.read (pathText (name :: d)) = .ok content)
    (hcan : t.CanHold (name' :: d') content') : Apart (name :: d) (name' :: d') := by
  obtain ⟨-, hreaches, -, e, hget, -, hkind⟩ := (read_pathText_iff plain named).1 hread
  have hfile := isDirectory_of_isFile (isFile_of_kind hkind)
  constructor
  · intro hsuffix
    rcases List.suffix_cons_iff.1 hsuffix with heq | hbelow
    · exact hne heq.symm
    · have hdir := ((hcan.accessible plain named').of_suffix hbelow).isDirectory hget
      rw [hfile] at hdir
      cases hdir
  · intro hsuffix
    rcases List.suffix_cons_iff.1 hsuffix with heq | habove
    · exact hne heq
    · obtain ⟨e', hget', hdir, -⟩ := (hreaches.of_suffix habove).get?
      rw [hcan.isDirectory_eq_false plain named' hget'] at hdir
      cases hdir

theorem Fills.canHold_iff (h : Fills [(l, content)] t u) (tree : t.IsTree) (named : IsPlace l)
    (named' : IsPlace l') (hne : l' ≠ l) : u.CanHold l' content' ↔ t.CanHold l' content' ∧ Apart l l' := by
  have hread : u.read (pathText l') = .ok content' ↔ t.read (pathText l') = .ok content' :=
    h.read_iff tree named' (by simpa using hne)
  have hown := h.read List.mem_cons_self
  have plain := h.toMayFill.builds.plain tree.plain
  obtain ⟨name, d, rfl, hnamed⟩ := named.exists_cons
  obtain ⟨name', d', rfl, hnamed'⟩ := named'.exists_cons
  have hadmits (hapart : Apart (name :: d) (name' :: d')) :
      u.Admits name' d' ↔ t.Admits name' d' := by
    apply h.toMayFill.builds.admits_iff
    · intro other hother hmem
      rw [List.map_singleton, List.mem_singleton] at hmem
      rw [hmem] at hother
      exact hapart.1 hother
    · rintro ⟨f, hf, hsuffix, -⟩
      rw [List.mem_singleton.1 hf] at hsuffix
      exact hapart.2 hsuffix
  constructor
  · intro hcan
    have hapart := apart_of_read plain hnamed hnamed' hne hown hcan
    refine ⟨?_, hapart⟩
    rcases hcan with hheld | ⟨hpath, hroom⟩
    · exact .inl (hread.1 hheld)
    · exact .inr ⟨hpath, (hadmits hapart).1 hroom⟩
  · rintro ⟨hheld | ⟨hpath, hroom⟩, hapart⟩
    · exact .inl (hread.2 hheld)
    · exact .inr ⟨hpath, (hadmits hapart).2 hroom⟩

theorem exists_replaceFile_iff_accepts (content : ByteArray) (plain : t.Plain) (named : IsPlace l) :
    (∃ u, Disk.replaceFile (pathText l) content t = .ok () u) ↔
      pathFault? (pathText l) = none ∧ t.Accepts l := by
  obtain ⟨name, d, rfl, hnamed⟩ := named.exists_cons
  exact exists_replaceFile_iff plain hnamed

end FileTree

end DartBundle
