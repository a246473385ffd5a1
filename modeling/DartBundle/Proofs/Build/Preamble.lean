import DartBundle.Proofs.Build.Publication
/-!
This module contains that files are replaced as a whole or not at all, whatever is in the way, and that a
preamble therefore never damages the file that it is put in front of.
-/

namespace DartBundle

namespace FileTree

variable {t u : FileTree} {path q : String} {here l : Location} {step : String} {b : Bool} {e : Entry}
  {content : ByteArray} {fault : FileFault}

theorem directory_of_advance (h : t.advance here step = .ok l) :
    (∃ e, t.get? here = some e ∧ e.isDirectory = true) ∨ t.get? here = none ∧ isGone here = true := by
  unfold advance at h
  cases hget : t.get? here with
  | none =>
    rw [hget] at h
    dsimp only at h
    split at h
    · next hgone =>
      rw [Bool.and_eq_true] at hgone
      exact .inr ⟨rfl, hgone.1⟩
    · cases h
  | some e =>
    rw [hget] at h
    dsimp only at h
    split at h
    · cases h
    · next hdir => exact .inl ⟨e, rfl, by simpa using hdir⟩

theorem find_ancestor (plain : t.Plain) (h : t.follow path b = .ok l) (hmem : q ∈ Path.ancestors path)
    (hq : q.isEmpty = false) :
    ∃ e, t.find q true = .ok (t.locate q, e) ∧ e.isDirectory = true := by
  obtain ⟨added, rest, rfl, hsteps, hrest⟩ := Path.exists_steps_of_mem_ancestors hmem hq
  obtain ⟨hpath, hwalk⟩ := (follow_eq_ok_iff plain).1 h
  have hstart : t.start (q ++ added) = t.start q := by
    unfold start
    rw [Path.isAbsolute_append added hq]
  obtain ⟨step, others, rfl⟩ := List.exists_cons_of_ne_nil hrest
  rw [hstart, hsteps] at hwalk
  obtain ⟨place, hfirst, hwalk⟩ := foldlM_append_eq_ok_iff.1 hwalk
  obtain ⟨next, hnext, -⟩ := foldlM_cons_eq_ok_iff.1 hwalk
  have hfollow : t.follow q true = .ok place :=
    (follow_eq_ok_iff plain).2 ⟨pathFault?_of_append hpath hq, hfirst⟩
  rw [locate_eq plain hfollow]
  rcases directory_of_advance hnext with ⟨e, hget, hdir⟩ | ⟨hnone, hgone⟩
  · exact ⟨e, find_eq_ok_iff.2 ⟨hfollow, .inl ⟨hget, fun _ => hdir⟩⟩, hdir⟩
  · exact ⟨Entry.root, find_eq_ok_iff.2 ⟨hfollow, .inr ⟨hnone, hgone, rfl⟩⟩, rfl⟩

theorem isDirectory_ancestor (plain : t.Plain) (h : t.follow path b = .ok l)
    (hmem : q ∈ Path.ancestors path) (hq : q.isEmpty = false) : t.isDirectory q = true := by
  obtain ⟨e, hfind, hdir⟩ := find_ancestor plain h hmem hq
  unfold FileTree.isDirectory
  rw [hfind]
  exact hdir

structure NewAncestor (t u : FileTree) (path : String) (l : Location) : Prop where
  fresh : t.get? l = none
  leads : t.Leads (Path.ancestors path) l
  directory : ∃ e, u.get? l = some e ∧ e.isDirectory = true

theorem Builds.unchanged_or_new {places : List Location}
    (h : Builds (t.Leads (Path.ancestors path)) places t u) (hl : l ∉ places) :
    u.get? l = t.get? l ∨ NewAncestor t u path l := by
  by_cases hsame : u.get? l = t.get? l
  · exact .inl hsame
  · right
    rcases h.elsewhere hl with heq | ⟨hnone, hdir⟩
    · exact absurd heq hsame
    · exact ⟨hnone, (h.built hl hsame).1, hdir⟩

theorem Builds.unchanged {places : List Location} (plain : t.Plain)
    (h : Builds (t.Leads (Path.ancestors path)) places t u) (hfollow : t.follow path b = .ok l)
    {other : Location} (hother : other ∉ places) : u.get? other = t.get? other := by
  rcases h.unchanged_or_new hother with heq | ⟨hnone, ⟨q, hmem, hq, hplace⟩, e, hsome, -⟩
  · exact heq
  · -- what is missing above a path that can be followed has been taken away before
    obtain ⟨_, hfind, -⟩ := find_ancestor plain hfollow hmem hq
    rw [hplace] at hfind
    rcases (find_eq_ok_iff.1 hfind).2 with ⟨hget, -⟩ | ⟨-, hgone, -⟩
    · rw [hnone] at hget
      cases hget
    · exact h.gone hgone

theorem replaceFile_ok_whole (plain : t.Plain) (h : Disk.replaceFile path content t = .ok () u) :
    u.current = t.current ∧
      (∀ e, t.get? (t.locate path) = some e → e.isFile = true) ∧
      (∃ e, u.FileAt path (t.locate path) e ∧ e.kind = .file content) ∧
      u.read path = .ok content ∧
      (∀ q ∈ Path.ancestors path, q.isEmpty = false → u.isDirectory q = true) ∧
      ∀ l, l ≠ t.locate path → u.get? l = t.get? l ∨ NewAncestor t u path l := by
  obtain ⟨hbuilds, d, last, e, -, -, -, hlocate, hat, hkind, -⟩ := Disk.replaceFile_ok_builds plain h
  have plain' := hbuilds.plain plain
  refine ⟨hbuilds.current, ?_, ⟨e, hlocate ▸ hat, hkind⟩, (writes_replaceFile plain h).read, ?_, ?_⟩
  · intro old hget
    rw [hlocate] at hget
    have hdir := hbuilds.toKeeps.isDirectory_eq_false hget hat.get? hat.isFile
    have hlink := plain _ _ hget
    cases hold : old.kind with
    | file content => exact isFile_of_kind hold
    | link target => simp [Entry.isLink, hold] at hlink
    | directory => simp [Entry.isDirectory, hold] at hdir
  · intro q hmem hq
    exact isDirectory_ancestor plain' hat.follow hmem hq
  · intro l hl
    exact hbuilds.unchanged_or_new (by simpa using hl)

theorem replaceFile_error_whole (plain : t.Plain)
    (h : Disk.replaceFile path content t = .error fault u) :
    u.current = t.current ∧ ∀ l, u.get? l = t.get? l ∨ NewAncestor t u path l := by
  have hbuilds := Disk.replaceFile_error_builds plain h
  exact ⟨hbuilds.current, fun l => hbuilds.unchanged_or_new List.not_mem_nil⟩

theorem injectPreamble_ok_whole {preamble : String} (plain : t.Plain)
    (h : injectPreamble path preamble t = .ok () u) :
    ∃ content, t.read path = .ok content ∧ u.read path = .ok (preamble.toUTF8 ++ content) ∧
      ∀ l, l ≠ t.locate path → u.get? l = t.get? l := by
  obtain ⟨content, hread, hreplace⟩ := injectPreamble_ok h
  obtain ⟨l, e, hat, -⟩ := read_eq_ok_iff.1 hread
  refine ⟨content, hread, (writes_replaceFile plain hreplace).read, ?_⟩
  intro other hother
  exact (Disk.replaceFile_ok_builds plain hreplace).1.unchanged plain hat.follow (by simpa using hother)

theorem injectPreamble_error_whole {preamble : String} {cause : Error} (plain : t.Plain)
    (h : injectPreamble path preamble t = .error cause u) : ∀ l, u.get? l = t.get? l := by
  intro other
  obtain ⟨fault, -, hdisk⟩ := FileWork.ofDisk_eq_error_iff.1 h
  rcases Work.bind_eq_error_iff.1 hdisk with hasked | ⟨content, v, hasked, hreplace⟩
  · obtain ⟨-, rfl⟩ := Disk.ask_eq_error_iff.1 hasked
    rfl
  · obtain ⟨hread, rfl⟩ := Disk.ask_eq_ok_iff.1 hasked
    obtain ⟨l, e, hat, -⟩ := read_eq_ok_iff.1 hread
    exact (Disk.replaceFile_error_builds plain hreplace).unchanged plain hat.follow List.not_mem_nil

theorem replaceFile_all_or_nothing (plain : t.Plain) (path : String) (content : ByteArray)
    (preamble : String) :
    (∀ u, Disk.replaceFile path content t = .ok () u →
        u.current = t.current ∧
        (∀ e, t.get? (t.locate path) = some e → e.isFile = true) ∧
        (∃ e, u.FileAt path (t.locate path) e ∧ e.kind = .file content) ∧
        u.read path = .ok content ∧
        (∀ q ∈ Path.ancestors path, q.isEmpty = false → u.isDirectory q = true) ∧
        ∀ l, l ≠ t.locate path → u.get? l = t.get? l ∨ NewAncestor t u path l) ∧
      (∀ fault u, Disk.replaceFile path content t = .error fault u →
        u.current = t.current ∧ ∀ l, u.get? l = t.get? l ∨ NewAncestor t u path l) ∧
      (∀ u, injectPreamble path preamble t = .ok () u →
        ∃ content, t.read path = .ok content ∧ u.read path = .ok (preamble.toUTF8 ++ content) ∧
          ∀ l, l ≠ t.locate path → u.get? l = t.get? l) ∧
      ∀ cause u, injectPreamble path preamble t = .error cause u → ∀ l, u.get? l = t.get? l :=
  ⟨fun _ => replaceFile_ok_whole plain, fun _ _ => replaceFile_error_whole plain,
    fun _ => injectPreamble_ok_whole plain, fun _ _ => injectPreamble_error_whole plain⟩

def single : FileTree :=
  FileTree.empty.create ["x"] (.file ⟨#[66]⟩) 0o644

theorem single_plain : single.Plain :=
  plain_empty.create (List.cons_ne_nil _ _) (by simp)

theorem single_replaced_whole :
    (∃ fault u, Disk.replaceFile "/x/y/z" ⟨#[67]⟩ single = .error fault u ∧
        u.get? ["x"] = single.get? ["x"]) ∧
      (∃ u, Disk.replaceFile "/a/b" ⟨#[67]⟩ single = .ok () u ∧ u.read "/a/b" = .ok ⟨#[67]⟩ ∧
        u.isDirectory "/a" = true) ∧
      ∃ u, injectPreamble "/x" "P" single = .ok () u ∧
        u.read "/x" = .ok ("P".toUTF8 ++ ⟨#[66]⟩) := by
  have hblocked : ∃ fault, Disk.replaceFile "/x/y/z" ⟨#[67]⟩ single = .error fault _ :=
    Work.exists_error_of_answer? (by decide +kernel)
  obtain ⟨fault, hblocked⟩ := hblocked
  have hmade : Disk.replaceFile "/a/b" ⟨#[67]⟩ single = .ok () _ :=
    Work.eq_ok_of_answer? (by decide +kernel)
  have hinjected : injectPreamble "/x" "P" single = .ok () _ :=
    Work.eq_ok_of_answer? (by decide +kernel)
  refine ⟨⟨fault, _, hblocked, ?_⟩, ⟨_, hmade, ?_⟩, ⟨_, hinjected, ?_⟩⟩
  · obtain ⟨-, hkept⟩ :=
      (replaceFile_all_or_nothing single_plain "/x/y/z" ⟨#[67]⟩ "").2.1 fault _ hblocked
    rcases hkept ["x"] with heq | ⟨hnone, -⟩
    · exact heq
    · cases hnone
  · obtain ⟨-, -, -, hread, hdirs, -⟩ :=
      (replaceFile_all_or_nothing single_plain "/a/b" ⟨#[67]⟩ "").1 _ hmade
    exact ⟨hread, hdirs "/a" (by decide +kernel) (by decide)⟩
  · obtain ⟨content, hread, hnew, -⟩ :=
      (replaceFile_all_or_nothing single_plain "/x" .empty "P").2.2.1 _ hinjected
    have hold : single.read "/x" = .ok ⟨#[66]⟩ := eq_ok_of_toOption (by decide +kernel)
    rw [hold, Except.ok.injEq] at hread
    rw [hread]
    exact hnew

end FileTree

end DartBundle
