import DartBundle.Proofs.FileTree.Change
import DartBundle.Proofs.Parents
/-!
This module contains what the operations on file trees change: each of them ends in one of a few ways,
and leaves all as it was but for the place it works on and for directories that were missing.
-/

namespace DartBundle

namespace Disk

open FileTree

variable {t u : FileTree} {path last : String} {d l source : Location} {e : Entry} {mode : Nat}
  {content : ByteArray} {fault : FileFault}

theorem ask_eq_ok_iff {α : Type} {question : FileTree → Except FileFault α} {answer : α} :
    ask question t = .ok answer u ↔ question t = .ok answer ∧ t = u := by
  unfold ask
  cases question t <;> simp

theorem ask_eq_error_iff {α : Type} {question : FileTree → Except FileFault α} :
    ask question t = .error fault u ↔ question t = .error fault ∧ t = u := by
  unfold ask
  cases question t <;> simp

theorem ask_of_ok {α : Type} {question : FileTree → Except FileFault α} {answer : α}
    (h : question t = .ok answer) : ask question t = .ok answer t :=
  ask_eq_ok_iff.2 ⟨h, rfl⟩

theorem ask_of_error {α : Type} {question : FileTree → Except FileFault α}
    (h : question t = .error fault) : ask question t = .error fault t :=
  ask_eq_error_iff.2 ⟨h, rfl⟩

theorem needWritable_of_mayChange (h : t.mayChange d = true) : needWritable d t = .ok () t := by
  unfold needWritable
  rw [Work.get_bind]
  simp [h, Work.pure_run]

theorem needWritable_of_not (h : t.mayChange d = false) :
    needWritable d t = .error .permissionDenied t := by
  unfold needWritable
  rw [Work.get_bind]
  simp [h, Work.throw_run]

theorem makeDirectoryAs_of_holder (mode : Nat) (h : t.holder path = .ok (d, last)) (hdot : last ≠ ".")
    (hup : last ≠ "..") :
    makeDirectoryAs mode path t =
      match t.get? (last :: d), t.get? d with
      | some _, _ => .error .alreadyExists t
      | none, some e =>
        if e.isWritable then .ok () (t.create (last :: d) .directory (mode ||| (e.mode &&& 0o2000)))
        else .error .permissionDenied t
      | none, none => .error .permissionDenied t := by
  unfold makeDirectoryAs
  rw [Work.bind_of_ok (ask_of_ok h)]
  dsimp only
  rw [if_neg (by simp [hdot, hup]), Work.get_bind]
  cases t.get? (last :: d) with
  | some e => rfl
  | none =>
    dsimp only
    cases habove : t.get? d with
    | none =>
      have hchange : t.mayChange d = false := by
        unfold mayChange
        rw [habove]
        rfl
      exact Work.bind_of_error (needWritable_of_not hchange)
    | some e =>
      have hchange := mayChange_eq habove
      dsimp only
      cases hwritable : e.isWritable with
      | true => exact Work.bind_of_ok (needWritable_of_mayChange (hchange.trans hwritable))
      | false => exact Work.bind_of_error (needWritable_of_not (hchange.trans hwritable))

theorem makeDirectoryAs_cases (mode : Nat) (path : String) (t : FileTree) :
    (∃ fault, makeDirectoryAs mode path t = .error fault t) ∨
      ∃ d last e, t.holder path = .ok (d, last) ∧ last ≠ "." ∧ last ≠ ".." ∧
        t.get? (last :: d) = none ∧ t.get? d = some e ∧ e.isWritable = true ∧
          makeDirectoryAs mode path t =
            .ok () (t.create (last :: d) .directory (mode ||| (e.mode &&& 0o2000))) := by
  cases hholder : t.holder path with
  | error fault => exact .inl ⟨fault, Work.bind_of_error (ask_of_error hholder)⟩
  | ok found =>
    obtain ⟨d, last⟩ := found
    by_cases hdots : last = "." ∨ last = ".."
    · refine .inl ⟨.alreadyExists, ?_⟩
      unfold makeDirectoryAs
      rw [Work.bind_of_ok (ask_of_ok hholder)]
      dsimp only
      rw [if_pos (by simpa using hdots)]
      exact Work.throw_bind
    · rw [not_or] at hdots
      have hmake := makeDirectoryAs_of_holder mode hholder hdots.1 hdots.2
      cases hget : t.get? (last :: d) with
      | some e =>
        rw [hget] at hmake
        exact .inl ⟨_, hmake⟩
      | none =>
        rw [hget] at hmake
        cases habove : t.get? d with
        | none =>
          rw [habove] at hmake
          exact .inl ⟨_, hmake⟩
        | some e =>
          rw [habove] at hmake
          dsimp only at hmake
          split at hmake
          · next hwritable =>
            exact .inr ⟨d, last, e, rfl, hdots.1, hdots.2, hget, habove, hwritable, hmake⟩
          · exact .inl ⟨_, hmake⟩

theorem remove_cases (path : String) (t : FileTree) :
    (∃ fault, remove path t = .error fault t ∧
      (fault = .notFound → t.holder path = .error .notFound ∨
        ∃ d last, t.holder path = .ok (d, last) ∧ last ≠ "." ∧ last ≠ ".." ∧
          t.get? (last :: d) = none)) ∨
      ∃ d last e, t.holder path = .ok (d, last) ∧ last ≠ "." ∧ last ≠ ".." ∧
        t.get? (last :: d) = some e ∧ e.isDirectory = false ∧
          remove path t = .ok () (t.vacate (last :: d)) := by
  unfold remove
  cases hholder : t.holder path with
  | error fault =>
    refine .inl ⟨fault, Work.bind_of_error (ask_of_error hholder), ?_⟩
    rintro rfl
    exact .inl rfl
  | ok found =>
    obtain ⟨d, last⟩ := found
    rw [Work.bind_of_ok (ask_of_ok hholder)]
    dsimp only
    split
    · exact .inl ⟨_, Work.throw_bind, nofun⟩
    · next hname =>
      simp only [Bool.or_eq_true, decide_eq_true_eq, not_or] at hname
      rw [Work.get_bind]
      cases hget : t.get? (last :: d) with
      | none =>
        refine .inl ⟨.notFound, Work.throw_run, ?_⟩
        intro _
        exact .inr ⟨d, last, rfl, hname.1, hname.2, hget⟩
      | some e =>
        dsimp only
        split
        · refine .inl ⟨_, Work.throw_bind, ?_⟩
          split <;> nofun
        · cases hwrite : t.mayChange d with
          | false => exact .inl ⟨_, Work.bind_of_error (needWritable_of_not hwrite), nofun⟩
          | true =>
            rw [Work.bind_of_ok (needWritable_of_mayChange hwrite)]
            split
            · exact .inl ⟨_, Work.throw_bind, nofun⟩
            · next hdir =>
              refine .inr ⟨d, last, e, rfl, hname.1, hname.2, hget, ?_, Work.set_run⟩
              simpa using hdir

theorem remove_of_holder_error (h : t.holder path = .error fault) :
    remove path t = .error fault t := by
  unfold remove
  exact Work.bind_of_error (ask_of_error h)

theorem renameFile_cases (source : Location) (path : String) (t : FileTree) :
    (∃ fault, renameFile source path t = .error fault t) ∨
      ∃ d last e, t.holder path = .ok (d, last) ∧ last ≠ "." ∧ last ≠ ".." ∧
        Path.namesDirectory path = false ∧ t.kind? (last :: d) ≠ some .directory ∧
          t.mayChange d = true ∧ t.get? source = some e ∧
            renameFile source path t = .ok () ((t.vacate source).place (last :: d) e) := by
  unfold renameFile
  cases hholder : t.holder path with
  | error fault => exact .inl ⟨fault, Work.bind_of_error (ask_of_error hholder)⟩
  | ok found =>
    obtain ⟨d, last⟩ := found
    rw [Work.bind_of_ok (ask_of_ok hholder)]
    dsimp only
    split
    · exact .inl ⟨_, Work.throw_bind⟩
    · next hname =>
      simp only [Bool.or_eq_true, decide_eq_true_eq, not_or] at hname
      split
      · exact .inl ⟨_, Work.throw_bind⟩
      · next hpath =>
        rw [Work.get_bind]
        cases hsource : t.mayChange source.tail with
        | false => exact .inl ⟨_, Work.bind_of_error (needWritable_of_not hsource)⟩
        | true =>
          rw [Work.bind_of_ok (needWritable_of_mayChange hsource)]
          cases hwrite : t.mayChange d with
          | false => exact .inl ⟨_, Work.bind_of_error (needWritable_of_not hwrite)⟩
          | true =>
            rw [Work.bind_of_ok (needWritable_of_mayChange hwrite)]
            split
            · exact .inl ⟨_, Work.throw_bind⟩
            · next hdir =>
              cases hget : t.get? source with
              | none => exact .inl ⟨_, Work.throw_run⟩
              | some e =>
                exact .inr ⟨d, last, e, rfl, hname.1, hname.2, by simpa using hpath, hdir, hwrite,
                  rfl, Work.set_run⟩

theorem renameFile_of_holder (h : t.holder path = .ok (d, last)) (hdot : last ≠ ".") (hup : last ≠ "..")
    (hname : Path.namesDirectory path = false) (hsource : t.mayChange source.tail = true)
    (hchange : t.mayChange d = true) (hdir : t.kind? (last :: d) ≠ some .directory)
    (hget : t.get? source = some e) :
    renameFile source path t = .ok () ((t.vacate source).place (last :: d) e) := by
  unfold renameFile
  rw [Work.bind_of_ok (ask_of_ok h)]
  dsimp only
  rw [if_neg (by simp [hdot, hup]), if_neg (by simp [hname]), Work.get_bind,
    Work.bind_of_ok (needWritable_of_mayChange hsource),
    Work.bind_of_ok (needWritable_of_mayChange hchange), if_neg hdir, hget]
  exact Work.set_run

theorem createTemporary_of_find (content : ByteArray) (h : t.find (Path.join path ".") true = .ok (d, e))
    (hchange : t.mayChange d = true) :
    createTemporary path content t = .ok (freshName t d :: d) (t.draft d content) := by
  unfold createTemporary
  rw [Work.bind_of_ok (ask_of_ok h)]
  dsimp only
  rw [Work.bind_of_ok (needWritable_of_mayChange hchange)]
  rfl

theorem createTemporary_cases (path : String) (content : ByteArray) (t : FileTree) :
    (∃ fault, createTemporary path content t = .error fault t) ∨
      ∃ d, createTemporary path content t = .ok (freshName t d :: d) (t.draft d content) := by
  cases hfind : t.find (Path.join path ".") true with
  | error fault => exact .inl ⟨fault, Work.bind_of_error (ask_of_error hfind)⟩
  | ok found =>
    obtain ⟨d, e⟩ := found
    cases hwrite : t.mayChange d with
    | false =>
      refine .inl ⟨.permissionDenied, ?_⟩
      unfold createTemporary
      rw [Work.bind_of_ok (ask_of_ok hfind)]
      exact Work.bind_of_error (needWritable_of_not hwrite)
    | true => exact .inr ⟨d, createTemporary_of_find content hfind hwrite⟩

theorem makeDirectory_error (h : makeDirectory path t = .error fault u) : u = t := by
  unfold makeDirectory at h
  rcases makeDirectoryAs_cases 0o755 path t with
    ⟨fault', hmake⟩ | ⟨_, _, _, _, _, _, _, _, _, hmake⟩
  · rw [hmake] at h
    cases h
    rfl
  · rw [hmake] at h
    cases h

theorem makeDirectory_builds (plain : t.Plain) (h : makeDirectory path t = .ok () u) :
    Builds (t.Leads [path]) [] t u := by
  unfold makeDirectory at h
  rcases makeDirectoryAs_cases 0o755 path t with
    ⟨fault, hmake⟩ | ⟨d, last, e, hholder, hdot, hup, hget, habove, hwritable, hmake⟩
  · rw [hmake] at h
    cases h
  rw [hmake] at h
  cases h
  obtain ⟨hpath, -, -, e', habove', hdir, -⟩ := (holder_eq_ok_iff plain).1 hholder
  rw [habove, Option.some.injEq] at habove'
  subst habove'
  refine (builds_create hget (isGone_of_holder plain hholder hdot) habove hdir hwritable).mono ?_
    (List.Subset.refl _)
  rintro l rfl
  refine ⟨path, List.mem_cons_self, ?_, locate_of_name plain hholder hdot hup⟩
  rw [← Bool.not_eq_true]
  intro hempty
  exact pathFault?_ne_none_of_empty hempty hpath

theorem makeDirectories_cons {path : String} {above : List String} (h : path.isEmpty = false) :
    makeDirectories (path :: above) t =
      match makeDirectory path t with
      | .ok _ t => .ok () t
      | .error .notFound t =>
        match makeDirectories above t with
        | .error fault t => .error fault t
        | .ok _ t =>
          match makeDirectory path t with
          | .ok _ t => .ok () t
          | .error fault t => if t.isDirectory path then .ok () t else .error fault t
      | .error fault t => if t.isDirectory path then .ok () t else .error fault t := by
  conv => lhs; unfold makeDirectories
  cases hempty : path.isEmpty with
  | true =>
    rw [h] at hempty
    cases hempty
  | false => rfl

theorem makeDirectories_builds (plain : t.Plain) (paths : List String) :
    Builds (t.Leads paths) [] t (Work.left (makeDirectories paths t)) := by
  induction paths with
  | nil => exact .refl _ _ _
  | cons path above ih =>
    cases hempty : path.isEmpty with
    | true =>
      unfold makeDirectories
      rw [hempty]
      exact .refl _ _ _
    | false =>
      have hfirst : ∀ l, t.Leads [path] l → t.Leads (path :: above) l :=
        fun l hl => hl.mono (by simp)
      have hothers : ∀ l, t.Leads above l → t.Leads (path :: above) l :=
        fun l hl => hl.mono (by simp)
      rw [makeDirectories_cons hempty]
      cases hmake : makeDirectory path t with
      | ok _ u => exact (makeDirectory_builds plain hmake).mono hfirst (List.Subset.refl _)
      | error fault u =>
        obtain rfl := makeDirectory_error hmake
        cases fault with
        | notFound =>
          -- the directory is tried once more when those above it are there
          dsimp only
          cases hrest : makeDirectories above u with
          | error fault v =>
            rw [hrest] at ih
            exact ih.mono hothers (List.Subset.refl _)
          | ok _ v =>
            rw [hrest, Work.left_ok] at ih
            have habove := ih.mono hothers (List.Subset.refl _)
            dsimp only
            cases hagain : makeDirectory path v with
            | ok _ w =>
              have hsecond := makeDirectory_builds (ih.plain plain) hagain
              rw [ih.toKeeps.leads] at hsecond
              exact habove.trans (hsecond.mono hfirst (List.Subset.refl _))
            | error fault w =>
              obtain rfl := makeDirectory_error hagain
              dsimp only
              rw [Work.left_ite]
              exact habove
        | _ =>
          dsimp only
          rw [Work.left_ite]
          exact .refl _ _ _

theorem createDirectories_builds (plain : t.Plain) (path : String) :
    Builds (t.Leads (path :: Path.parents path)) [] t (Work.left (createDirectories path t)) :=
  makeDirectories_builds plain _

theorem keepTemporary_of_ok (h : renameFile source path t = .ok () u) :
    keepTemporary source path t = .ok () u := by
  unfold keepTemporary
  rw [h]

theorem keepTemporary_of_error (h : renameFile source path t = .error fault u) :
    keepTemporary source path t = .error fault (u.vacate source) := by
  unfold keepTemporary
  rw [h]

theorem replaceFile_cases (plain : t.Plain) (path : String) (content : ByteArray) :
    (∃ fault u, replaceFile path content t = .error fault u ∧
        Builds (t.Leads (Path.ancestors path)) [] t u) ∨
      ∃ u d d' last e, Builds (t.Leads (Path.ancestors path)) [] t u ∧
        (u.draft d content).holder path = .ok (d', last) ∧ last ≠ "." ∧ last ≠ ".." ∧
          Path.namesDirectory path = false ∧
            (u.draft d content).kind? (last :: d') ≠ some .directory ∧
              (u.draft d content).mayChange d' = true ∧
                (u.draft d content).get? (freshName u d :: d) = some e ∧
                  replaceFile path content t = .ok ()
                    (((u.draft d content).vacate (freshName u d :: d)).place (last :: d') e) := by
  unfold replaceFile Path.ancestors
  cases hparent : Path.parent? path with
  | none => exact .inl ⟨_, t, rfl, .refl _ _ _⟩
  | some parent =>
    dsimp only
    have hdirs := createDirectories_builds plain parent
    cases hcreate : createDirectories parent t with
    | error fault u =>
      rw [hcreate] at hdirs
      exact .inl ⟨fault, u, Work.bind_of_error hcreate, hdirs⟩
    | ok _ u =>
      rw [hcreate, Work.left_ok] at hdirs
      rw [Work.bind_of_ok hcreate]
      rcases createTemporary_cases parent content u with ⟨fault, htemporary⟩ | ⟨d, htemporary⟩
      · exact .inl ⟨fault, u, Work.bind_of_error htemporary, hdirs⟩
      · rw [Work.bind_of_ok htemporary]
        rcases renameFile_cases (freshName u d :: d) path (u.draft d content) with
          ⟨fault, hrename⟩ |
          ⟨d', last, e, hholder, hdot, hup, hname, hdir, hchange, hsource, hrename⟩
        · refine .inl ⟨fault, _, ?_, hdirs.trans (.of_get?_eq ?_ (get?_vacate_draft u d · content))⟩
          · exact keepTemporary_of_error hrename
          · exact current_vacate_draft u d content
        · exact .inr ⟨u, d, d', last, e, hdirs, hholder, hdot, hup, hname, hdir, hchange, hsource,
            keepTemporary_of_ok hrename⟩

theorem replaceFile_error_builds (plain : t.Plain) (h : replaceFile path content t = .error fault u) :
    Builds (t.Leads (Path.ancestors path)) [] t u := by
  rcases replaceFile_cases plain path content with
    ⟨fault', v, hreplace, hbuilds⟩ | ⟨_, _, _, _, _, _, _, _, _, _, _, _, _, hreplace⟩
  · rw [hreplace] at h
    cases h
    exact hbuilds
  · rw [hreplace] at h
    cases h

theorem replaceFile_error (plain : t.Plain) (h : replaceFile path content t = .error fault u) :
    ConfinedTo [] t u :=
  (replaceFile_error_builds plain h).toConfinedTo

theorem place_draft_builds {made : Location → Prop} {d' : Location}
    (hgone : isGone (last :: d') = false)
    (hdir : (t.draft d content).kind? (last :: d') ≠ some .directory) (hlink : e.isLink = false) :
    Builds made [last :: d'] t
        (((t.draft d content).vacate (freshName t d :: d)).place (last :: d') e) ∧
      Keeps (t.draft d content)
        (((t.draft d content).vacate (freshName t d :: d)).place (last :: d') e) := by
  -- the path may even name the new file itself, whose place is empty by then
  have hcleared : ((t.draft d content).vacate (freshName t d :: d)).kind? (last :: d') ≠
      some .directory := by
    unfold kind? at hdir ⊢
    rw [get?_draft] at hdir
    rw [get?_vacate_draft]
    split at hdir
    · next heq =>
      rw [heq, get?_freshName]
      nofun
    · exact hdir
  have hplace := confinedTo_place (List.cons_ne_nil last d') hcleared hgone hlink
  have hvacate : Builds made [last :: d'] t ((t.draft d content).vacate (freshName t d :: d)) :=
    .of_get?_eq (current_vacate_draft t d content) (get?_vacate_draft t d · content)
  refine ⟨hvacate.trans ⟨hplace, ?_⟩, (keeps_vacate_draft t d content).trans hplace.toKeeps⟩
  intro l hl hne
  rw [get?_place _ _ _ _ (List.cons_ne_nil _ _), if_neg (by simpa using hl)] at hne
  exact absurd rfl hne

theorem replaceFile_ok_builds (plain : t.Plain) (h : replaceFile path content t = .ok () u) :
    Builds (t.Leads (Path.ancestors path)) [t.locate path] t u ∧
      ∃ d last e, u.holder path = .ok (d, last) ∧ last ≠ "." ∧ last ≠ ".." ∧
        t.locate path = last :: d ∧ u.FileAt path (last :: d) e ∧ e.kind = .file content ∧
          e.mode = 0o600 ∧ u.mayChange d = true := by
  rcases replaceFile_cases plain path content with ⟨fault, v, hreplace, -⟩ |
    ⟨v, d, d', last, e, hdirs, hholder, hdot, hup, hname, hdir, hchange, hsource, hreplace⟩
  · rw [hreplace] at h
    cases h
  rw [hreplace] at h
  cases h
  have plain' : v.Plain := hdirs.plain plain
  have plainDraft : (v.draft d content).Plain := (confinedTo_draft v d content).plain plain'
  have he : e.kind = .file content ∧ e.mode = 0o600 ∧ e.isLink = false := by
    rw [get?_draft, if_pos rfl] at hsource
    cases hsource
    exact ⟨rfl, rfl, rfl⟩
  have hgone := isGone_of_holder plainDraft hholder hdot
  obtain ⟨hplaced, hkeeps⟩ := place_draft_builds hgone hdir he.2.2
  have hbuilds := (hdirs.mono (fun _ hl => hl) (List.nil_subset _)).trans hplaced
  have plainEnd := hbuilds.plain plain
  have hholderEnd := hkeeps.holder plainDraft plainEnd hholder
  obtain ⟨-, -, -, above, habove, haboveDir, -⟩ := (holder_eq_ok_iff plainDraft).1 hholder
  have hlocate : t.locate path = last :: d' := by
    rw [← hbuilds.toKeeps.locate]
    exact locate_of_name plainEnd hholderEnd hdot hup
  rw [hlocate]
  refine ⟨hbuilds, d', last, e, hholderEnd, hdot, hup, rfl,
    ⟨follow_of_name plainEnd hholderEnd hdot hup, ?_, isFile_of_kind he.1, hname⟩, he.1, he.2.1, ?_⟩
  · rw [get?_place _ _ _ _ (List.cons_ne_nil _ _), if_pos rfl]
  · rwa [hkeeps.mayChange habove haboveDir]

theorem replaceFile_ok (plain : t.Plain) (h : replaceFile path content t = .ok () u) :
    ConfinedTo [t.locate path] t u ∧
      ∃ d last e, u.holder path = .ok (d, last) ∧ last ≠ "." ∧ last ≠ ".." ∧
        t.locate path = last :: d ∧ u.FileAt path (last :: d) e ∧ e.isReadable = true ∧
          e.kind = .file content := by
  obtain ⟨hbuilds, d, last, e, hholder, hdot, hup, hlocate, hat, hkind, hmode, -⟩ :=
    replaceFile_ok_builds plain h
  refine ⟨hbuilds.toConfinedTo, d, last, e, hholder, hdot, hup, hlocate, hat, ?_, hkind⟩
  simp [Entry.isReadable, hmode]

theorem remove_ok (plain : t.Plain) (h : remove path t = .ok () u) :
    ConfinedTo [t.locate path] t u ∧ Clears t u ∧
      ∃ d last, t.holder path = .ok (d, last) ∧ last ≠ "." ∧ last ≠ ".." ∧
        t.locate path = last :: d ∧ u.get? (last :: d) = none := by
  rcases remove_cases path t with
    ⟨fault, hremove, -⟩ | ⟨d, last, e, hholder, hdot, hup, hget, hdir, hremove⟩
  · rw [hremove] at h
    cases h
  rw [hremove] at h
  cases h
  have hgone := isGone_of_holder plain hholder hdot
  have hkind : t.kind? (last :: d) ≠ some .directory := by
    unfold kind?
    rw [hget, Option.map_some]
    simpa [Entry.isDirectory] using hdir
  rw [locate_of_name plain hholder hdot hup]
  refine ⟨confinedTo_vacate (List.cons_ne_nil _ _) hkind hgone,
    clears_vacate (List.cons_ne_nil _ _) hkind hgone, d, last, hholder, hdot, hup, rfl, ?_⟩
  rw [get?_vacate _ _ _ (List.cons_ne_nil _ _), if_pos rfl]

end Disk

namespace FileTree

variable {t u : FileTree} {path other : String} {content content' : ByteArray}
  {places : List Location}

theorem ConfinedTo.read (h : ConfinedTo places t u) (plain : t.Plain)
    (hother : t.locate other ∉ places) (hread : t.read other = .ok content) :
    u.read other = .ok content := by
  obtain ⟨l, e, hat, hreadable, hkind⟩ := read_eq_ok_iff.1 hread
  rw [locate_eq plain hat.follow] at hother
  have hget := h.get?_file hother hat.get?
  have hat' := h.toKeeps.fileAt plain (h.plain plain) hat hget hat.isFile
  exact read_eq_ok_iff.2 ⟨l, e, hat', hreadable, hkind⟩

theorem ConfinedTo.read_same (h : ConfinedTo places t u) (plain : t.Plain)
    (hsame : t.locate other = t.locate path) (hread : t.read other = .ok content)
    (hnew : u.read path = .ok content') : u.read other = .ok content' := by
  have plain' := h.plain plain
  obtain ⟨l, e, hat, -⟩ := read_eq_ok_iff.1 hread
  obtain ⟨l', e', hat', hreadable, hkind⟩ := read_eq_ok_iff.1 hnew
  have hl : l' = l := by
    rw [← locate_eq plain' hat'.follow, h.toKeeps.locate, ← hsame, locate_eq plain hat.follow]
  subst hl
  have hat'' := h.toKeeps.fileAt plain plain' hat hat'.get? hat'.isFile
  exact read_eq_ok_iff.2 ⟨l', e', hat'', hreadable, hkind⟩

structure Writes (path : String) (content : ByteArray) (t u : FileTree) : Prop where
  confined : ConfinedTo [t.locate path] t u
  read : u.read path = .ok content

theorem Writes.read_other (h : Writes path content t u) (plain : t.Plain)
    (hread : t.read other = .ok content') :
    u.read other = .ok (if t.locate other = t.locate path then content else content') := by
  split
  · next hsame => exact h.confined.read_same plain hsame hread h.read
  · next hother => exact h.confined.read plain (by simpa using hother) hread

theorem Clears.read_eq_notFound (h : Clears t u) (plain : t.Plain)
    (plain' : u.Plain) (habs : Path.isAbsolute path = true) (hread : t.read path = .ok content)
    (hget : u.get? (t.locate path) = none) : u.read path = .error .notFound := by
  obtain ⟨l, e, hat, -⟩ := read_eq_ok_iff.1 hread
  have hlocate := locate_eq plain hat.follow
  have hgone : isGone l = false := by
    rw [← hlocate]
    exact isGone_locate habs
  rw [hlocate] at hget
  have hfollow := h.toKeeps.follow (c := true) plain plain' hat.follow
  unfold FileTree.read
  rw [FileTree.find_eq_notFound hfollow hget hgone]
  rfl

theorem writes_replaceFile (plain : t.Plain) (h : Disk.replaceFile path content t = .ok () u) :
    Writes path content t u := by
  obtain ⟨hconfined, d, last, e, -, -, -, -, hat, hreadable, hkind⟩ := Disk.replaceFile_ok plain h
  exact ⟨hconfined, read_eq_ok_iff.2 ⟨_, e, hat, hreadable, hkind⟩⟩

theorem ConfinedTo.fileAt_append {d l : Location} {last added : String} {e : Entry}
    (h : ConfinedTo places t u) (plain : t.Plain) (hfile : Path.namesDirectory path = false)
    (hadded : '/' ∉ added.toList) (habs : Path.isAbsolute (path ++ added) = true)
    (hholder : t.holder path = .ok (d, last))
    (hplace : t.follow (path ++ added) true = .ok l → l ∉ places) :
    u.FileAt (path ++ added) l e ↔ t.FileAt (path ++ added) l e := by
  have plain' := h.plain plain
  have hholder' := h.toKeeps.holder plain plain' hholder
  have hsame := holder_append_congr plain plain' hfile hadded hholder hholder'
  have hfollow : u.follow (path ++ added) true = t.follow (path ++ added) true := by
    rw [follow_eq_holder plain habs, follow_eq_holder plain' habs, hsame]
  constructor
  · intro hat
    have hl := hfollow.symm.trans hat.follow
    exact ⟨hl, h.get?_of_file (hplace hl) hat.get? hat.isFile, hat.isFile, hat.name⟩
  · intro hat
    exact ⟨hfollow.trans hat.follow, h.get?_file (hplace hat.follow) hat.get?, hat.isFile, hat.name⟩

theorem not_mem_of_follow_append {d l : Location} {last added : String} (plain : t.Plain)
    (hfile : Path.namesDirectory path = false) (hadded : '/' ∉ added.toList)
    (hlong : 2 < added.toList.length) (habs : Path.isAbsolute (path ++ added) = true)
    (hlocate : t.locate path = last :: d) (hholder : t.holder path = .ok (d, last))
    (hfollow : t.follow (path ++ added) true = .ok l) : l ∉ [t.locate path] := by
  rw [follow_append plain hfile hadded hlong habs hholder hfollow, hlocate, List.mem_singleton]
  intro heq
  have := congrArg (fun text : String => text.toList.length) (List.cons.inj heq).1
  rw [String.toList_append, List.length_append] at this
  omega

theorem holder_of_read {d : Location} {last : String} (h : Keeps t u) (plain : t.Plain)
    (plain' : u.Plain) (habs : Path.isAbsolute path = true) (hread : t.read path = .ok content)
    (hholder : u.holder path = .ok (d, last)) : t.holder path = .ok (d, last) := by
  obtain ⟨l, e, hat, -⟩ := read_eq_ok_iff.1 hread
  -- the directory has been there from the beginning, so it is the same one
  obtain ⟨d', last', hfound⟩ := holder_of_follow plain habs hat.follow
  rw [h.holder plain plain' hfound] at hholder
  rw [hfound, hholder]

end FileTree

end DartBundle
