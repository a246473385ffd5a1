import DartBundle.Proofs.FileTree.Walk
/-!
This module contains what paths find in file trees without links: files, which is all that can be read,
and the directories that hold what a path names. Paths that differ in the end of their last step alone
are looked up in the same directory.
-/

namespace DartBundle

namespace FileTree

variable {t u : FileTree} {l d : Location} {path added last : String} {b : Bool}
  {e : Entry} {fault : FileFault}

theorem find_eq_ok_iff :
    t.find path b = .ok (l, e) ↔
      t.follow path b = .ok l ∧
        (t.get? l = some e ∧ (Path.namesDirectory path = true → e.isDirectory = true) ∨
          t.get? l = none ∧ isGone l = true ∧ e = Entry.root) := by
  unfold find
  cases hfollow : t.follow path b with
  | error fault => simp [bind, Except.bind]
  | ok l' =>
    simp only [bind, Except.bind, Except.ok.injEq]
    cases hget : t.get? l' with
    | none =>
      by_cases hgone : isGone l' = true
      · simp only [hgone, if_true, Except.ok.injEq, Prod.mk.injEq]
        constructor
        · rintro ⟨rfl, rfl⟩
          exact ⟨rfl, .inr ⟨hget, hgone, rfl⟩⟩
        · rintro ⟨rfl, ⟨hsome, -⟩ | ⟨-, -, rfl⟩⟩
          · simp [hget] at hsome
          · exact ⟨rfl, rfl⟩
      · simp only [hgone]
        constructor
        · intro h
          cases h
        · rintro ⟨rfl, ⟨hsome, -⟩ | ⟨-, hgone', -⟩⟩
          · simp [hget] at hsome
          · exact absurd hgone' hgone
    | some e' =>
      by_cases hname : (Path.namesDirectory path && !e'.isDirectory) = true
      · simp only [hname, if_true]
        constructor
        · intro h
          cases h
        · rintro ⟨rfl, ⟨hsome, hdir⟩ | ⟨hnone, -⟩⟩
          · rw [hget, Option.some.injEq] at hsome
            subst hsome
            simp only [Bool.and_eq_true, Bool.not_eq_true'] at hname
            simp [hdir hname.1] at hname
          · simp [hget] at hnone
      · simp only [hname]
        constructor
        · intro h
          cases h
          refine ⟨rfl, .inl ⟨hget, ?_⟩⟩
          intro hnames
          simpa [hnames] using hname
        · rintro ⟨rfl, ⟨hsome, -⟩ | ⟨hnone, -⟩⟩
          · rw [hget, Option.some.injEq] at hsome
            subst hsome
            rfl
          · simp [hget] at hnone

theorem find_eq_notFound (hfollow : t.follow path b = .ok l) (hget : t.get? l = none)
    (hgone : isGone l = false) : t.find path b = .error .notFound := by
  simp [find, hfollow, hget, hgone, bind, Except.bind]

theorem find_eq_error (h : t.follow path b = .error fault) : t.find path b = .error fault := by
  simp [find, h, bind, Except.bind]

structure FileAt (t : FileTree) (path : String) (l : Location) (e : Entry) : Prop where
  follow : t.follow path true = .ok l
  get? : t.get? l = some e
  isFile : e.isFile = true
  name : Path.namesDirectory path = false

theorem isDirectory_of_isFile (h : e.isFile = true) : e.isDirectory = false := by
  unfold Entry.isFile at h
  unfold Entry.isDirectory
  cases hkind : e.kind <;> simp [hkind] at h ⊢

theorem isFile_of_kind {content : ByteArray} (h : e.kind = .file content) : e.isFile = true := by
  unfold Entry.isFile
  rw [h]

theorem fileAt_iff (h : e.isFile = true) : t.FileAt path l e ↔ t.find path true = .ok (l, e) := by
  rw [find_eq_ok_iff]
  have hdir := isDirectory_of_isFile h
  constructor
  · intro hat
    refine ⟨hat.follow, .inl ⟨hat.get?, ?_⟩⟩
    intro hname
    rw [hat.name] at hname
    cases hname
  · rintro ⟨hfollow, ⟨hget, hname⟩ | ⟨-, -, rfl⟩⟩
    · refine ⟨hfollow, hget, h, ?_⟩
      rw [hdir] at hname
      simpa using hname
    · cases h

theorem isFile_iff : t.isFile path = true ↔ ∃ l e, t.FileAt path l e := by
  unfold FileTree.isFile
  constructor
  · intro h
    cases hfind : t.find path true with
    | error fault => simp [hfind, Except.toOption] at h
    | ok found =>
      obtain ⟨l, e⟩ := found
      have hfile : e.isFile = true := by simpa [hfind, Except.toOption] using h
      exact ⟨l, e, (fileAt_iff hfile).2 hfind⟩
  · rintro ⟨l, e, hat⟩
    rw [(fileAt_iff hat.isFile).1 hat]
    exact hat.isFile

theorem read_eq_ok_iff {content : ByteArray} :
    t.read path = .ok content ↔
      ∃ l e, t.FileAt path l e ∧ e.isReadable = true ∧ e.kind = .file content := by
  unfold read
  constructor
  · intro h
    cases hfind : t.find path true with
    | error fault => simp [hfind, bind, Except.bind] at h
    | ok found =>
      obtain ⟨l, e⟩ := found
      simp only [hfind, bind, Except.bind] at h
      by_cases hreadable : e.isReadable = true
      case neg => simp [hreadable, throw, throwThe, MonadExceptOf.throw] at h
      cases hkind : e.kind with
      | directory => simp [hreadable, hkind] at h
      | link target => simp [hreadable, hkind] at h
      | file other =>
        simp only [hreadable, hkind, Bool.not_true] at h
        cases h
        exact ⟨l, e, (fileAt_iff (isFile_of_kind hkind)).2 hfind, hreadable, hkind⟩
  · rintro ⟨l, e, hat, hreadable, hkind⟩
    rw [(fileAt_iff hat.isFile).1 hat]
    simp [bind, Except.bind, hreadable, hkind]

theorem isFile_congr (h : ∀ l e, u.FileAt path l e ↔ t.FileAt path l e) :
    u.isFile path = t.isFile path := by
  apply Bool.eq_iff_iff.2
  rw [isFile_iff, isFile_iff]
  exact exists_congr fun l => exists_congr fun e => h l e

theorem read_congr {content : ByteArray} (h : ∀ l e, u.FileAt path l e ↔ t.FileAt path l e) :
    u.read path = .ok content ↔ t.read path = .ok content := by
  rw [read_eq_ok_iff, read_eq_ok_iff]
  exact exists_congr fun l => exists_congr fun e => and_congr_left fun _ => h l e

theorem Keeps.fileAt (h : Keeps t u) (plain : t.Plain) (plain' : u.Plain) {e' : Entry}
    (hat : t.FileAt path l e) (hget : u.get? l = some e') (hfile : e'.isFile = true) :
    u.FileAt path l e' where
  follow := h.follow plain plain' hat.follow
  get? := hget
  isFile := hfile
  name := hat.name

theorem Keeps.isDirectory_eq_false (h : Keeps t u) {e' : Entry} (hget : t.get? l = some e)
    (hget' : u.get? l = some e') (hfile : e'.isFile = true) : e.isDirectory = false := by
  rw [← Bool.not_eq_true]
  intro hdir
  rw [h.directory hget hdir, Option.some.injEq] at hget'
  rw [← hget'] at hfile
  rw [isDirectory_of_isFile hfile] at hdir
  cases hdir

theorem holder_eq_ok_iff (plain : t.Plain) :
    t.holder path = .ok (d, last) ↔
      pathFault? path = none ∧ (Path.steps path).getLast?.getD "." = last ∧
        (Path.steps path).dropLast.foldlM t.advance (t.start path) = .ok d ∧
          ∃ e, t.get? d = some e ∧ e.isDirectory = true ∧ e.isExecutable = true ∧
            ¬ maxName < last.utf8ByteSize := by
  have hsteps : ∀ step ∈ (Path.steps path).dropLast, step ≠ "/" :=
    fun _ hmem => ne_slash_of_mem_steps (List.dropLast_subset _ hmem)
  unfold holder
  cases pathFault? path with
  | some fault => simp
  | none =>
    dsimp only
    rw [walk_eq_foldlM plain maxLinks hsteps]
    cases (Path.steps path).dropLast.foldlM t.advance (t.start path) with
    | error fault => simp
    | ok d' =>
      constructor
      · intro h
        dsimp only at h
        repeat' split at h
        all_goals cases h
        next e hdir hexec hsize hget =>
          exact ⟨rfl, rfl, rfl, e, hget, by simpa using hdir, by simpa using hexec, hsize⟩
      · rintro ⟨-, rfl, hd, e, hget, hdir, hexec, hsize⟩
        cases hd
        simp [hget, hdir, hexec, hsize]

theorem follow_of_holder (plain : t.Plain) (h : t.holder path = .ok (d, last)) :
    t.follow path b = .ok (stepFrom d last) := by
  obtain ⟨hpath, rfl, hwalk, e, hget, hdir, hexec, hsize⟩ := (holder_eq_ok_iff plain).1 h
  refine (follow_eq_ok_iff plain).2 ⟨hpath, ?_⟩
  rcases List.eq_nil_or_concat (Path.steps path) with hnil | ⟨front, last, hsteps⟩
  · rw [hnil] at hwalk ⊢
    exact hwalk
  · rw [hsteps] at hwalk hsize ⊢
    simp only [List.concat_eq_append, List.dropLast_concat, List.getLast?_concat,
      Option.getD_some] at hwalk hsize ⊢
    rw [List.foldlM_append, hwalk]
    simp [bind, Except.bind, pure, Except.pure, advance, hget, hdir, hexec, hsize]

theorem Keeps.holder (h : Keeps t u) (plain : t.Plain) (plain' : u.Plain)
    (hholder : t.holder path = .ok (d, last)) : u.holder path = .ok (d, last) := by
  obtain ⟨hpath, hlast, hwalk, e, hget, hdir, hexec, hsize⟩ := (holder_eq_ok_iff plain).1 hholder
  refine (holder_eq_ok_iff plain').2
    ⟨hpath, hlast, ?_, e, h.directory hget hdir, hdir, hexec, hsize⟩
  rw [h.start]
  exact h.foldlM hwalk

theorem mayChange_eq (hget : t.get? d = some e) : t.mayChange d = e.isWritable := by
  unfold FileTree.mayChange
  rw [hget]
  rfl

theorem Keeps.mayChange (h : Keeps t u) (hget : t.get? d = some e) (hdir : e.isDirectory = true) :
    u.mayChange d = t.mayChange d := by
  rw [mayChange_eq hget, mayChange_eq (h.directory hget hdir)]

theorem stepFrom_of_ne (hdot : last ≠ ".") (hup : last ≠ "..") : stepFrom d last = last :: d := by
  simp [stepFrom, hdot, hup]

theorem follow_of_name (plain : t.Plain) (h : t.holder path = .ok (d, last)) (hdot : last ≠ ".")
    (hup : last ≠ "..") : t.follow path b = .ok (last :: d) := by
  rw [follow_of_holder plain h, stepFrom_of_ne hdot hup]

theorem locate_of_name (plain : t.Plain) (h : t.holder path = .ok (d, last)) (hdot : last ≠ ".")
    (hup : last ≠ "..") : t.locate path = last :: d :=
  locate_eq plain (follow_of_name (b := true) plain h hdot hup)

theorem follow_eq_holder (plain : t.Plain) (habs : Path.isAbsolute path = true) :
    t.follow path b = (t.holder path).map fun found => stepFrom found.1 found.2 := by
  cases hholder : t.holder path with
  | ok found => exact follow_of_holder plain hholder
  | error fault =>
    have hsteps : ∀ step ∈ (Path.steps path).dropLast, step ≠ "/" :=
      fun _ hmem => ne_slash_of_mem_steps (List.dropLast_subset _ hmem)
    rw [follow_eq plain, start_of_absolute habs]
    unfold holder at hholder
    cases hpath : pathFault? path with
    | some fault' =>
      rw [hpath] at hholder
      cases hholder
      rfl
    | none =>
      rw [hpath] at hholder
      dsimp only at hholder ⊢
      rw [walk_eq_foldlM plain maxLinks hsteps, start_of_absolute habs] at hholder
      rcases List.eq_nil_or_concat (Path.steps path) with hnil | ⟨front, last, hconcat⟩
      · rw [hnil] at hholder
        cases hholder
      · rw [hconcat] at hholder hsteps ⊢
        simp only [List.concat_eq_append, List.dropLast_concat, List.getLast?_concat,
          Option.getD_some] at hholder hsteps ⊢
        -- the way to the directory is the way to the end but for the last step
        rw [List.foldlM_append]
        cases hwalk : front.foldlM t.advance [] with
        | error fault' =>
          rw [hwalk] at hholder
          cases hholder
          rfl
        | ok d =>
          have hgone : isGone d = false := by
            rw [eq_foldl_of_foldlM hwalk]
            exact isGone_foldl hsteps
          rw [hwalk] at hholder
          simp only [bind, Except.bind, List.foldlM_cons, List.foldlM_nil, advance]
          dsimp only at hholder
          repeat' split at hholder
          all_goals cases hholder
          all_goals simp_all [Except.map]

theorem holder_of_follow (plain : t.Plain) (habs : Path.isAbsolute path = true)
    (h : t.follow path b = .ok l) : ∃ d last, t.holder path = .ok (d, last) := by
  rw [follow_eq_holder plain habs] at h
  cases hholder : t.holder path with
  | error fault =>
    rw [hholder] at h
    cases h
  | ok found => exact ⟨found.1, found.2, rfl⟩

theorem pathFault?_ne_none_of_empty (h : path.isEmpty = true) : pathFault? path ≠ none := by
  unfold pathFault?
  rw [if_pos h]
  simp

theorem pathFault?_ne_notFound (h : path.isEmpty = false) : pathFault? path ≠ some .notFound := by
  unfold pathFault?
  rw [h]
  simp only [Bool.false_eq_true, if_false]
  repeat' split
  all_goals nofun

theorem pathFault?_eq_none_iff : pathFault? path = none ↔
    path.isEmpty = false ∧ '\x00' ∉ path.toList ∧ path.utf8ByteSize < pathLimit := by
  unfold pathFault?
  rw [← Nat.not_le]
  repeat' split
  all_goals simp_all

theorem pathFault?_of_append (h : pathFault? (path ++ added) = none) (hpath : path.isEmpty = false) :
    pathFault? path = none := by
  obtain ⟨-, hnul, hsize⟩ := pathFault?_eq_none_iff.1 h
  rw [String.toList_append, List.mem_append, not_or] at hnul
  rw [String.utf8ByteSize_append] at hsize
  exact pathFault?_eq_none_iff.2 ⟨hpath, hnul.1, by omega⟩

theorem holder_append (plain : t.Plain) (hfile : Path.namesDirectory path = false)
    (hadded : '/' ∉ added.toList) (h : t.holder path = .ok (d, last)) :
    t.holder (path ++ added) =
      match pathFault? (path ++ added) with
      | some fault => .error fault
      | none =>
        if maxName < (last ++ added).utf8ByteSize then .error .nameTooLong
        else .ok (d, last ++ added) := by
  obtain ⟨hpath, hlast, hwalk, e, hget, hdir, hexec, -⟩ := (holder_eq_ok_iff plain).1 h
  have hempty : path.isEmpty = false := by
    rw [← Bool.not_eq_true]
    intro hempty
    exact pathFault?_ne_none_of_empty hempty hpath
  obtain ⟨front, last', hsteps, hsteps'⟩ := Path.steps_append hempty hfile hadded
  rw [hsteps] at hlast hwalk
  simp only [List.dropLast_concat, List.getLast?_concat, Option.getD_some] at hlast hwalk
  subst hlast
  have hstart : t.start (path ++ added) = t.start path := by
    unfold start
    rw [Path.isAbsolute_append added hempty]
  have hfront : ∀ step ∈ front, step ≠ "/" := by
    intro step hmem
    have : step ∈ Path.steps path := by
      rw [hsteps]
      exact List.mem_append_left _ hmem
    exact ne_slash_of_mem_steps this
  unfold holder
  cases pathFault? (path ++ added) with
  | some fault => rfl
  | none =>
    dsimp only
    rw [hsteps', hstart, List.dropLast_concat, List.getLast?_concat,
      walk_eq_foldlM plain maxLinks hfront, hwalk]
    simp [hget, hdir, hexec]

theorem holder_append_congr (plain : t.Plain) (plain' : u.Plain)
    (hfile : Path.namesDirectory path = false) (hadded : '/' ∉ added.toList)
    (h : t.holder path = .ok (d, last)) (h' : u.holder path = .ok (d, last)) :
    u.holder (path ++ added) = t.holder (path ++ added) := by
  rw [holder_append plain hfile hadded h, holder_append plain' hfile hadded h']

theorem ne_dots_of_append {name : String} (hlong : 2 < added.toList.length) :
    name ++ added ≠ "." ∧ name ++ added ≠ ".." := by
  constructor
  · intro h
    have := congrArg (fun text : String => text.toList.length) h
    rw [String.toList_append, List.length_append] at this
    have hdot : ".".toList.length = 1 := by decide
    omega
  · intro h
    have := congrArg (fun text : String => text.toList.length) h
    rw [String.toList_append, List.length_append] at this
    have hdots : "..".toList.length = 2 := by decide
    omega

theorem stepFrom_ne_append (hadded : added ≠ "") : stepFrom d last ≠ (last ++ added) :: d := by
  intro h
  unfold stepFrom at h
  split at h
  · exact List.cons_ne_self _ _ h.symm
  · split at h
    · have := congrArg List.length h
      rw [List.length_tail, List.length_cons] at this
      omega
    · refine hadded (String.toList_injective ?_)
      simpa using congrArg String.toList (List.cons.inj h).1

theorem locate_append_ne (t : FileTree) (path : String) (hadded : '/' ∉ added.toList)
    (hlong : 2 < added.toList.length) : t.locate (path ++ added) ≠ t.locate path := by
  obtain ⟨front, last, hsplit, hsplit'⟩ := Text.splitOn_append path.toList hadded
  have hne : added ≠ "" := by
    rintro rfl
    cases hlong
  have hstart : t.start (path ++ added) = t.start path := by
    unfold start
    cases hempty : path.isEmpty with
    | false => rw [Path.isAbsolute_append added hempty]
    | true =>
      rw [String.isEmpty_iff] at hempty
      subst hempty
      rw [String.empty_append, Path.not_isAbsolute hadded, Path.not_isAbsolute (by decide)]
  have hsteps : Path.steps (path ++ added) =
      (front.filter fun segment => !segment.isEmpty).map String.ofList ++ [String.ofList last ++ added] := by
    unfold Path.steps
    rw [String.toList_append, hsplit', List.filter_append, List.map_append]
    simp [String.toList_eq_nil_iff, hne, String.ofList_append]
  unfold locate
  rw [hsteps, hstart, List.foldl_append]
  change stepFrom _ _ ≠ _
  rw [stepFrom_of_ne (ne_dots_of_append hlong).1 (ne_dots_of_append hlong).2]
  unfold Path.steps
  rw [hsplit, List.filter_append, List.map_append, List.foldl_append]
  cases last with
  | nil => exact List.cons_ne_self _ _
  | cons c rest => exact (stepFrom_ne_append hne).symm

theorem eq_of_holder_append (plain : t.Plain) (hfile : Path.namesDirectory path = false)
    (hadded : '/' ∉ added.toList) (h : t.holder path = .ok (d, last)) {other : Location × String}
    (h' : t.holder (path ++ added) = .ok other) : other = (d, last ++ added) := by
  rw [holder_append plain hfile hadded h] at h'
  repeat' split at h'
  all_goals cases h'
  rfl

theorem follow_append (plain : t.Plain) (hfile : Path.namesDirectory path = false)
    (hadded : '/' ∉ added.toList) (hlong : 2 < added.toList.length)
    (habs : Path.isAbsolute (path ++ added) = true) (h : t.holder path = .ok (d, last))
    (hfollow : t.follow (path ++ added) b = .ok l) : l = (last ++ added) :: d := by
  rw [follow_eq_holder plain habs] at hfollow
  cases hholder : t.holder (path ++ added) with
  | error fault =>
    rw [hholder] at hfollow
    cases hfollow
  | ok other =>
    rw [hholder] at hfollow
    cases hfollow
    rw [eq_of_holder_append plain hfile hadded h hholder]
    exact stepFrom_of_ne (ne_dots_of_append hlong).1 (ne_dots_of_append hlong).2

end FileTree

end DartBundle
