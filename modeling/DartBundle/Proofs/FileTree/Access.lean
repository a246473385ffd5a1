import DartBundle.Proofs.FileTree.Filling
/-!
This module contains what can be in the way of a path to something, apart from nothing being there, and which
paths lead to more than before when some directories have been made.
-/

namespace DartBundle

namespace FileTree

variable {t u : FileTree} {here l : Location} {path step : String} {steps front rest : List String}
  {e : Entry} {fault : FileFault} {content : ByteArray}

inductive Hindered (t : FileTree) (path : String) : Prop
  | nul (mem : '\x00' ∈ path.toList)
  | long (size : pathLimit ≤ path.utf8ByteSize)
  | onTheWay {front rest : List String} {step : String} {l : Location} {e : Entry}
    (split : Path.steps path = front ++ step :: rest)
    (way : front.foldlM t.advance (t.start path) = .ok l) (found : t.get? l = some e)
    (blocked : e.isDirectory = false ∨ e.isExecutable = false ∨ maxName < step.utf8ByteSize)
  | atTheEnd {l : Location} {e : Entry} (slash : Path.namesDirectory path = true)
    (way : (Path.steps path).foldlM t.advance (t.start path) = .ok l) (found : t.get? l = some e)
    (blocked : e.isDirectory = false)

theorem advance_blocked_iff (hget : t.get? l = some e) :
    (e.isDirectory = false ∨ e.isExecutable = false ∨ maxName < step.utf8ByteSize) ↔
      ∃ fault, fault ≠ .notFound ∧ t.advance l step = .error fault := by
  unfold advance
  rw [hget]
  dsimp only
  constructor
  · intro blocked
    repeat' split
    · exact ⟨.notADirectory, nofun, rfl⟩
    · exact ⟨.permissionDenied, nofun, rfl⟩
    · exact ⟨.nameTooLong, nofun, rfl⟩
    · simp_all
  · rintro ⟨fault, -, h⟩
    repeat' split at h
    all_goals simp_all

theorem advance_missing (hget : t.get? l = none) (h : t.advance l step = .error fault) :
    fault = .notFound := by
  unfold advance at h
  rw [hget] at h
  dsimp only at h
  split at h <;> cases h
  rfl

theorem pathFault?_hindered_iff : '\x00' ∈ path.toList ∨ pathLimit ≤ path.utf8ByteSize ↔
    ∃ fault, fault ≠ .notFound ∧ pathFault? path = some fault := by
  unfold pathFault?
  cases hempty : path.isEmpty with
  | true =>
    rw [String.isEmpty_iff] at hempty
    subst hempty
    simp [pathLimit]
  | false =>
    by_cases hnul : '\x00' ∈ path.toList
    · simp [hnul]
    · by_cases hlong : pathLimit ≤ path.utf8ByteSize
      · simp [hnul, hlong]
      · simp [hnul, hlong]

theorem pathFault?_cases (path : String) : pathFault? path = none ∨ path = "" ∨
    ∃ fault, fault ≠ .notFound ∧ pathFault? path = some fault := by
  cases hpath : pathFault? path with
  | none => exact .inl rfl
  | some fault =>
    right
    cases hempty : path.isEmpty with
    | true => exact .inl (String.isEmpty_iff.1 hempty)
    | false =>
      refine .inr ⟨fault, ?_, rfl⟩
      rintro rfl
      exact pathFault?_ne_notFound hempty hpath

theorem follow_hindered (plain : t.Plain) (hne : fault ≠ .notFound)
    (h : t.follow path true = .error fault) : t.Hindered path := by
  rw [follow_eq plain] at h
  cases hpath : pathFault? path with
  | some fault' =>
    rw [hpath] at h
    cases h
    rcases pathFault?_hindered_iff.2 ⟨fault, hne, hpath⟩ with hnul | hlong
    · exact .nul hnul
    · exact .long hlong
  | none =>
    rw [hpath] at h
    obtain ⟨front, step, rest, l, hsplit, hfront, hstep⟩ := exists_of_foldlM_error h
    cases hget : t.get? l with
    | none => exact absurd (advance_missing hget hstep) hne
    | some e => exact .onTheWay hsplit hfront hget ((advance_blocked_iff hget).2 ⟨fault, hne, hstep⟩)

theorem hindered_iff (plain : t.Plain) :
    t.Hindered path ↔ ∃ fault, fault ≠ .notFound ∧ t.find path true = .error fault := by
  constructor
  · intro h
    rcases pathFault?_cases path with hpath | rfl | ⟨fault, hne, hpath⟩
    · cases h with
      | nul mem =>
        obtain ⟨fault, -, hfault⟩ := pathFault?_hindered_iff.1 (.inl mem)
        rw [hpath] at hfault
        cases hfault
      | long size =>
        obtain ⟨fault, -, hfault⟩ := pathFault?_hindered_iff.1 (.inr size)
        rw [hpath] at hfault
        cases hfault
      | onTheWay split way found blocked =>
        obtain ⟨fault, hne, hstep⟩ := (advance_blocked_iff found).1 blocked
        refine ⟨fault, hne, find_eq_error ?_⟩
        rw [follow_eq plain, hpath, split]
        exact foldlM_eq_error way hstep
      | atTheEnd slash way found blocked =>
        have hfollow := (follow_eq_ok_iff (b := true) plain).2 ⟨hpath, way⟩
        refine ⟨.notADirectory, nofun, ?_⟩
        simp [find, hfollow, found, slash, blocked, bind, Except.bind]
    · -- the empty path has no steps, so nothing is ever in its way
      cases h with
      | nul mem => cases mem
      | long size => exact absurd size (by decide)
      | onTheWay split => cases (List.append_ne_nil_of_right_ne_nil _ (List.cons_ne_nil _ _)) split.symm
      | atTheEnd slash => cases slash
    · exact ⟨fault, hne, find_eq_error (by rw [follow_eq plain, hpath])⟩
  · rintro ⟨fault, hne, h⟩
    cases hfollow : t.follow path true with
    | error fault' =>
      rw [find_eq_error hfollow] at h
      cases h
      exact follow_hindered plain hne hfollow
    | ok l =>
      have hway := ((follow_eq_ok_iff plain).1 hfollow).2
      simp only [find, hfollow, bind, Except.bind] at h
      cases hget : t.get? l with
      | none =>
        simp only [hget] at h
        split at h <;> cases h
        exact absurd rfl hne
      | some e =>
        simp only [hget] at h
        split at h
        · next hslash =>
          rw [Bool.and_eq_true, Bool.not_eq_true'] at hslash
          exact .atTheEnd hslash.1 hway hget hslash.2
        · cases h

theorem find_eq_notFound_iff (plain : t.Plain) : t.find path true = .error .notFound ↔
    (∀ found, t.find path true ≠ .ok found) ∧ ¬ t.Hindered path := by
  rw [hindered_iff plain]
  cases t.find path true with
  | ok found => simp
  | error fault => simp

theorem read_eq_notFound_iff (plain : t.Plain) : t.read path = .error .notFound ↔
    (∀ found, t.find path true ≠ .ok found) ∧ ¬ t.Hindered path := by
  rw [← find_eq_notFound_iff plain]
  unfold read
  cases t.find path true with
  | error fault => simp [bind, Except.bind]
  | ok found =>
    obtain ⟨l, e⟩ := found
    simp only [bind, Except.bind]
    by_cases hreadable : e.isReadable = true
    · cases e.kind <;> simp [hreadable]
    · simp [hreadable, throw, throwThe, MonadExceptOf.throw]

def Detours (t u : FileTree) (path : String) : Prop :=
  ∃ front rest, Path.steps path = front ++ ".." :: rest ∧
    t.get? (front.foldl stepFrom (t.start path)) = none ∧
      ∃ e, u.get? (front.foldl stepFrom (t.start path)) = some e ∧ e.isDirectory = true

theorem eq_nil_of_missing (hget : t.get? here = none) (hgone : isGone here = false)
    (h : steps.foldlM t.advance here = .ok l) : steps = [] := by
  cases steps with
  | nil => rfl
  | cons step rest =>
    obtain ⟨next, hstep, -⟩ := foldlM_cons_eq_ok_iff.1 h
    unfold advance at hstep
    rw [hget, hgone] at hstep
    cases hstep

theorem get?_stepFrom_of_missing (tree : t.IsTree) (hget : t.get? here = none)
    (hgone : isGone here = false) (hstep : step ≠ "/") (hup : step ≠ "..") :
    t.get? (stepFrom here step) = none ∧ isGone (stepFrom here step) = false := by
  by_cases hdot : step = "."
  · rw [hdot]
    exact ⟨hget, hgone⟩
  · rw [stepFrom_of_ne hdot hup]
    refine ⟨?_, by simp [isGone, hstep]⟩
    cases hbelow : t.get? (step :: here) with
    | none => rfl
    | some e =>
      obtain ⟨above, habove, -⟩ := tree.above hbelow
      rw [List.tail_cons, hget] at habove
      cases habove

theorem ConfinedTo.foldlM_back (h : ConfinedTo [] t u) (tree : t.IsTree)
    (hsteps : ∀ step ∈ steps, step ≠ "/") (hget : t.get? l = some e)
    (hwalk : steps.foldlM u.advance here = .ok l) :
    steps.foldlM t.advance here = .ok l ∨ ∃ front rest, steps = front ++ ".." :: rest ∧
      t.get? (front.foldl stepFrom here) = none ∧
        ∃ e, u.get? (front.foldl stepFrom here) = some e ∧ e.isDirectory = true := by
  induction steps generalizing here with
  | nil => exact .inl hwalk
  | cons step rest ih =>
    obtain ⟨hstep, hrest⟩ := List.forall_mem_cons.1 hsteps
    obtain ⟨next, hadvance, hwalk⟩ := foldlM_cons_eq_ok_iff.1 hwalk
    obtain hnext | ⟨front, others, rfl, hmissing, hnew⟩ := ih hrest hwalk
    · rcases h.elsewhere (show here ∉ [] from List.not_mem_nil) with heq | ⟨hnone, hnew⟩
      · -- the step depends on what is at its start alone
        left
        have hsame : t.advance here step = .ok next := by
          unfold advance at hadvance ⊢
          rw [← heq]
          exact hadvance
        exact foldlM_cons_eq_ok_iff.2 ⟨next, hsame, hnext⟩
      · right
        have hgone : isGone here = false := by
          rw [← Bool.not_eq_true]
          intro hgone
          obtain ⟨e', hsome, -⟩ := hnew
          rw [h.gone hgone, hnone] at hsome
          cases hsome
        refine ⟨[], rest, ?_, hnone, hnew⟩
        rw [List.nil_append, List.cons.injEq]
        refine ⟨?_, rfl⟩
        -- any other step leads further down, where the first tree has nothing either
        by_contra hup
        obtain rfl := eq_stepFrom_of_advance hadvance
        obtain ⟨hmissing, hgone'⟩ := get?_stepFrom_of_missing tree hnone hgone hstep hup
        have hend := eq_nil_of_missing hmissing hgone' hnext
        subst hend
        cases hnext
        rw [hmissing] at hget
        cases hget
    · right
      obtain rfl := eq_stepFrom_of_advance hadvance
      exact ⟨step :: front, others, rfl, hmissing, hnew⟩

theorem ConfinedTo.read_back (h : ConfinedTo [] t u) (tree : t.IsTree) (hread : u.read path = .ok content) :
    t.read path = .ok content ∨ Detours t u path ∧ t.contentAt (t.locate path) = some content := by
  have plain := h.plain tree.plain
  obtain ⟨l, e, hat, hreadable, hkind⟩ := read_eq_ok_iff.1 hread
  have hget := h.get?_of_file List.not_mem_nil hat.get? hat.isFile
  obtain ⟨hpath, hwalk⟩ := (follow_eq_ok_iff plain).1 hat.follow
  rw [h.toKeeps.start] at hwalk
  have hsteps : ∀ step ∈ Path.steps path, step ≠ "/" := fun _ => ne_slash_of_mem_steps
  rcases h.foldlM_back tree hsteps hget hwalk with hback | hdetour
  · left
    have hfollow := (follow_eq_ok_iff (b := true) tree.plain).2 ⟨hpath, hback⟩
    exact read_eq_ok_iff.2 ⟨l, e, ⟨hfollow, hget, hat.isFile, hat.name⟩, hreadable, hkind⟩
  · refine .inr ⟨hdetour, ?_⟩
    rw [← h.toKeeps.locate, locate_eq plain hat.follow]
    unfold FileTree.contentAt
    rw [hget]
    simp [hkind]

end FileTree

end DartBundle
