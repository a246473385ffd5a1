import DartBundle.FileTree.Basic
import DartBundle.Proofs.Path
/-!
This module contains the way of a path through a file tree without links. There the way is made of
single steps, each of which depends on the directory it starts from alone, and the location it leads
to can be read off the path.
-/

namespace DartBundle

namespace FileTree

variable {t u v : FileTree} {here l d : Location} {step path added last : String} {b c : Bool}
  {e : Entry} {fault : FileFault}

def Plain (t : FileTree) : Prop :=
  ∀ l e, t.get? l = some e → e.isLink = false

def stepFrom (here : Location) (step : String) : Location :=
  if step = "." then here
  else if step = ".." then here.tail
  else step :: here

def advance (t : FileTree) (here : Location) (step : String) : Except FileFault Location :=
  match t.get? here with
  | none =>
    if isGone here && (step = "." || step = "..") then .ok (stepFrom here step)
    else .error .notFound
  | some e =>
    if !e.isDirectory then .error .notADirectory
    else if !e.isExecutable then .error .permissionDenied
    else if maxName < step.utf8ByteSize then .error .nameTooLong
    else .ok (stepFrom here step)

def locate (t : FileTree) (path : String) : Location :=
  (Path.steps path).foldl stepFrom (t.start path)

theorem walkToLink_of_missing {followLast : Bool}
    {jump : Location → String → List String → Except FileFault Location}
    (hnone : t.get? here = none) (hgone : isGone here = false) (rest : List String) :
    t.walkToLink followLast jump here rest =
      if rest.isEmpty then .ok here else .error .notFound := by
  cases rest with
  | nil => rfl
  | cons next others =>
    unfold walkToLink
    simp [hnone, hgone]

inductive Move
  | onward (next : Location)
  | jump (target : String)
  | stop (result : Except FileFault Location)

/--
What one step of a way comes to. A link at the end of a way is followed only if it has to be.
-/
def move (t : FileTree) (followLast : Bool) (here : Location) (step : String) (isLast : Bool) : Move :=
  match t.get? here with
  | none =>
    if isGone here && (step = "." || step = "..") then .onward (stepFrom here step)
    else .stop (.error .notFound)
  | some e =>
    if !e.isDirectory then .stop (.error .notADirectory)
    else if !e.isExecutable then .stop (.error .permissionDenied)
    else if step = "." || step = ".." then .onward (stepFrom here step)
    else if maxName < step.utf8ByteSize then .stop (.error .nameTooLong)
    else
      match t.kind? (step :: here) with
      | some (.link target) => if isLast && !followLast then .stop (.ok (step :: here)) else .jump target
      | some _ => .onward (step :: here)
      | none => .stop (if isLast then .ok (step :: here) else .error .notFound)

theorem walkToLink_cons (followLast : Bool)
    (jump : Location → String → List String → Except FileFault Location) (rest : List String) :
    t.walkToLink followLast jump here (step :: rest) =
      match t.move followLast here step rest.isEmpty with
      | .onward next => t.walkToLink followLast jump next rest
      | .jump target => jump here target rest
      | .stop result => result := by
  rw [walkToLink]
  unfold move
  cases t.get? here with
  | none =>
    by_cases hdot : step = "."
    · cases hgone : isGone here <;> simp [hdot, stepFrom]
    · by_cases hup : step = ".."
      · cases hgone : isGone here <;> simp [hup, stepFrom]
      · simp [hdot, hup]
  | some e =>
    by_cases hdot : step = "."
    · cases hdir : e.isDirectory <;> cases hexec : e.isExecutable <;> simp [hdir, hexec, hdot, stepFrom]
    by_cases hup : step = ".."
    · cases hdir : e.isDirectory <;> cases hexec : e.isExecutable <;> simp [hdir, hexec, hup, stepFrom]
    simp only [hdot, hup]
    repeat' split
    all_goals simp_all

theorem walkToLink_cons_of_plain (plain : t.Plain) {followLast : Bool}
    {jump : Location → String → List String → Except FileFault Location} (hstep : step ≠ "/")
    (rest : List String) :
    t.walkToLink followLast jump here (step :: rest) =
      (t.advance here step).bind fun next => t.walkToLink followLast jump next rest := by
  rw [walkToLink_cons]
  unfold move advance
  cases t.get? here with
  | none => cases isGone here && (decide (step = ".") || decide (step = "..")) <;> rfl
  | some e =>
    by_cases hdir : e.isDirectory = true
    case neg => simp [hdir, Except.bind]
    by_cases hexec : e.isExecutable = true
    case neg => simp [hdir, hexec, Except.bind]
    by_cases hdots : step = "." ∨ step = ".."
    · have hsize : ¬ maxName < step.utf8ByteSize := by rcases hdots with rfl | rfl <;> decide
      simp [hdir, hexec, hdots, hsize, Except.bind]
    by_cases hsize : maxName < step.utf8ByteSize
    · simp [hdir, hexec, hdots, hsize, Except.bind]
    -- what is left is a step down to a name
    obtain ⟨hdot, hup⟩ := not_or.1 hdots
    simp only [hdir, hexec, hdot, hup, hsize, stepFrom, Except.bind]
    cases hnext : t.get? (step :: here) with
    | none =>
      have hgone : isGone (step :: here) = false := by simp [isGone, hstep]
      simp [kind?, hnext, walkToLink_of_missing hnext hgone]
    | some next =>
      have hlink := plain _ _ hnext
      unfold Entry.isLink at hlink
      unfold kind?
      cases hkind : next.kind with
      | link target => simp [hkind] at hlink
      | directory => simp [hnext, hkind]
      | file content => simp [hnext, hkind]

theorem walkToLink_eq_foldlM (plain : t.Plain) {followLast : Bool}
    {jump : Location → String → List String → Except FileFault Location} {steps : List String}
    (h : ∀ step ∈ steps, step ≠ "/") :
    t.walkToLink followLast jump here steps = steps.foldlM t.advance here := by
  induction steps generalizing here with
  | nil => rfl
  | cons step rest ih =>
    obtain ⟨hstep, hrest⟩ := List.forall_mem_cons.1 h
    rw [walkToLink_cons_of_plain plain hstep, List.foldlM_cons]
    exact congrArg (t.advance here step).bind (funext fun next => ih hrest)

theorem walk_eq_foldlM (plain : t.Plain) {followLast : Bool} (links : Nat) {steps : List String}
    (h : ∀ step ∈ steps, step ≠ "/") :
    t.walk followLast links here steps = steps.foldlM t.advance here := by
  cases links with
  | zero => exact walkToLink_eq_foldlM plain h
  | succ links => exact walkToLink_eq_foldlM plain h

theorem ne_slash_of_mem_steps (h : step ∈ Path.steps path) : step ≠ "/" := by
  rintro rfl
  exact Path.not_mem_of_mem_steps h (by decide)

theorem follow_eq (plain : t.Plain) (followLast : Bool) :
    t.follow path followLast =
      match pathFault? path with
      | some fault => .error fault
      | none => (Path.steps path).foldlM t.advance (t.start path) := by
  have hsteps : ∀ step ∈ Path.steps path, step ≠ "/" := fun _ => ne_slash_of_mem_steps
  unfold follow
  cases pathFault? path with
  | some fault => rfl
  | none => exact walk_eq_foldlM plain maxLinks hsteps

theorem eq_stepFrom_of_advance (h : t.advance here step = .ok l) : l = stepFrom here step := by
  unfold advance at h
  repeat' split at h
  all_goals cases h
  all_goals rfl

theorem foldlM_cons_eq_ok_iff {rest : List String} :
    (step :: rest).foldlM t.advance here = .ok l ↔
      ∃ next, t.advance here step = .ok next ∧ rest.foldlM t.advance next = .ok l := by
  rw [List.foldlM_cons]
  cases t.advance here step <;> simp [bind, Except.bind]

theorem foldlM_append_eq_ok_iff {front rest : List String} :
    (front ++ rest).foldlM t.advance here = .ok l ↔
      ∃ next, front.foldlM t.advance here = .ok next ∧ rest.foldlM t.advance next = .ok l := by
  rw [List.foldlM_append]
  cases front.foldlM t.advance here <;> simp [bind, Except.bind]

theorem exists_of_foldlM_error {steps : List String} (h : steps.foldlM t.advance here = .error fault) :
    ∃ front step rest l, steps = front ++ step :: rest ∧ front.foldlM t.advance here = .ok l ∧
      t.advance l step = .error fault := by
  induction steps generalizing here with
  | nil => cases h
  | cons step rest ih =>
    cases hstep : t.advance here step with
    | error fault' =>
      rw [List.foldlM_cons, hstep] at h
      cases h
      exact ⟨[], step, rest, here, rfl, rfl, hstep⟩
    | ok next =>
      rw [List.foldlM_cons, hstep] at h
      obtain ⟨front, last, others, l, rfl, hfront, hlast⟩ := ih h
      exact ⟨step :: front, last, others, l, rfl, foldlM_cons_eq_ok_iff.2 ⟨next, hstep, hfront⟩, hlast⟩

theorem foldlM_eq_error {front rest : List String} (hfront : front.foldlM t.advance here = .ok l)
    (hstep : t.advance l step = .error fault) :
    (front ++ step :: rest).foldlM t.advance here = .error fault := by
  rw [List.foldlM_append, hfront]
  change (step :: rest).foldlM t.advance l = _
  rw [List.foldlM_cons, hstep]
  rfl

theorem eq_foldl_of_foldlM {steps : List String} (h : steps.foldlM t.advance here = .ok l) :
    l = steps.foldl stepFrom here := by
  induction steps generalizing here with
  | nil =>
    cases h
    rfl
  | cons step rest ih =>
    obtain ⟨next, hstep, hrest⟩ := foldlM_cons_eq_ok_iff.1 h
    rw [List.foldl_cons, ← eq_stepFrom_of_advance hstep]
    exact ih hrest

theorem follow_eq_ok_iff (plain : t.Plain) :
    t.follow path b = .ok l ↔
      pathFault? path = none ∧ (Path.steps path).foldlM t.advance (t.start path) = .ok l := by
  rw [follow_eq plain]
  cases pathFault? path <;> simp

theorem locate_eq (plain : t.Plain) (h : t.follow path b = .ok l) : t.locate path = l := by
  have hwalk := ((follow_eq_ok_iff plain).1 h).2
  exact (eq_foldl_of_foldlM hwalk).symm

structure Keeps (t u : FileTree) : Prop where
  current : u.current = t.current
  directory : ∀ {l e}, t.get? l = some e → e.isDirectory = true → u.get? l = some e
  gone : ∀ {l}, isGone l = true → u.get? l = t.get? l

namespace Keeps

theorem refl (t : FileTree) : Keeps t t where
  current := rfl
  directory := fun h _ => h
  gone := fun _ => rfl

theorem trans (h : Keeps t u) (h' : Keeps u v) : Keeps t v where
  current := h'.current.trans h.current
  directory := fun hl hdir => h'.directory (h.directory hl hdir) hdir
  gone := fun hl => (h'.gone hl).trans (h.gone hl)

theorem start (h : Keeps t u) : u.start path = t.start path := by
  unfold FileTree.start
  rw [h.current]

theorem locate (h : Keeps t u) : u.locate path = t.locate path := by
  unfold FileTree.locate
  rw [h.start]

theorem map_locate (h : Keeps t u) (paths : List String) :
    paths.map u.locate = paths.map t.locate :=
  List.map_congr_left fun _ _ => h.locate

theorem advance (h : Keeps t u) (hstep : t.advance here step = .ok l) :
    u.advance here step = .ok l := by
  unfold FileTree.advance at hstep ⊢
  cases hhere : t.get? here with
  | none =>
    rw [hhere] at hstep
    by_cases hgone : isGone here = true
    · rw [h.gone hgone, hhere]
      exact hstep
    · simp [hgone] at hstep
  | some e =>
    rw [hhere] at hstep
    by_cases hdir : e.isDirectory = true
    · rw [h.directory hhere hdir]
      exact hstep
    · simp [hdir] at hstep

theorem foldlM (h : Keeps t u) {steps : List String}
    (hwalk : steps.foldlM t.advance here = .ok l) : steps.foldlM u.advance here = .ok l := by
  induction steps generalizing here with
  | nil => exact hwalk
  | cons step rest ih =>
    obtain ⟨next, hstep, hrest⟩ := foldlM_cons_eq_ok_iff.1 hwalk
    exact foldlM_cons_eq_ok_iff.2 ⟨next, h.advance hstep, ih hrest⟩

theorem follow (h : Keeps t u) (plain : t.Plain) (plain' : u.Plain)
    (hfollow : t.follow path b = .ok l) : u.follow path c = .ok l := by
  obtain ⟨hpath, hwalk⟩ := (follow_eq_ok_iff plain).1 hfollow
  apply (follow_eq_ok_iff plain').2
  rw [h.start]
  exact ⟨hpath, h.foldlM hwalk⟩

end Keeps

theorem mem_of_mem_foldl {name : String} {steps : List String}
    (h : name ∈ steps.foldl stepFrom here) : name ∈ here ∨ name ∈ steps := by
  induction steps generalizing here with
  | nil => exact .inl h
  | cons step rest ih =>
    rcases ih h with hmem | hmem
    · unfold stepFrom at hmem
      split at hmem
      · exact .inl hmem
      · split at hmem
        · exact .inl (List.mem_of_mem_tail hmem)
        · rcases List.mem_cons.1 hmem with rfl | hmem
          · exact .inr List.mem_cons_self
          · exact .inl hmem
    · exact .inr (List.mem_cons_of_mem _ hmem)

theorem start_of_absolute (h : Path.isAbsolute path = true) : t.start path = [] := by
  unfold start
  rw [if_pos h]

theorem locate_of_absolute (h : Path.isAbsolute path = true) : t.locate path = u.locate path := by
  unfold locate
  rw [start_of_absolute h, start_of_absolute h]

theorem isGone_foldl {steps : List String} (h : ∀ step ∈ steps, step ≠ "/") :
    isGone (steps.foldl stepFrom []) = false := by
  unfold isGone
  rw [decide_eq_false_iff_not]
  intro hhead
  rcases mem_of_mem_foldl (List.mem_of_head? hhead) with hmem | hmem
  · cases hmem
  · exact h _ hmem rfl

theorem isGone_locate (h : Path.isAbsolute path = true) : isGone (t.locate path) = false := by
  unfold locate
  rw [start_of_absolute h]
  exact isGone_foldl fun _ => ne_slash_of_mem_steps

end FileTree

end DartBundle
