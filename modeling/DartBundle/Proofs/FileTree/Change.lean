import DartBundle.Proofs.FileTree.Find
import DartBundle.Proofs.Work
/-!
This module contains relations between file trees of which one has come from the other by a few changes:
at some places, by taking files away, or by making directories that were missing.
-/

namespace DartBundle

namespace FileTree

variable {t u v : FileTree} {l d : Location} {path : String} {e : Entry} {places : List Location}

@[simp]
theorem current_renew (t : FileTree) (l : Location) : (t.renew l).current = t.current := by
  unfold renew
  split <;> rfl

@[simp]
theorem current_place (t : FileTree) (l : Location) (entry : Entry) :
    (t.place l entry).current = t.current :=
  current_renew ..

@[simp]
theorem current_create (t : FileTree) (l : Location) (kind : Entry.Kind) (mode : Nat) :
    (t.create l kind mode).current = t.current :=
  current_place ..

@[simp]
theorem current_vacate (t : FileTree) (l : Location) : (t.vacate l).current = t.current :=
  current_renew ..

/--
Whether a tree has come from another one by changes at some places. Elsewhere there are at most new
directories, where nothing was.
-/
structure ConfinedTo (places : List Location) (t u : FileTree) : Prop extends Keeps t u where
  elsewhere : ∀ {l}, l ∉ places →
    u.get? l = t.get? l ∨ t.get? l = none ∧ ∃ e, u.get? l = some e ∧ e.isDirectory = true
  link : ∀ {l e}, u.get? l = some e → e.isLink = true → t.get? l = some e

namespace ConfinedTo

theorem refl (places : List Location) (t : FileTree) : ConfinedTo places t t where
  toKeeps := Keeps.refl t
  elsewhere := fun _ => .inl rfl
  link := fun h _ => h

theorem trans (h : ConfinedTo places t u) (h' : ConfinedTo places u v) :
    ConfinedTo places t v where
  toKeeps := h.toKeeps.trans h'.toKeeps
  elsewhere := by
    intro l hl
    rcases h.elsewhere hl with heq | ⟨hnone, e, hsome, hdir⟩
    · rw [← heq]
      exact h'.elsewhere hl
    · exact .inr ⟨hnone, e, h'.directory hsome hdir, hdir⟩
  link := fun hl hlink => h.link (h'.link hl hlink) hlink

theorem mono {others : List Location} (h : ConfinedTo places t u) (hsub : places ⊆ others) :
    ConfinedTo others t u where
  toKeeps := h.toKeeps
  elsewhere := fun hl => h.elsewhere fun hmem => hl (hsub hmem)
  link := h.link

theorem mono_singleton {others : List Location} (h : ConfinedTo [l] t u) (hmem : l ∈ others) :
    ConfinedTo others t u :=
  h.mono (List.cons_subset.2 ⟨hmem, List.nil_subset _⟩)

theorem plain (h : ConfinedTo places t u) (plain : t.Plain) : u.Plain := by
  intro l e hget
  cases hlink : e.isLink with
  | false => rfl
  | true => rw [← plain l e (h.link hget hlink), hlink]

theorem get?_file (h : ConfinedTo places t u) (hl : l ∉ places) (hget : t.get? l = some e) :
    u.get? l = some e := by
  rcases h.elsewhere hl with heq | ⟨hnone, -⟩
  · rw [heq, hget]
  · rw [hnone] at hget
    cases hget

theorem get?_of_file (h : ConfinedTo places t u) (hl : l ∉ places) (hget : u.get? l = some e)
    (hfile : e.isFile = true) : t.get? l = some e := by
  rcases h.elsewhere hl with heq | ⟨-, e', hsome, hdir⟩
  · rw [← heq, hget]
  · rw [hget, Option.some.injEq] at hsome
    subst hsome
    rw [isDirectory_of_isFile hfile] at hdir
    cases hdir

theorem bind {ε α β : Type} {x : EStateM ε FileTree α} {f : α → EStateM ε FileTree β}
    (hx : ConfinedTo places t (Work.left (x t)))
    (hf : ∀ a u, x t = .ok a u → ConfinedTo places u (Work.left (f a u))) :
    ConfinedTo places t (Work.left ((x >>= f) t)) := by
  cases h : x t with
  | error e u =>
    rw [h] at hx
    rw [Work.bind_of_error h]
    exact hx
  | ok a u =>
    rw [h] at hx
    rw [Work.bind_of_ok h]
    exact hx.trans (hf a u h)

end ConfinedTo

def contentAt (t : FileTree) (l : Location) : Option ByteArray :=
  (t.get? l).bind fun e =>
    match e.kind with
    | .file content => some content
    | _ => none

theorem contentAt_congr (h : u.get? l = t.get? l) : u.contentAt l = t.contentAt l := by
  unfold contentAt
  rw [h]

theorem ConfinedTo.contentAt (h : ConfinedTo places t u) (hl : l ∉ places) :
    u.contentAt l = t.contentAt l := by
  rcases h.elsewhere hl with heq | ⟨hnone, e, hsome, hdir⟩
  · exact contentAt_congr heq
  · have hkind : e.kind = .directory := by simpa [Entry.isDirectory] using hdir
    unfold FileTree.contentAt
    rw [hnone, hsome]
    simp [hkind]

theorem contentAt_of_read {path : String} {content : ByteArray} (plain : t.Plain)
    (h : t.read path = .ok content) : t.contentAt (t.locate path) = some content := by
  obtain ⟨l, e, hat, -, hkind⟩ := read_eq_ok_iff.1 h
  rw [locate_eq plain hat.follow]
  unfold contentAt
  rw [hat.get?]
  simp [hkind]

structure Clears (t u : FileTree) : Prop extends Keeps t u where
  old : ∀ {l e}, u.get? l = some e → t.get? l = some e

namespace Clears

theorem refl (t : FileTree) : Clears t t where
  toKeeps := Keeps.refl t
  old := fun h => h

theorem trans (h : Clears t u) (h' : Clears u v) : Clears t v where
  toKeeps := h.toKeeps.trans h'.toKeeps
  old := fun hl => h.old (h'.old hl)

theorem back (h : Clears t u) : Keeps u t where
  current := h.current.symm
  directory := fun hl _ => h.old hl
  gone := fun hl => (h.gone hl).symm

theorem get?_eq_none (h : Clears t u) (hget : t.get? l = none) : u.get? l = none := by
  cases hl : u.get? l with
  | none => rfl
  | some e =>
    rw [h.old hl] at hget
    cases hget

theorem advance_eq_notFound {here : Location} {step : String} (h : Clears t u)
    (hstep : t.advance here step = .error .notFound) : u.advance here step = .error .notFound := by
  unfold advance at hstep
  cases hhere : t.get? here with
  | none =>
    rw [hhere] at hstep
    unfold advance
    rw [h.get?_eq_none hhere]
    exact hstep
  | some e =>
    rw [hhere] at hstep
    dsimp only at hstep
    repeat' split at hstep
    all_goals cases hstep

theorem foldlM_eq_notFound {here : Location} {steps : List String} (h : Clears t u)
    (hwalk : steps.foldlM t.advance here = .error .notFound) :
    steps.foldlM u.advance here = .error .notFound := by
  obtain ⟨front, step, rest, l, rfl, hfront, hstep⟩ := exists_of_foldlM_error hwalk
  exact foldlM_eq_error (h.toKeeps.foldlM hfront) (h.advance_eq_notFound hstep)

theorem find_eq_notFound (h : Clears t u) (plain : t.Plain) (plain' : u.Plain)
    (habs : Path.isAbsolute path = true) (hfind : t.find path true = .error .notFound) :
    u.find path true = .error .notFound := by
  cases hfollow : t.follow path true with
  | ok l =>
    have hgone : isGone l = false := by
      rw [← locate_eq plain hfollow]
      exact isGone_locate habs
    have hget : t.get? l = none := by
      cases hl : t.get? l with
      | none => rfl
      | some e => simp only [find, hfollow, hl, bind, Except.bind] at hfind; split at hfind <;> cases hfind
    exact FileTree.find_eq_notFound (h.toKeeps.follow plain plain' hfollow) (h.get?_eq_none hget) hgone
  | error fault =>
    rw [find_eq_error hfollow, Except.error.injEq] at hfind
    subst hfind
    apply find_eq_error
    rw [follow_eq plain] at hfollow
    rw [follow_eq plain', h.toKeeps.start]
    cases hpath : pathFault? path with
    | some fault =>
      rw [hpath] at hfollow
      exact hfollow
    | none =>
      rw [hpath] at hfollow
      exact h.foldlM_eq_notFound hfollow

end Clears

theorem confinedTo_of_get? {found : Option Entry} (hcurrent : u.current = t.current)
    (hget : ∀ other, u.get? other = if other = l then found else t.get? other)
    (hdir : t.kind? l ≠ some .directory) (hgone : isGone l = false)
    (hlink : ∀ e, found = some e → e.isLink = false) : ConfinedTo [l] t u where
  current := hcurrent
  directory := by
    intro other e hother hdir'
    rw [hget, if_neg, hother]
    rintro rfl
    apply hdir
    unfold kind?
    rw [hother, Option.map_some]
    simpa [Entry.isDirectory] using hdir'
  gone := by
    intro other hother
    rw [hget, if_neg]
    rintro rfl
    rw [hgone] at hother
    cases hother
  elsewhere := by
    intro other hother
    left
    rw [hget, if_neg (by simpa using hother)]
  link := by
    intro other e hother hlink'
    rw [hget] at hother
    split at hother
    · rw [hlink e hother] at hlink'
      cases hlink'
    · exact hother

theorem isLink_of_kind {kind : Entry.Kind} (h : e.kind = kind) (hkind : ∀ target, kind ≠ .link target) :
    e.isLink = false := by
  unfold Entry.isLink
  rw [h]
  cases kind with
  | link target => exact absurd rfl (hkind target)
  | directory => rfl
  | file content => rfl

theorem confinedTo_create {kind : Entry.Kind} {mode : Nat} (hl : l ≠ [])
    (hdir : t.kind? l ≠ some .directory) (hgone : isGone l = false)
    (hkind : ∀ target, kind ≠ .link target) : ConfinedTo [l] t (t.create l kind mode) := by
  refine confinedTo_of_get? (current_create ..) (fun other => get?_create t l other kind mode hl)
    hdir hgone ?_
  intro e he
  cases he
  exact isLink_of_kind rfl hkind

theorem Plain.create {kind : Entry.Kind} {mode : Nat} (plain : t.Plain) (hl : l ≠ [])
    (hkind : ∀ target, kind ≠ .link target) : (t.create l kind mode).Plain := by
  intro other e hget
  rw [get?_create _ _ _ _ _ hl] at hget
  split at hget
  · cases hget
    exact isLink_of_kind rfl hkind
  · exact plain other e hget

theorem plain_empty : FileTree.empty.Plain := by
  intro l e hget
  cases l with
  | nil =>
    cases hget
    rfl
  | cons name above => cases hget

theorem confinedTo_place (hl : l ≠ []) (hdir : t.kind? l ≠ some .directory)
    (hgone : isGone l = false) (hlink : e.isLink = false) : ConfinedTo [l] t (t.place l e) := by
  refine confinedTo_of_get? (current_place ..) (fun other => get?_place t l other e hl) hdir hgone ?_
  intro e' he
  cases he
  exact hlink

theorem confinedTo_vacate (hl : l ≠ []) (hdir : t.kind? l ≠ some .directory)
    (hgone : isGone l = false) : ConfinedTo [l] t (t.vacate l) :=
  confinedTo_of_get? (current_vacate ..) (fun other => get?_vacate t l other hl) hdir hgone nofun

theorem clears_vacate (hl : l ≠ []) (hdir : t.kind? l ≠ some .directory)
    (hgone : isGone l = false) : Clears t (t.vacate l) where
  toKeeps := (confinedTo_vacate hl hdir hgone).toKeeps
  old := by
    intro other e hother
    rw [get?_vacate _ _ _ hl] at hother
    split at hother
    · cases hother
    · exact hother

theorem confinedTo_createDirectory {mode : Nat} (hl : l ≠ []) (hget : t.get? l = none)
    (hgone : isGone l = false) : ConfinedTo [] t (t.create l .directory mode) := by
  have hdir : t.kind? l ≠ some .directory := by simp [kind?, hget]
  have hcreate : ConfinedTo [l] t (t.create l .directory mode) :=
    confinedTo_create hl hdir hgone (by simp)
  refine ⟨hcreate.toKeeps, ?_, hcreate.link⟩
  intro other _
  by_cases hother : other = l
  · subst hother
    right
    rw [get?_create _ _ _ _ _ hl, if_pos rfl]
    exact ⟨hget, _, rfl, rfl⟩
  · exact hcreate.elsewhere (by simpa using hother)

theorem isGone_of_holder {last : String} (plain : t.Plain) (h : t.holder path = .ok (d, last))
    (hdot : last ≠ ".") : isGone (last :: d) = false := by
  obtain ⟨-, hlast, -⟩ := (holder_eq_ok_iff plain).1 h
  cases hsteps : (Path.steps path).getLast? with
  | none =>
    rw [hsteps] at hlast
    exact absurd hlast.symm hdot
  | some step =>
    rw [hsteps, Option.getD_some] at hlast
    subst hlast
    simp [isGone, ne_slash_of_mem_steps (List.mem_of_getLast? hsteps)]

theorem le_foldl_max {n start : Nat} {ns : List Nat} (h : n ≤ start ∨ n ∈ ns) :
    n ≤ ns.foldl max start := by
  induction ns generalizing start with
  | nil => simpa using h
  | cons first rest ih =>
    apply ih
    rcases h with h | h
    · left
      omega
    · rcases List.mem_cons.1 h with rfl | h
      · left
        omega
      · exact .inr h

theorem mem_names {name : String} (h : t.get? (name :: d) = some e) : name ∈ t.names d := by
  unfold names Table.keys
  simp only [get?, Table.lookup, Option.map_eq_some_iff] at h
  obtain ⟨entry, hfind, -⟩ := h
  have hkey := List.find?_some hfind
  rw [List.mem_filterMap]
  refine ⟨name :: d, ?_, by simp⟩
  rw [List.mem_map]
  exact ⟨entry, List.mem_of_find?_eq_some hfind, by simpa using hkey⟩

theorem get?_freshName (t : FileTree) (d : Location) : t.get? (Disk.freshName t d :: d) = none := by
  cases hget : t.get? (Disk.freshName t d :: d) with
  | none => rfl
  | some e =>
    have hmem := mem_names hget
    have hle : (Disk.freshName t d).length ≤ ((t.names d).map String.length).foldl max 0 :=
      le_foldl_max (.inr (List.mem_map_of_mem hmem))
    have hlength : (Disk.freshName t d).length =
        4 + ((t.names d).map String.length).foldl max 0 := by
      simp [Disk.freshName, String.length]
      omega
    omega

theorem isGone_freshName (t : FileTree) (d : Location) :
    isGone (Disk.freshName t d :: d) = false := by
  unfold isGone
  rw [decide_eq_false_iff_not, List.head?_cons, Option.some.injEq]
  intro h
  have := congrArg (fun name : String => name.toList.head?) h
  simp [Disk.freshName] at this

theorem confinedTo_of_get?_eq (hcurrent : u.current = t.current)
    (hget : ∀ other, u.get? other = t.get? other) : ConfinedTo places t u where
  current := hcurrent
  directory := by
    intro other e hother _
    rw [hget, hother]
  gone := fun _ => hget _
  elsewhere := fun _ => .inl (hget _)
  link := by
    intro other e hother _
    rw [← hget, hother]

def draft (t : FileTree) (d : Location) (content : ByteArray) : FileTree :=
  t.create (Disk.freshName t d :: d) (.file content) 0o600

theorem confinedTo_draft (t : FileTree) (d : Location) (content : ByteArray) :
    ConfinedTo [Disk.freshName t d :: d] t (t.draft d content) := by
  have hdir : t.kind? (Disk.freshName t d :: d) ≠ some .directory := by
    simp [kind?, get?_freshName]
  exact confinedTo_create (List.cons_ne_nil _ _) hdir (isGone_freshName t d) (by simp)

theorem get?_draft (t : FileTree) (d other : Location) (content : ByteArray) :
    (t.draft d content).get? other =
      if other = Disk.freshName t d :: d then some ⟨.file content, t.nextNumber, 0o600, t.now⟩
      else t.get? other :=
  get?_create _ _ _ _ _ (List.cons_ne_nil _ _)

theorem get?_vacate_draft (t : FileTree) (d other : Location) (content : ByteArray) :
    ((t.draft d content).vacate (Disk.freshName t d :: d)).get? other = t.get? other := by
  rw [get?_vacate _ _ _ (List.cons_ne_nil _ _), get?_draft]
  by_cases hother : other = Disk.freshName t d :: d
  · rw [if_pos hother, hother, get?_freshName]
  · rw [if_neg hother, if_neg hother]

theorem current_vacate_draft (t : FileTree) (d : Location) (content : ByteArray) :
    ((t.draft d content).vacate (Disk.freshName t d :: d)).current = t.current := by
  rw [current_vacate]
  exact current_create ..

theorem keeps_vacate_draft (t : FileTree) (d : Location) (content : ByteArray) :
    Keeps (t.draft d content) ((t.draft d content).vacate (Disk.freshName t d :: d)) := by
  apply (confinedTo_vacate (List.cons_ne_nil _ _) _ (isGone_freshName t d)).toKeeps
  simp [kind?, get?_draft]

structure Made (t u : FileTree) (l : Location) : Prop where
  entry : ∃ e above, u.get? l = some e ∧ e.kind = .directory ∧ u.get? l.tail = some above ∧
    above.isDirectory = true ∧ e.mode = 0o755 ||| (above.mode &&& 0o2000)
  writable : ∀ {above}, t.get? l.tail = some above → above.isDirectory = true →
    above.isWritable = true

namespace Made

theorem keeps (h : Made t u l) (hkeeps : Keeps u v) : Made t v l := by
  obtain ⟨⟨e, above, hget, hkind, habove, hdir, hmode⟩, hwritable⟩ := h
  refine ⟨⟨e, above, ?_, hkind, hkeeps.directory habove hdir, hdir, hmode⟩, hwritable⟩
  apply hkeeps.directory hget
  simp [Entry.isDirectory, hkind]

theorem of_keeps (h : Made u v l) (hkeeps : Keeps t u) : Made t v l :=
  ⟨h.entry, fun hget hdir => h.writable (hkeeps.directory hget hdir) hdir⟩

theorem isWritable (h : Made t u l) (hget : u.get? l = some e) : e.isWritable = true := by
  obtain ⟨⟨e', above, hget', -, -, -, hmode⟩, -⟩ := h
  rw [hget', Option.some.injEq] at hget
  subst hget
  unfold Entry.isWritable
  rw [hmode, Nat.and_or_distrib_right]
  simp

theorem isExecutable (h : Made t u l) (hget : u.get? l = some e) : e.isExecutable = true := by
  obtain ⟨⟨e', above, hget', -, -, -, hmode⟩, -⟩ := h
  rw [hget', Option.some.injEq] at hget
  subst hget
  unfold Entry.isExecutable
  rw [hmode, Nat.and_or_distrib_right]
  simp

theorem isDirectory (h : Made t u l) (hget : u.get? l = some e) : e.isDirectory = true := by
  obtain ⟨⟨e', above, hget', hkind, -⟩, -⟩ := h
  rw [hget', Option.some.injEq] at hget
  subst hget
  simp [Entry.isDirectory, hkind]

end Made

/--
Whether a tree has come from another one by changes at some places and by making directories elsewhere, at
some locations where nothing was.
-/
structure Builds (made : Location → Prop) (places : List Location) (t u : FileTree) : Prop
    extends ConfinedTo places t u where
  built : ∀ {l}, l ∉ places → u.get? l ≠ t.get? l → made l ∧ Made t u l

namespace Builds

variable {made made' : Location → Prop}

theorem of_get?_eq (hcurrent : u.current = t.current)
    (hget : ∀ other, u.get? other = t.get? other) : Builds made places t u where
  toConfinedTo := confinedTo_of_get?_eq hcurrent hget
  built := fun _ hne => absurd (hget _) hne

theorem refl (made : Location → Prop) (places : List Location) (t : FileTree) :
    Builds made places t t :=
  of_get?_eq rfl fun _ => rfl

theorem trans (h : Builds made places t u) (h' : Builds made places u v) :
    Builds made places t v where
  toConfinedTo := h.toConfinedTo.trans h'.toConfinedTo
  built := by
    intro l hl hne
    by_cases hu : u.get? l = t.get? l
    · rw [← hu] at hne
      obtain ⟨hmade, hnew⟩ := h'.built hl hne
      exact ⟨hmade, hnew.of_keeps h.toKeeps⟩
    · obtain ⟨hmade, hnew⟩ := h.built hl hu
      exact ⟨hmade, hnew.keeps h'.toKeeps⟩

theorem mono {others : List Location} (h : Builds made places t u) (hmade : ∀ l, made l → made' l)
    (hsub : places ⊆ others) : Builds made' others t u where
  toConfinedTo := h.toConfinedTo.mono hsub
  built := by
    intro l hl hne
    obtain ⟨hl', hnew⟩ := h.built (fun hmem => hl (hsub hmem)) hne
    exact ⟨hmade l hl', hnew⟩

theorem get?_eq_none (h : Builds made places t u) (hl : l ∉ places) (hne : u.get? l ≠ t.get? l) :
    t.get? l = none := by
  rcases h.elsewhere hl with heq | ⟨hnone, -⟩
  · exact absurd heq hne
  · exact hnone

end Builds

theorem builds_create (hget : t.get? l = none) (hgone : isGone l = false)
    (habove : t.get? l.tail = some e) (hdir : e.isDirectory = true) (hwritable : e.isWritable = true) :
    Builds (fun other => other = l) [] t
      (t.create l .directory (0o755 ||| (e.mode &&& 0o2000))) := by
  have hl : l ≠ [] := by
    rintro rfl
    cases hget
  refine ⟨confinedTo_createDirectory hl hget hgone, ?_⟩
  have hnew := get?_create t l l .directory (0o755 ||| (e.mode &&& 0o2000)) hl
  rw [if_pos rfl] at hnew
  have hkept : l.tail ≠ l := by
    cases l with
    | nil => exact absurd rfl hl
    | cons name above => exact fun heq => List.cons_ne_self _ _ heq.symm
  intro other _ hne
  rw [get?_create _ _ _ _ _ hl] at hne
  split at hne
  · next heq =>
    subst heq
    refine ⟨rfl, ⟨_, e, hnew, rfl, ?_, hdir, rfl⟩, ?_⟩
    · rw [get?_create _ _ _ _ _ hl, if_neg hkept, habove]
    · intro above hget' _
      rw [habove, Option.some.injEq] at hget'
      rwa [← hget']
  · exact absurd rfl hne

def Leads (t : FileTree) (paths : List String) (l : Location) : Prop :=
  ∃ path ∈ paths, path.isEmpty = false ∧ t.locate path = l

theorem Keeps.leads (h : Keeps t u) (paths : List String) : u.Leads paths = t.Leads paths := by
  funext l
  unfold Leads
  simp only [h.locate]

theorem Leads.mono {paths others : List String} (h : t.Leads paths l) (hsub : paths ⊆ others) :
    t.Leads others l := by
  obtain ⟨path, hmem, hpath⟩ := h
  exact ⟨path, hsub hmem, hpath⟩

end FileTree

end DartBundle
