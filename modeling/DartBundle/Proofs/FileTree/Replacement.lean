import DartBundle.Proofs.FileTree.Operations
/-!
This module contains what is read where a file has been replaced, in all trees, also in those with links.
Nobody gets beyond a file, so a way to the new one has not led through it before.
-/

namespace DartBundle

namespace FileTree

variable {t u : FileTree} {here l d : Location} {path step last : String} {steps front rest : List String}
  {places : List Location} {content other : ByteArray} {e : Entry} {links : Nat}

/--
Whether two trees differ in nothing but files of the second one, and where that one has nothing.
-/
structure Blocks (places : List Location) (t u : FileTree) : Prop where
  current : u.current = t.current
  same : ∀ l, l ∉ places → u.get? l = t.get? l
  blocked : ∀ l ∈ places, (∃ e, u.get? l = some e ∧ e.isFile = true) ∨
    u.get? l = none ∧ isGone l = false

theorem Blocks.eq_nil (h : Blocks places t u) (hmem : here ∈ places) {followLast : Bool}
    {jump : Location → String → List String → Except FileFault Location}
    (hwalk : u.walkToLink followLast jump here steps = .ok l) : steps = [] ∧ l = here := by
  cases steps with
  | nil =>
    cases hwalk
    exact ⟨rfl, rfl⟩
  | cons step rest =>
    unfold walkToLink at hwalk
    rcases h.blocked here hmem with ⟨e, hget, hfile⟩ | ⟨hget, hgone⟩
    · simp [hget, isDirectory_of_isFile hfile] at hwalk
    · simp [hget, hgone] at hwalk

theorem Blocks.move (h : Blocks places t u) (hhere : here ∉ places) (followLast isLast : Bool) :
    u.move followLast here step isLast = t.move followLast here step isLast ∨
      step :: here ∈ places ∧ (u.move followLast here step isLast = .onward (step :: here) ∨
        ∃ result, u.move followLast here step isLast = .stop result ∧
          ∀ l, result = .ok l → l = step :: here) := by
  unfold FileTree.move
  rw [h.same here hhere]
  cases t.get? here with
  | none => exact .inl rfl
  | some e =>
    by_cases hnext : step :: here ∈ places
    case neg =>
      left
      unfold kind?
      rw [h.same _ hnext]
    dsimp only
    split
    · exact .inl rfl
    split
    · exact .inl rfl
    split
    · exact .inl rfl
    split
    · exact .inl rfl
    refine .inr ⟨hnext, ?_⟩
    unfold kind?
    rcases h.blocked _ hnext with ⟨e', hfound, hfile⟩ | ⟨hmissing, -⟩
    · rw [hfound, Option.map_some]
      unfold Entry.isFile at hfile
      split at hfile
      · next hkind =>
        rw [hkind]
        exact .inl rfl
      · cases hfile
    · rw [hmissing]
      refine .inr ⟨_, rfl, ?_⟩
      intro l hl
      cases isLast <;> cases hl
      rfl

theorem Blocks.walkToLink (h : Blocks places t u) {followLast : Bool}
    {jump jump' : Location → String → List String → Except FileFault Location}
    (hjump : ∀ d target rest, jump' d target rest = .ok l → jump d target rest = .ok l ∨ l ∈ places)
    (hwalk : u.walkToLink followLast jump' here steps = .ok l) :
    t.walkToLink followLast jump here steps = .ok l ∨ l ∈ places := by
  induction steps generalizing here with
  | nil => exact .inl hwalk
  | cons step rest ih =>
    by_cases hhere : here ∈ places
    · cases (h.eq_nil hhere hwalk).1
    rw [walkToLink_cons] at hwalk ⊢
    rcases h.move hhere followLast rest.isEmpty with hsame | ⟨hnext, honward | ⟨result, hstop, hend⟩⟩
    · rw [hsame] at hwalk
      cases hmove : t.move followLast here step rest.isEmpty with
      | onward next =>
        rw [hmove] at hwalk
        exact ih hwalk
      | jump target =>
        rw [hmove] at hwalk
        exact hjump _ _ _ hwalk
      | stop result =>
        rw [hmove] at hwalk
        exact .inl hwalk
    · -- the step leads to a place that is blocked, and the way is at its end there
      right
      rw [honward] at hwalk
      rw [(h.eq_nil hnext hwalk).2]
      exact hnext
    · right
      rw [hstop] at hwalk
      rw [hend l hwalk]
      exact hnext

theorem Blocks.walk (h : Blocks places t u) {followLast : Bool}
    (hwalk : u.walk followLast links here steps = .ok l) :
    t.walk followLast links here steps = .ok l ∨ l ∈ places := by
  induction links generalizing here steps with
  | zero =>
    unfold FileTree.walk at hwalk ⊢
    exact h.walkToLink (fun _ _ _ hjump => .inl hjump) hwalk
  | succ links ih =>
    unfold FileTree.walk at hwalk ⊢
    refine h.walkToLink ?_ hwalk
    intro d target rest hjump
    split at hjump
    · cases hjump
    · next hempty =>
      rw [if_neg hempty]
      exact ih hjump

theorem move_of_more (t : FileTree) (here : Location) (step : String) (isLast : Bool) :
    (∃ fault, t.move true here step false = .stop (.error fault)) ∨
      t.move true here step isLast = t.move true here step false ∧
        ∀ result, t.move true here step false ≠ .stop result := by
  unfold move
  simp only [Bool.not_true, Bool.and_false, Bool.false_eq_true, if_false]
  repeat' split
  all_goals simp

theorem walkToLink_concat {jump : Location → String → List String → Except FileFault Location}
    {goal : Location → Prop} (hlast : ∀ here, t.walkToLink true jump here [last] = .ok l → goal here)
    (hjump : ∀ d target others, jump d target (others ++ [last]) = .ok l →
      ∃ next, jump d target others = .ok next ∧ goal next)
    (hwalk : t.walkToLink true jump here (front ++ [last]) = .ok l) :
    ∃ next, t.walkToLink true jump here front = .ok next ∧ goal next := by
  induction front generalizing here with
  | nil => exact ⟨here, rfl, hlast here hwalk⟩
  | cons step others ih =>
    have hmore : (others ++ [last]).isEmpty = false := by simp
    rw [List.cons_append, walkToLink_cons, hmore] at hwalk
    rw [walkToLink_cons]
    rcases t.move_of_more here step others.isEmpty with ⟨fault, hstop⟩ | ⟨hsame, hgoes⟩
    · rw [hstop] at hwalk
      cases hwalk
    rw [hsame]
    cases hmove : t.move true here step false with
    | onward next =>
      rw [hmove] at hwalk
      exact ih hwalk
    | jump target =>
      rw [hmove] at hwalk
      exact hjump _ _ _ hwalk
    | stop result => exact absurd hmove (hgoes result)

theorem walk_concat (hwalk : t.walk true links here (front ++ [last]) = .ok l) :
    ∃ next left, t.walk true links here front = .ok next ∧ t.walk true left next [last] = .ok l := by
  have hgoal : ∃ next, t.walk true links here front = .ok next ∧
      ∃ left, t.walk true left next [last] = .ok l := by
    induction links generalizing here front with
    | zero =>
      unfold FileTree.walk at hwalk
      exact walkToLink_concat (fun here h => ⟨0, h⟩) (fun _ _ _ hjump => by cases hjump) hwalk
    | succ links ih =>
      unfold FileTree.walk at hwalk
      refine walkToLink_concat (fun here h => ⟨links + 1, h⟩) ?_ hwalk
      intro d target others hjump
      split at hjump
      · cases hjump
      · next hempty =>
        rw [if_neg hempty]
        rw [← List.append_assoc] at hjump
        exact ih hjump
  obtain ⟨next, hfront, left, hlast⟩ := hgoal
  exact ⟨next, left, hfront, hlast⟩

theorem eq_of_walk_file (hdot : last ≠ ".") (hup : last ≠ "..") (hget : t.get? (last :: d) = some e)
    (hkind : e.kind = .file content) (hwalk : t.walk true links d [last] = .ok l) : l = last :: d := by
  have hstep : ∀ {jump}, t.walkToLink true jump d [last] = .ok l → l = last :: d := by
    intro jump hwalk
    have hnext : t.kind? (last :: d) = some (.file content) := by
      unfold kind?
      rw [hget, Option.map_some, hkind]
    unfold walkToLink at hwalk
    simp only [hdot, hup, hnext, decide_false, Bool.and_false, Bool.false_eq_true, if_false] at hwalk
    repeat' split at hwalk
    all_goals cases hwalk
    rfl
  cases links with
  | zero => exact hstep hwalk
  | succ links => exact hstep hwalk

theorem Blocks.eq_of_holder (h : Blocks places t u) (hholder : t.holder path = .ok (d, last))
    (hdot : last ≠ ".") (hup : last ≠ "..") (hget : u.get? (last :: d) = some e)
    (hkind : e.kind = .file content) (hfollow : u.follow path true = .ok l) : l = last :: d := by
  unfold holder at hholder
  unfold follow at hfollow
  cases hpath : pathFault? path with
  | some fault =>
    rw [hpath] at hfollow
    cases hfollow
  | none =>
    simp only [hpath, Bool.true_or] at hholder hfollow
    have hstart : u.start path = t.start path := by
      unfold start
      rw [h.current]
    rw [hstart] at hfollow
    rcases List.eq_nil_or_concat (Path.steps path) with hnil | ⟨front, name, hsteps⟩
    · rw [hnil] at hholder
      repeat' split at hholder
      all_goals cases hholder
      exact absurd rfl hdot
    · rw [hsteps, List.concat_eq_append] at hholder hfollow
      rw [List.dropLast_concat, List.getLast?_concat, Option.getD_some] at hholder
      obtain ⟨next, left, hfront, hname⟩ := walk_concat hfollow
      rcases h.walk hfront with hbefore | hmem
      · rw [hbefore] at hholder
        dsimp only at hholder
        repeat' split at hholder
        all_goals cases hholder
        exact eq_of_walk_file hdot hup hget hkind hname
      · have hend : [name] = [] ∧ l = next := by
          cases left with
          | zero => exact h.eq_nil hmem hname
          | succ left => exact h.eq_nil hmem hname
        cases hend.1

end FileTree

namespace Disk

open FileTree

variable {t u : FileTree} {path : String} {content found : ByteArray}

theorem replaceFile_blocks (h : replaceFile path content t = .ok () u) :
    ∃ v d last e, v.holder path = .ok (d, last) ∧ last ≠ "." ∧ last ≠ ".." ∧
      u.get? (last :: d) = some e ∧ e.kind = .file content ∧ ∃ places, Blocks places v u := by
  unfold replaceFile at h
  cases hparent : Path.parent? path with
  | none =>
    rw [hparent] at h
    cases h
  | some parent =>
    rw [hparent] at h
    obtain ⟨_, v, -, h⟩ := Work.bind_eq_ok_iff.1 h
    obtain ⟨temporary, w, htemporary, h⟩ := Work.bind_eq_ok_iff.1 h
    rcases createTemporary_cases parent content v with ⟨fault, hcreate⟩ | ⟨d', hcreate⟩
    · rw [hcreate] at htemporary
      cases htemporary
    · rw [hcreate] at htemporary
      cases htemporary
      rcases renameFile_cases (freshName v d' :: d') path (v.draft d' content) with
        ⟨fault, hrename⟩ | ⟨d, last, e, hholder, hdot, hup, -, -, -, hsource, hrename⟩
      · rw [keepTemporary_of_error hrename] at h
        cases h
      · rw [keepTemporary_of_ok hrename] at h
        cases h
        have hkind : e.kind = .file content := by
          rw [get?_draft, if_pos rfl] at hsource
          cases hsource
          rfl
        have hget (l : Location) : (((v.draft d' content).vacate (freshName v d' :: d')).place
            (last :: d) e).get? l = if l = last :: d then some e else v.get? l := by
          rw [get?_place _ _ _ _ (List.cons_ne_nil _ _), get?_vacate_draft]
        refine ⟨v.draft d' content, d, last, e, hholder, hdot, hup, by rw [hget, if_pos rfl], hkind,
          [last :: d, freshName v d' :: d'], ?_, ?_, ?_⟩
        · rw [current_place, current_vacate]
        · intro l hl
          rw [List.mem_cons, List.mem_singleton, not_or] at hl
          rw [hget, if_neg hl.1, get?_draft, if_neg hl.2]
        · intro l hl
          rw [hget]
          split
          · exact .inl ⟨e, rfl, isFile_of_kind hkind⟩
          · next hne =>
            -- the temporary name is free again
            obtain rfl := (List.mem_cons.1 hl).elim (absurd · hne) List.mem_singleton.1
            exact .inr ⟨get?_freshName v d', isGone_freshName v d'⟩

theorem eq_of_read_replaceFile (h : replaceFile path content t = .ok () u) (hread : u.read path = .ok found) :
    found = content := by
  obtain ⟨v, d, last, e, hholder, hdot, hup, hget, hkind, places, hblocks⟩ := replaceFile_blocks h
  obtain ⟨l, e', hat, -, hfound⟩ := read_eq_ok_iff.1 hread
  have hl := hblocks.eq_of_holder hholder hdot hup hget hkind hat.follow
  rw [← hl, hat.get?] at hget
  cases hget
  rw [hkind] at hfound
  cases hfound
  rfl

end Disk

end DartBundle
