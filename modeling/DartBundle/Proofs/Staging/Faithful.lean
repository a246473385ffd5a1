import DartBundle.Proofs.Staging.Agreement
/-!
This module contains when staged files hold what the reader gave for them, and when staging once more has
nothing left to do. Both fail if two sources with different bytes are staged at one place, since the
later one is written over the earlier one.
-/

namespace DartBundle

namespace StagingArea

open FileTree

variable {area : StagingArea} {reader : Reader} {t u v : FileTree} {id : AssetId}
  {ids : List AssetId} {written : Bool} {count : Nat} {path : String} {content : ByteArray}
  {a : AssetId × ByteArray} {assets : List (AssetId × ByteArray)}

def given (area : StagingArea) (reader : Reader) : List AssetId → FileTree → List (AssetId × ByteArray)
  | [], _ => []
  | id :: rest, t =>
    match reader t id with
    | .error _ => []
    | .ok content => (id, content) :: area.given reader rest (Work.left (area.stage reader id t))

/--
Whether assets that are staged at one place have the same bytes.
-/
def Uncontested (area : StagingArea) (assets : List (AssetId × ByteArray)) (t : FileTree) : Prop :=
  ∀ a ∈ assets, ∀ b ∈ assets,
    t.locate (area.pathFor a.1) = t.locate (area.pathFor b.1) → a.2 = b.2

instance : Decidable (area.Uncontested assets t) :=
  inferInstanceAs (Decidable (∀ _ ∈ _, ∀ _ ∈ _, _ → _))

def Holds (area : StagingArea) (assets : List (AssetId × ByteArray)) (t : FileTree) : Prop :=
  ∀ a ∈ assets, t.read (area.pathFor a.1) = .ok a.2

theorem uncontested_of_pairwise
    (h : assets.Pairwise fun a b => t.locate (area.pathFor a.1) ≠ t.locate (area.pathFor b.1)) :
    area.Uncontested assets t := by
  induction h with
  | nil => nofun
  | @cons first rest hfirst _ ih =>
    intro a ha b hb hplace
    rcases List.mem_cons.1 ha with rfl | harest
    · rcases List.mem_cons.1 hb with rfl | hbrest
      · rfl
      · exact absurd hplace (hfirst b hbrest)
    · rcases List.mem_cons.1 hb with rfl | hbrest
      · exact absurd hplace.symm (hfirst a harest)
      · exact ih a harest b hbrest hplace

theorem given_cons (hread : reader t id = .ok content) (hstage : area.stage reader id t = .ok written v) :
    area.given reader (id :: ids) t = (id, content) :: area.given reader ids v := by
  conv => lhs; unfold given
  rw [hread, hstage]
  rfl

theorem map_fst_given (plain : t.Plain) (h : area.stageAll reader ids t = .ok count u) :
    (area.given reader ids t).map Prod.fst = ids := by
  induction ids generalizing t count with
  | nil => rfl
  | cons id rest ih =>
    obtain ⟨written, v, others, hstage, hrest⟩ := stageAll_cons_ok h
    obtain ⟨content, hread, hwrites⟩ := stage_ok plain hstage
    rw [given_cons hread hstage, List.map_cons, ih (hwrites.confined.plain plain) hrest]

theorem read_of_stageAll (plain : t.Plain) (h : area.stageAll reader ids t = .ok count u)
    (hread : t.read path = .ok content)
    (hsame : ∀ a ∈ area.given reader ids t,
      t.locate (area.pathFor a.1) = t.locate path → a.2 = content) : u.read path = .ok content := by
  induction ids generalizing t count with
  | nil =>
    cases h
    exact hread
  | cons id rest ih =>
    obtain ⟨written, v, others, hstage, hrest⟩ := stageAll_cons_ok h
    obtain ⟨first, hfirst, hwrites⟩ := stage_ok plain hstage
    rw [given_cons hfirst hstage] at hsame
    have hnext : v.read path = .ok content := by
      rw [hwrites.read_other plain hread]
      split
      · next hplace =>
        have : first = content := hsame (id, first) List.mem_cons_self hplace.symm
        rw [this]
      · rfl
    refine ih (hwrites.confined.plain plain) hrest hnext ?_
    intro a ha hplace
    rw [hwrites.confined.toKeeps.locate, hwrites.confined.toKeeps.locate] at hplace
    exact hsame a (List.mem_cons_of_mem _ ha) hplace

theorem keeps_of_stageAll (plain : t.Plain) (h : area.stageAll reader ids t = .ok count u) :
    Keeps t u ∧ u.Plain := by
  have hconfined := stageAll_confined area reader ids plain
  rw [h] at hconfined
  exact ⟨hconfined.toKeeps, hconfined.plain plain⟩

theorem holds_of_uncontested (plain : t.Plain) (h : area.stageAll reader ids t = .ok count u)
    (huncontested : area.Uncontested (area.given reader ids t) t) :
    area.Holds (area.given reader ids t) u := by
  induction ids generalizing t count with
  | nil => nofun
  | cons id rest ih =>
    obtain ⟨written, v, others, hstage, hrest⟩ := stageAll_cons_ok h
    obtain ⟨content, hread, hwrites⟩ := stage_ok plain hstage
    have plain' := hwrites.confined.plain plain
    rw [given_cons hread hstage] at huncontested ⊢
    have hplaces : ∀ path, v.locate path = t.locate path := fun _ => hwrites.confined.toKeeps.locate
    intro a ha
    rcases List.mem_cons.1 ha with rfl | ha
    · -- nothing that comes later changes the bytes of the first file
      apply read_of_stageAll plain' hrest hwrites.read
      intro b hb hplace
      rw [hplaces, hplaces] at hplace
      exact huncontested b (List.mem_cons_of_mem _ hb) _ List.mem_cons_self hplace
    · refine ih plain' hrest ?_ a ha
      intro b hb c hc hplace
      rw [hplaces, hplaces] at hplace
      exact huncontested b (List.mem_cons_of_mem _ hb) c (List.mem_cons_of_mem _ hc) hplace

theorem uncontested_of_holds (plain : t.Plain) (h : area.Holds assets t) :
    area.Uncontested assets t := by
  intro a ha b hb hplace
  have hread := (ConfinedTo.refl [] t).read_same plain hplace (h a ha) (h b hb)
  rw [h a ha, Except.ok.injEq] at hread
  exact hread

theorem holds_iff_uncontested (plain : t.Plain) (h : area.stageAll reader ids t = .ok count u) :
    area.Holds (area.given reader ids t) u ↔ area.Uncontested (area.given reader ids t) t := by
  obtain ⟨hkeeps, plain'⟩ := keeps_of_stageAll plain h
  constructor
  · intro hholds a ha b hb hplace
    apply uncontested_of_holds plain' hholds a ha b hb
    rw [hkeeps.locate, hkeeps.locate]
    exact hplace
  · exact holds_of_uncontested plain h

theorem stage_eq_false_iff :
    area.stage reader id t = .ok false u ↔
      t = u ∧ id.validate = .ok () ∧
        ∃ content, reader t id = .ok content ∧ t.read (area.pathFor id) = .ok content := by
  rw [stage_eq_ok_iff]
  constructor
  · rintro ⟨hvalid, content, hreader, ⟨-, hread, rfl⟩ | ⟨hwritten, -⟩⟩
    · exact ⟨rfl, hvalid, content, hreader, hread⟩
    · cases hwritten
  · rintro ⟨rfl, hvalid, content, hreader, hread⟩
    exact ⟨hvalid, content, hreader, .inl ⟨rfl, hread, rfl⟩⟩

theorem stageAll_eq_zero_iff :
    area.stageAll reader ids t = .ok 0 u ↔
      t = u ∧ ∀ id ∈ ids, id.validate = .ok () ∧
        ∃ content, reader t id = .ok content ∧ t.read (area.pathFor id) = .ok content := by
  induction ids generalizing t with
  | nil =>
    unfold stageAll
    rw [Work.pure_run]
    simp
  | cons id rest ih =>
    unfold stageAll
    constructor
    · intro h
      obtain ⟨written, v, hstage, h⟩ := Work.bind_eq_ok_iff.1 h
      obtain ⟨others, v', hrest, h⟩ := Work.bind_eq_ok_iff.1 h
      rw [Work.pure_run, EStateM.Result.ok.injEq] at h
      obtain ⟨hcount, rfl⟩ := h
      -- no file counts twice, so nothing at all has been written
      obtain ⟨rfl, rfl⟩ : written = false ∧ others = 0 := by
        cases written <;> simp_all
      obtain ⟨rfl, hfirst⟩ := stage_eq_false_iff.1 (FileWork.whileStaging_eq_ok_iff.1 hstage)
      obtain ⟨rfl, hothers⟩ := ih.1 hrest
      exact ⟨rfl, List.forall_mem_cons.2 ⟨hfirst, hothers⟩⟩
    · rintro ⟨rfl, hall⟩
      obtain ⟨hfirst, hothers⟩ := List.forall_mem_cons.1 hall
      have hstage : FileWork.whileStaging id (area.stage reader id) t = .ok false t :=
        FileWork.whileStaging_eq_ok_iff.2 (stage_eq_false_iff.2 ⟨rfl, hfirst⟩)
      rw [Work.bind_of_ok hstage, Work.bind_of_ok (ih.2 ⟨rfl, hothers⟩)]
      rfl

theorem validate_of_stageAll (h : area.stageAll reader ids t = .ok count u) :
    ∀ id ∈ ids, id.validate = .ok () := by
  induction ids generalizing t count with
  | nil => nofun
  | cons id rest ih =>
    obtain ⟨written, v, others, hstage, hrest⟩ := stageAll_cons_ok h
    exact List.forall_mem_cons.2 ⟨(stage_eq_ok_iff.1 hstage).1, ih hrest⟩

theorem stageAll_again_iff {order : List AssetId} (plain : t.Plain)
    (h : area.stageAll reader ids t = .ok count u) (horder : order.Perm ids)
    (hagain : ∀ a ∈ area.given reader ids t, reader u a.1 = .ok a.2) :
    area.stageAll reader order u = .ok 0 u ↔ area.Holds (area.given reader ids t) u := by
  have hids := map_fst_given plain h
  rw [stageAll_eq_zero_iff]
  constructor
  · rintro ⟨-, hall⟩ a ha
    have hmem : a.1 ∈ order := by
      rw [horder.mem_iff, ← hids]
      exact List.mem_map_of_mem ha
    obtain ⟨-, content, hread, hheld⟩ := hall a.1 hmem
    rw [hagain a ha, Except.ok.injEq] at hread
    rw [hread]
    exact hheld
  · intro hholds
    refine ⟨rfl, fun id hid => ?_⟩
    rw [horder.mem_iff] at hid
    refine ⟨validate_of_stageAll h id hid, ?_⟩
    rw [← hids] at hid
    obtain ⟨a, ha, rfl⟩ := List.mem_map.1 hid
    exact ⟨a.2, hagain a ha, hholds a ha⟩

theorem stageClosure_faithful_iff {closure : Closure} (plain : t.Plain)
    (horder : ids.Perm closure.sources) (h : area.stageAll reader ids t = .ok count u) :
    (area.given reader ids t).map Prod.fst = ids ∧
      (area.Holds (area.given reader ids t) u ↔ area.Uncontested (area.given reader ids t) t) ∧
      ((∀ a ∈ area.given reader ids t, reader u a.1 = .ok a.2) →
        (area.stageClosure reader closure u = .ok 0 u ↔
          area.Uncontested (area.given reader ids t) t)) := by
  have hholds := holds_iff_uncontested plain h
  refine ⟨map_fst_given plain h, hholds, ?_⟩
  intro hagain
  exact (stageAll_again_iff plain h horder.symm hagain).trans hholds

/--
A tree with a link. A source can be written over the link that its own path leads through, and then it is
not found where it is staged, so trees with links are left out.
-/
def linked : FileTree :=
  (FileTree.empty.create ["s"] .directory 0o755).create ["p", "s"] (.link ".") 0o777

example :
    Work.answer? (stageAll ⟨"/s"⟩ (fun _ _ => .ok ⟨#[1]⟩) [⟨"a", "p/p"⟩] linked) = some 1 ∧
      ((Work.left (stageAll ⟨"/s"⟩ (fun _ _ => .ok ⟨#[1]⟩) [⟨"a", "p/p"⟩] linked)).read
        (pathFor ⟨"/s"⟩ ⟨"a", "p/p"⟩)).toOption = none := by
  decide +kernel

def paired (other : AssetId) : ModuleGraph where
  modules := [{ primarySource := ⟨"a", "w"⟩, sources := [other] }]
  distinct := by simp

def pairedClosure (other : AssetId) : Closure :=
  ⟨⟨"a", "w"⟩, (paired other).modules⟩

def packageReader : Reader := fun _ id =>
  .ok (if id.package = "a" then ⟨#[1]⟩ else ⟨#[2]⟩)

theorem given_paired_library :
    given ⟨"/s"⟩ packageReader (pairedClosure ⟨"b", "lib/w"⟩).sources .empty =
      [(⟨"a", "w"⟩, ⟨#[1]⟩), (⟨"b", "lib/w"⟩, ⟨#[2]⟩)] := by
  decide +kernel

theorem read_of_holds_paired_library
    (h : Holds ⟨"/s"⟩ (given ⟨"/s"⟩ packageReader (pairedClosure ⟨"b", "lib/w"⟩).sources .empty) u) :
    u.read "/s/w" = .ok ⟨#[1]⟩ ∧ u.read "/s/packages/b/w" = .ok ⟨#[2]⟩ := by
  rw [given_paired_library] at h
  have hpage := h (⟨"a", "w"⟩, ⟨#[1]⟩) (by simp)
  have hlibrary := h (⟨"b", "lib/w"⟩, ⟨#[2]⟩) (by simp)
  have hpagePath : pathFor ⟨"/s"⟩ ⟨"a", "w"⟩ = "/s/w" := by decide +kernel
  have hlibraryPath : pathFor ⟨"/s"⟩ ⟨"b", "lib/w"⟩ = "/s/packages/b/w" := by decide +kernel
  rw [hpagePath] at hpage
  rw [hlibraryPath] at hlibrary
  exact ⟨hpage, hlibrary⟩

theorem library_staged_beside_page :
    ∃ u, stageClosure ⟨"/s"⟩ packageReader (pairedClosure ⟨"b", "lib/w"⟩) .empty = .ok 2 u ∧
      u.read "/s/w" = .ok ⟨#[1]⟩ ∧ u.read "/s/packages/b/w" = .ok ⟨#[2]⟩ ∧
        stageClosure ⟨"/s"⟩ packageReader (pairedClosure ⟨"b", "lib/w"⟩) u = .ok 0 u := by
  have hfirst := Work.eq_ok_of_answer? (show Work.answer? (stageClosure ⟨"/s"⟩ packageReader
    (pairedClosure ⟨"b", "lib/w"⟩) .empty) = some 2 by decide +kernel)
  obtain ⟨-, hholds, hagain⟩ := stageClosure_faithful_iff plain_empty (.refl _) hfirst
  have huncontested : Uncontested ⟨"/s"⟩ (given ⟨"/s"⟩ packageReader
      (pairedClosure ⟨"b", "lib/w"⟩).sources .empty) .empty := by
    rw [given_paired_library]
    decide +kernel
  obtain ⟨hpage, hlibrary⟩ := read_of_holds_paired_library (hholds.2 huncontested)
  refine ⟨_, hfirst, hpage, hlibrary, (hagain ?_).2 huncontested⟩
  rw [given_paired_library]
  simp [packageReader]

theorem page_overwritten_by_homonym :
    (paired ⟨"b", "w"⟩).closure ⟨"a", "w"⟩ = .ok (.resolved (pairedClosure ⟨"b", "w"⟩)) ∧
      ∃ u, stageClosure ⟨"/s"⟩ packageReader (pairedClosure ⟨"b", "w"⟩) .empty = .ok 2 u ∧
        ⟨"a", "w"⟩ ∈ (pairedClosure ⟨"b", "w"⟩).sources ∧
        packageReader u ⟨"a", "w"⟩ = .ok ⟨#[1]⟩ ∧
          u.read (pathFor ⟨"/s"⟩ ⟨"a", "w"⟩) = .ok ⟨#[2]⟩ ∧
            ∃ v, stageClosure ⟨"/s"⟩ packageReader (pairedClosure ⟨"b", "w"⟩) u = .ok 2 v := by
  refine ⟨eq_ok_of_toOption ?_, _, Work.eq_ok_of_answer? ?_, ?_, ?_, eq_ok_of_toOption ?_, _,
    Work.eq_ok_of_answer? ?_⟩
  · decide +kernel
  · decide +kernel
  · decide +kernel
  · simp [packageReader]
  · decide +kernel
  · decide +kernel

end StagingArea

end DartBundle
