import DartBundle.Asset.Directories
import DartBundle.Asset.Memory
import DartBundle.Proofs.Asset.Siblings
import DartBundle.Proofs.FileTree.Filling
/-!
This module contains that assets can be staged in any order, if their files are different ones and what is
read for them does not depend on these files.
-/

namespace DartBundle

open FileTree

/--
Whether a reader goes on giving the bytes that it gives for some assets when files at some places change and
directories are made.
-/
def Reader.Steady (reader : Reader) (ids : List AssetId) (places : List Location) (t : FileTree) : Prop :=
  ∀ u, ConfinedTo places t u → ∀ id ∈ ids, (reader u id).toOption = (reader t id).toOption

theorem eq_ok_iff_of_toOption_eq {ε α : Type} {x y : Except ε α} {a : α} (h : x.toOption = y.toOption) :
    x = .ok a ↔ y = .ok a := by
  cases x <;> cases y <;> simp_all [Except.toOption]

theorem MemoryAssets.reader_steady (assets : MemoryAssets) (ids : List AssetId) (places : List Location)
    (t : FileTree) : assets.reader.Steady ids places t :=
  fun _ _ _ _ => rfl

theorem AssetDirectories.reader_steady {d : AssetDirectories} {ids : List AssetId} {places : List Location}
    {t : FileTree} (tree : t.IsTree)
    (h : ∀ id ∈ ids, ∀ path, d.sourcePath? id = some path →
      ∃ l, IsPlace l ∧ path = pathText l ∧ l ∉ places) : d.reader.Steady ids places t := by
  intro u hu id hid
  unfold AssetDirectories.reader AssetDirectories.read
  cases hsource : d.sourcePath? id with
  | none => rfl
  | some path =>
    obtain ⟨l, hplace, rfl, hl⟩ := h id hid path hsource
    obtain ⟨name, above, rfl, named⟩ := hplace.exists_cons
    have hread (content : ByteArray) : u.read (pathText (name :: above)) = .ok content ↔
        t.read (pathText (name :: above)) = .ok content :=
      hu.read_iff tree named hl
    dsimp only
    cases hu' : u.read (pathText (name :: above)) with
    | ok content =>
      rw [(hread content).1 hu']
    | error fault =>
      cases ht : t.read (pathText (name :: above)) with
      | ok content =>
        rw [(hread content).2 ht] at hu'
        cases hu'
      | error fault' => cases fault <;> cases fault' <;> rfl

namespace StagingArea

variable {t u v : FileTree} {area : StagingArea} {reader : Reader} {id other : AssetId}
  {ids order : List AssetId} {content : ByteArray} {written : Bool} {count : Nat} {e : Error}

@[irreducible]
def place (area : StagingArea) (id : AssetId) : Location :=
  Path.place (area.pathFor id)

theorem isPlace_place (hroot : Path.Normal area.root)
    (hsteps : "." ∉ Path.steps id.stagingPath ∧ ".." ∉ Path.steps id.stagingPath)
    (valid : id.validate = .ok ()) :
    IsPlace (area.place id) ∧ area.pathFor id = pathText (area.place id) := by
  have hlast : (List.splitOn '/' id.stagingPath.toList).getLast? =
      some (AssetId.splitName id.path.toList).2 := by
    rw [AssetId.split_stagingPath_getLast?, AssetId.split_getLast?]
  have hnormal : Path.Normal (area.pathFor id) :=
    Path.normal_resolve hroot hsteps.1 hsteps.2 hlast (AssetId.name_ne_nil_of_validate valid)
  unfold Path.Normal at hnormal
  unfold place
  refine ⟨⟨Path.named_place _, fun hnil => ?_⟩, hnormal.symm⟩
  have hend := area.steps_pathFor_getLast? valid
  rw [← hnormal, hnil, steps_pathText (List.forall_mem_nil _)] at hend
  cases hend

def requests (area : StagingArea) (reader : Reader) (t : FileTree) (ids : List AssetId) :
    List (Location × ByteArray) :=
  ids.filterMap fun id => (reader t id).toOption.map fun content => (area.place id, content)

theorem mem_requests {f : Location × ByteArray} :
    f ∈ area.requests reader t ids ↔
      ∃ id ∈ ids, ∃ content, reader t id = .ok content ∧ f = (area.place id, content) := by
  unfold requests
  rw [List.mem_filterMap]
  refine exists_congr fun id => and_congr_right fun _ => ?_
  cases reader t id with
  | ok content => simp [Except.toOption, eq_comm]
  | error _ => simp [Except.toOption]

theorem map_requests_subset : (area.requests reader t ids).map Prod.fst ⊆ ids.map area.place := by
  intro l hl
  obtain ⟨f, hf, hfirst⟩ := List.mem_map.1 hl
  obtain ⟨id, hid, content, -, rfl⟩ := mem_requests.1 hf
  dsimp only at hfirst
  rw [← hfirst]
  exact List.mem_map_of_mem hid

theorem requests_congr (h : ∀ id ∈ order, (reader u id).toOption = (reader t id).toOption) :
    area.requests reader u order = area.requests reader t order := by
  apply List.filterMap_congr
  intro id hid
  rw [h id hid]

theorem confined_of_mayFill (hfill : MayFill (area.requests reader t ids) t u) :
    ConfinedTo (ids.map area.place) t u :=
  hfill.builds.toConfinedTo.mono map_requests_subset

structure Orderly (area : StagingArea) (reader : Reader) (ids : List AssetId) (t : FileTree) : Prop where
  tree : t.IsTree
  place : ∀ id ∈ ids, id.validate = .ok () →
    IsPlace (area.place id) ∧ area.pathFor id = pathText (area.place id)
  steady : reader.Steady ids (ids.map area.place) t

namespace Orderly

variable (h : Orderly area reader ids t)

include h

theorem reader_eq (hfill : MayFill (area.requests reader t ids) t u) (hid : id ∈ ids) :
    (reader u id).toOption = (reader t id).toOption :=
  h.steady u (confined_of_mayFill hfill) id hid

theorem step (hfill : MayFill (area.requests reader t ids) t u) : Orderly area reader ids u where
  tree := hfill.isTree h.tree
  place := h.place
  steady := fun v hv id hid =>
    (h.steady v ((confined_of_mayFill hfill).trans hv) id hid).trans (h.reader_eq hfill hid).symm

theorem stage_ok (hid : id ∈ ids) (hstage : area.stage reader id t = .ok written u) :
    ∃ content, reader t id = .ok content ∧ IsPlace (area.place id) ∧
      Fills [(area.place id, content)] t u ∧
        written = !isStaged t (area.pathFor id) content := by
  obtain ⟨hvalid, content, hreader, hwritten⟩ := stage_eq_ok_iff.1 hstage
  obtain ⟨hplace, hpath⟩ := h.place id hid hvalid
  refine ⟨content, hreader, hplace, ?_⟩
  rcases hwritten with ⟨rfl, hread, rfl⟩ | ⟨rfl, hmissing, hreplace⟩
  · rw [isStaged_iff.2 hread]
    rw [hpath] at hread
    exact ⟨.of_read hread, rfl⟩
  · refine ⟨?_, by rw [hmissing]; rfl⟩
    have hread : t.read (area.pathFor id) ≠ .ok content := by
      rw [Ne, ← isStaged_iff, hmissing]
      exact Bool.false_ne_true
    obtain ⟨name, d, hcons, named⟩ := hplace.exists_cons
    rw [hpath, hcons] at hread hreplace
    rw [hcons]
    exact fills_of_replaceFile h.tree.plain named hread hreplace

theorem stage_mayFill (hid : id ∈ ids) :
    MayFill (area.requests reader t ids) t (Work.left (area.stage reader id t)) := by
  have hrequest {content : ByteArray} (hreader : reader t id = .ok content) :
      [(area.place id, content)] ⊆ area.requests reader t ids :=
    List.cons_subset.2 ⟨mem_requests.2 ⟨id, hid, content, hreader, rfl⟩, List.nil_subset _⟩
  cases hstage : area.stage reader id t with
  | ok written u =>
    obtain ⟨content, hreader, -, hfills, -⟩ := h.stage_ok hid hstage
    exact hfills.toMayFill.mono (hrequest hreader)
  | error e u =>
    cases refusal_of_stage hstage with
    | invalid _ => exact .refl _ _
    | unread _ _ => exact .refl _ _
    | unwritten hvalid hreader _ hreplace =>
      obtain ⟨hplace, hpath⟩ := h.place id hid hvalid
      obtain ⟨name, d, hcons, named⟩ := hplace.exists_cons
      rw [hpath, hcons] at hreplace
      apply MayFill.mono (mayFill_of_replaceFile_error h.tree.plain named hreplace)
      rw [← hcons]
      exact hrequest hreader

end Orderly

def Stageable (area : StagingArea) (reader : Reader) (t : FileTree) (id : AssetId) : Prop :=
  ∃ written u, area.stage reader id t = .ok written u

theorem stageable_iff (h : Orderly area reader ids t) (hid : id ∈ ids) :
    area.Stageable reader t id ↔
      id.validate = .ok () ∧ ∃ content, reader t id = .ok content ∧ t.CanHold (area.place id) content := by
  unfold Stageable
  simp only [stage_eq_ok_iff]
  constructor
  · rintro ⟨written, u, hvalid, content, hreader, hwritten⟩
    obtain ⟨hplace, hpath⟩ := h.place id hid hvalid
    rw [hpath] at hwritten
    refine ⟨hvalid, content, hreader, ?_⟩
    rcases hwritten with ⟨-, hread, -⟩ | ⟨-, -, hreplace⟩
    · exact .inl hread
    · exact .inr ((exists_replaceFile_iff_accepts content h.tree.plain hplace).1 ⟨u, hreplace⟩)
  · rintro ⟨hvalid, content, hreader, hcan⟩
    obtain ⟨hplace, hpath⟩ := h.place id hid hvalid
    rw [hpath]
    cases hstaged : isStaged t (pathText (area.place id)) content with
    | true => exact ⟨false, t, hvalid, content, hreader, .inl ⟨rfl, isStaged_iff.1 hstaged, rfl⟩⟩
    | false =>
      rcases hcan with hread | hroom
      · rw [isStaged_iff.2 hread] at hstaged
        cases hstaged
      · obtain ⟨u, hreplace⟩ :=
          (exists_replaceFile_iff_accepts content h.tree.plain hplace).2 hroom
        exact ⟨true, u, hvalid, content, hreader, .inr ⟨rfl, hstaged, hreplace⟩⟩

theorem stageable_after (h : Orderly area reader ids t) (hid : id ∈ ids) (hother : other ∈ ids)
    (hne : area.place other ≠ area.place id) (hstage : area.stage reader id t = .ok written u) :
    area.Stageable reader u other ↔
      area.Stageable reader t other ∧ Apart (area.place id) (area.place other) := by
  obtain ⟨content, hreader, hplace, hfills, -⟩ := h.stage_ok hid hstage
  have hleft := h.stage_mayFill hid
  rw [hstage, Work.left_ok] at hleft
  rw [stageable_iff (h.step hleft) hother, stageable_iff h hother, and_assoc]
  refine and_congr_right fun hvalid => ?_
  rw [← exists_and_right]
  refine exists_congr fun bytes => ?_
  rw [eq_ok_iff_of_toOption_eq (h.reader_eq hleft hother), and_assoc]
  exact and_congr_right fun _ => hfills.canHold_iff h.tree hplace (h.place other hother hvalid).1 hne

theorem stageAll_succeeds_iff (h : Orderly area reader ids t) (hsub : order ⊆ ids)
    (hplaces : (order.map area.place).Nodup) :
    (∃ count u, area.stageAll reader order t = .ok count u) ↔
      (∀ id ∈ order, area.Stageable reader t id) ∧
        order.Pairwise fun a b => Apart (area.place a) (area.place b) := by
  induction order generalizing t with
  | nil => exact iff_of_true ⟨0, t, rfl⟩ ⟨nofun, .nil⟩
  | cons id rest ih =>
    obtain ⟨hid, hrest⟩ := List.cons_subset.1 hsub
    obtain ⟨hnew, hplaces'⟩ := List.nodup_cons.1 hplaces
    have hne (other : AssetId) (hother : other ∈ rest) : area.place other ≠ area.place id :=
      fun heq => hnew (heq ▸ List.mem_map_of_mem hother)
    have hstep {written : Bool} {v : FileTree} (hstage : area.stage reader id t = .ok written v) :
        (∃ count u, area.stageAll reader rest v = .ok count u) ↔
          (∀ other ∈ rest, area.Stageable reader t other ∧ Apart (area.place id) (area.place other)) ∧
            rest.Pairwise fun a b => Apart (area.place a) (area.place b) := by
      have hleft := h.stage_mayFill hid
      rw [hstage, Work.left_ok] at hleft
      rw [ih (h.step hleft) hrest hplaces']
      refine and_congr_left fun _ => forall₂_congr fun other hother => ?_
      exact stageable_after h hid (hrest hother) (hne other hother) hstage
    rw [List.forall_mem_cons, List.pairwise_cons]
    constructor
    · rintro ⟨count, u, hall⟩
      obtain ⟨written, v, others, hstage, hrestOk, -⟩ := stageAll_cons_eq_ok_iff.1 hall
      obtain ⟨hothers, hpairs⟩ := (hstep hstage).1 ⟨others, u, hrestOk⟩
      exact ⟨⟨⟨written, v, hstage⟩, fun other hother => (hothers other hother).1⟩,
        fun other hother => (hothers other hother).2, hpairs⟩
    · rintro ⟨⟨⟨written, v, hstage⟩, hothers⟩, haparts, hpairs⟩
      obtain ⟨others, u, hrestOk⟩ := (hstep hstage).2
        ⟨fun other hother => ⟨hothers other hother, haparts other hother⟩, hpairs⟩
      exact ⟨_, u, stageAll_cons_eq_ok_iff.2 ⟨written, v, others, hstage, hrestOk, rfl⟩⟩

def isUpToDate (area : StagingArea) (reader : Reader) (t : FileTree) (id : AssetId) : Bool :=
  match reader t id with
  | .ok content => isStaged t (area.pathFor id) content
  | .error _ => false

theorem isUpToDate_iff : area.isUpToDate reader t id = true ↔
    ∃ content, reader t id = .ok content ∧ t.read (area.pathFor id) = .ok content := by
  unfold isUpToDate
  cases reader t id with
  | ok content => simp [isStaged_iff]
  | error _ => simp

theorem stageAll_fills (h : Orderly area reader ids t) (hsub : order ⊆ ids)
    (hplaces : (order.map area.place).Nodup) (hall : area.stageAll reader order t = .ok count u) :
    Fills (area.requests reader t order) t u ∧
      (∀ f ∈ area.requests reader t order, IsPlace f.1) ∧
        (∀ id ∈ order, id.validate = .ok () ∧ ∃ content, reader t id = .ok content) ∧
          count = order.countP fun id => !area.isUpToDate reader t id := by
  induction order generalizing t count with
  | nil =>
    cases hall
    exact ⟨.nil _, nofun, nofun, rfl⟩
  | cons id rest ih =>
    obtain ⟨hid, hrest⟩ := List.cons_subset.1 hsub
    obtain ⟨hnew, hplaces'⟩ := List.nodup_cons.1 hplaces
    obtain ⟨written, v, others, hstage, hrestOk, rfl⟩ := stageAll_cons_eq_ok_iff.1 hall
    obtain ⟨content, hreader, hplace, hfirst, hwritten⟩ := h.stage_ok hid hstage
    have hleft := h.stage_mayFill hid
    rw [hstage, Work.left_ok] at hleft
    obtain ⟨hfills, hspelled, hread, hcount⟩ := ih (h.step hleft) hrest hplaces' hrestOk
    -- what is read for the other assets is as before, and their places are others
    have hsame (other : AssetId) (hother : other ∈ rest) := h.reader_eq hleft (hrest hother)
    have hne (other : AssetId) (hother : other ∈ rest) : area.place other ≠ area.place id :=
      fun heq => hnew (heq ▸ List.mem_map_of_mem hother)
    have hrequests : area.requests reader t (id :: rest) =
        [(area.place id, content)] ++ area.requests reader t rest := by
      unfold requests
      rw [List.filterMap_cons, hreader]
      rfl
    rw [requests_congr hsame] at hfills hspelled
    rw [hrequests]
    refine ⟨?_, ?_, ?_, ?_⟩
    · refine hfirst.trans hfills h.tree ?_ hspelled ?_
      · intro f hf
        rw [List.mem_singleton.1 hf]
        exact hplace
      · rw [List.map_singleton, List.singleton_disjoint]
        exact fun hmem => hnew (map_requests_subset hmem)
    · exact List.forall_mem_cons.2 ⟨hplace, hspelled⟩
    · refine List.forall_mem_cons.2 ⟨⟨(stage_eq_ok_iff.1 hstage).1, content, hreader⟩, ?_⟩
      intro other hother
      obtain ⟨hvalid, bytes, hbytes⟩ := hread other hother
      exact ⟨hvalid, bytes, (eq_ok_iff_of_toOption_eq (hsame other hother)).1 hbytes⟩
    · have hfirstCount : (!area.isUpToDate reader t id) = written := by
        unfold isUpToDate
        rw [hreader, hwritten]
      have hothers : ∀ other ∈ rest, (!area.isUpToDate reader v other) = true ↔
          (!area.isUpToDate reader t other) = true := by
        intro other hother
        obtain ⟨hvalid, -⟩ := hread other hother
        obtain ⟨hspot, hpath⟩ := h.place other (hrest hother) hvalid
        have hheld : area.isUpToDate reader v other = true ↔ area.isUpToDate reader t other = true := by
          rw [isUpToDate_iff, isUpToDate_iff, hpath]
          refine exists_congr fun bytes => ?_
          rw [eq_ok_iff_of_toOption_eq (hsame other hother),
            hfirst.read_iff h.tree hspot (by simpa using hne other hother)]
        rw [Bool.not_eq_true', Bool.not_eq_true', ← Bool.not_eq_true, ← Bool.not_eq_true, hheld]
      rw [List.countP_cons, hfirstCount, hcount, List.countP_congr hothers, Nat.add_comm]

def attempt (area : StagingArea) (reader : Reader) (order : List AssetId) (t : FileTree) : FileTree :=
  order.foldl (fun t id => Work.left (area.stage reader id t)) t

theorem attempt_mayFill (h : Orderly area reader ids t) (hsub : order ⊆ ids) :
    MayFill (area.requests reader t ids) t (area.attempt reader order t) := by
  induction order generalizing t with
  | nil => exact .refl _ _
  | cons id rest ih =>
    obtain ⟨hid, hrest⟩ := List.cons_subset.1 hsub
    have hleft := h.stage_mayFill hid
    have hothers := ih (h.step hleft) hrest
    rw [requests_congr fun other hother => h.reader_eq hleft hother] at hothers
    exact hleft.trans hothers

theorem stageAll_fails (hfail : area.stageAll reader order t = .error e u) :
    ∃ before id after cause, order = before ++ id :: after ∧ e = .staging id cause ∧
      area.stage reader id (area.attempt reader before t) = .error cause u := by
  induction order generalizing t with
  | nil => cases hfail
  | cons id rest ih =>
    unfold stageAll at hfail
    rcases Work.bind_eq_error_iff.1 hfail with hfirst | ⟨written, v, hstage, hfail⟩
    · obtain ⟨cause, rfl, hstage⟩ := FileWork.whileStaging_eq_error_iff.1 hfirst
      exact ⟨[], id, rest, cause, rfl, rfl, hstage⟩
    · have hleft : Work.left (area.stage reader id t) = v := by
        rw [FileWork.whileStaging_eq_ok_iff.1 hstage, Work.left_ok]
      rcases Work.bind_eq_error_iff.1 hfail with hrest | ⟨_, _, -, hfail⟩
      · obtain ⟨before, failed, after, cause, rfl, rfl, hfailed⟩ := ih hrest
        refine ⟨id :: before, failed, after, cause, rfl, rfl, ?_⟩
        unfold attempt at hfailed ⊢
        rw [List.foldl_cons, hleft]
        exact hfailed
      · cases hfail

def OnlyAt (places : List Location) (t u : FileTree) : Prop :=
  ∀ l, l ∉ places → u.get? l = t.get? l ∨
    t.get? l = none ∧ (∃ e, u.get? l = some e ∧ e.isDirectory = true) ∧
      ∃ place ∈ places, l <:+ place ∧ l ≠ place

theorem onlyAt_of_mayFill (hfill : MayFill (area.requests reader t order) t u) :
    OnlyAt (order.map area.place) t u := by
  intro l hl
  rcases hfill.builds.eq_or_made (fun hmem => hl (map_requests_subset hmem)) with
    heq | ⟨hnone, hmade, f, hf, habove⟩
  · exact .inl heq
  · obtain ⟨e, _, hget, -⟩ := hmade.entry
    exact .inr ⟨hnone, ⟨e, hget, hmade.isDirectory hget⟩, f.1,
      map_requests_subset (List.mem_map_of_mem hf), habove⟩

def OldOrNew (area : StagingArea) (reader : Reader) (ids : List AssetId) (t u : FileTree) : Prop :=
  ∀ id ∈ ids, u.contentAt (area.place id) = t.contentAt (area.place id) ∨
    ∃ content, reader t id = .ok content ∧ u.contentAt (area.place id) = some content

theorem oldOrNew_of_mayFill (hplaces : (ids.map area.place).Nodup)
    (hfill : MayFill (area.requests reader t ids) t u) : area.OldOrNew reader ids t u := by
  intro id hid
  rcases hfill.contentAt (area.place id) with heq | ⟨content, hmem, hnew⟩
  · exact .inl heq
  · obtain ⟨other, hother, bytes, hreader, heq⟩ := mem_requests.1 hmem
    obtain ⟨hsame, rfl⟩ := Prod.mk.inj heq
    have hid' : other = id := List.inj_on_of_nodup_map hplaces hother hid hsame.symm
    rw [hid'] at hreader
    exact .inr ⟨content, hreader, hnew⟩

theorem attempt_append (area : StagingArea) (reader : Reader) (before after : List AssetId) (t : FileTree) :
    area.attempt reader (before ++ after) t = area.attempt reader after (area.attempt reader before t) := by
  unfold attempt
  rw [List.foldl_append]

theorem left_stageAll (area : StagingArea) (reader : Reader) (order : List AssetId) (t : FileTree) :
    ∃ tried, tried ⊆ order ∧ Work.left (area.stageAll reader order t) = area.attempt reader tried t := by
  cases hall : area.stageAll reader order t with
  | error e u =>
    obtain ⟨before, id, after, cause, rfl, -, hstage⟩ := stageAll_fails hall
    refine ⟨before ++ [id], ?_, ?_⟩
    · intro other hother
      rw [List.append_cons]
      exact List.mem_append_left _ hother
    · rw [attempt_append]
      unfold attempt at hstage ⊢
      rw [List.foldl_cons, hstage]
      rfl
  | ok count u =>
    refine ⟨order, List.Subset.refl _, ?_⟩
    rw [Work.left_ok]
    induction order generalizing t count with
    | nil =>
      cases hall
      rfl
    | cons id rest ih =>
      obtain ⟨written, v, others, hstage, hrest, -⟩ := stageAll_cons_eq_ok_iff.1 hall
      rw [ih v others hrest]
      unfold attempt
      rw [List.foldl_cons, hstage, Work.left_ok]

theorem orderly_of_steps (tree : t.IsTree) (hroot : Path.Normal area.root)
    (hsteps : ∀ id ∈ ids, "." ∉ Path.steps id.stagingPath ∧ ".." ∉ Path.steps id.stagingPath)
    (steady : reader.Steady ids (ids.map area.place) t) : Orderly area reader ids t where
  tree := tree
  place := fun id hid valid => isPlace_place hroot (hsteps id hid) valid
  steady := steady

theorem attempt_frame (h : Orderly area reader ids t) (hplaces : (ids.map area.place).Nodup)
    (hsub : order ⊆ ids) : OnlyAt (ids.map area.place) t (area.attempt reader order t) ∧
      area.OldOrNew reader ids t (area.attempt reader order t) :=
  ⟨onlyAt_of_mayFill (attempt_mayFill h hsub), oldOrNew_of_mayFill hplaces (attempt_mayFill h hsub)⟩

theorem stageAll_in_any_order (tree : t.IsTree) (hroot : Path.Normal area.root)
    (hsteps : ∀ id ∈ ids, "." ∉ Path.steps id.stagingPath ∧ ".." ∉ Path.steps id.stagingPath)
    (hplaces : (ids.map area.place).Nodup) (steady : reader.Steady ids (ids.map area.place) t) :
    ((∀ order, order.Perm ids → ∃ u,
          area.stageAll reader order t =
            .ok (ids.countP fun id => !area.isUpToDate reader t id) u ∧
          (∀ id ∈ ids, ∃ content, reader t id = .ok content ∧
            u.read (area.pathFor id) = .ok content) ∧
          ∀ other, other.Perm ids → ∀ count v, area.stageAll reader other t = .ok count v →
            ∀ l, v.shape l = u.shape l) ∨
        ∀ order, order.Perm ids → ∃ before id after cause u, order = before ++ id :: after ∧
          area.stageAll reader order t = .error (.staging id cause) u ∧
            area.Refusal reader id (area.attempt reader before t) u cause) ∧
      ∀ order, order ⊆ ids → ∀ u,
        u = area.attempt reader order t ∨ u = Work.left (area.stageAll reader order t) →
          OnlyAt (ids.map area.place) t u ∧ area.OldOrNew reader ids t u := by
  have h := orderly_of_steps tree hroot hsteps steady
  have hnodup (order : List AssetId) (horder : order.Perm ids) : (order.map area.place).Nodup :=
    (horder.map area.place).nodup_iff.2 hplaces
  -- what it takes for an order to succeed says nothing about the order
  have hsucceeds (order : List AssetId) (horder : order.Perm ids) :
      (∃ count u, area.stageAll reader order t = .ok count u) ↔
        (∀ id ∈ ids, area.Stageable reader t id) ∧
          ids.Pairwise fun a b => Apart (area.place a) (area.place b) := by
    rw [stageAll_succeeds_iff h horder.subset (hnodup order horder)]
    refine and_congr (forall_congr' fun id => by rw [horder.mem_iff]) ?_
    exact horder.pairwise_iff fun hapart => hapart.symm
  refine ⟨?_, ?_⟩
  · by_cases hall : (∀ id ∈ ids, area.Stageable reader t id) ∧
      ids.Pairwise fun a b => Apart (area.place a) (area.place b)
    · left
      intro order horder
      obtain ⟨count, u, hok⟩ := (hsucceeds order horder).2 hall
      obtain ⟨hfills, hspelled, hread, hcount⟩ :=
        stageAll_fills h horder.subset (hnodup order horder) hok
      rw [horder.countP_eq] at hcount
      rw [hcount] at hok
      refine ⟨u, hok, ?_, ?_⟩
      · intro id hid
        obtain ⟨hvalid, content, hreader⟩ := hread id (horder.mem_iff.2 hid)
        obtain ⟨-, hpath⟩ := h.place id hid hvalid
        refine ⟨content, hreader, ?_⟩
        rw [hpath]
        exact hfills.read (mem_requests.2 ⟨id, horder.mem_iff.2 hid, content, hreader, rfl⟩)
      · intro other hother count' v hok' l
        obtain ⟨hfills', -⟩ := stageAll_fills h hother.subset (hnodup other hother) hok'
        refine (hfills.shape_eq hfills' tree hspelled (fun f => ?_) l).symm
        exact ((hother.trans horder.symm).filterMap _).mem_iff
    · right
      intro order horder
      cases hresult : area.stageAll reader order t with
      | ok count u => exact absurd ((hsucceeds order horder).1 ⟨count, u, hresult⟩) hall
      | error e u =>
        obtain ⟨before, id, after, cause, rfl, rfl, hstage⟩ := stageAll_fails hresult
        exact ⟨before, id, after, cause, u, rfl, rfl, refusal_of_stage hstage⟩
  · rintro order hsub u (rfl | rfl)
    · exact attempt_frame h hplaces hsub
    · obtain ⟨tried, htried, hleft⟩ := area.left_stageAll reader order t
      rw [hleft]
      exact attempt_frame h hplaces (fun id hid => hsub (htried hid))

def fresh : StagingArea where
  root := "/s"

def sources : FileTree :=
  ((FileTree.empty.create ["p"] .directory 0o755).create ["lib", "p"] .directory 0o755).create
    ["x", "lib", "p"] (.file ⟨#[66]⟩) 0o644

theorem sources_isTree : sources.IsTree :=
  ((isTree_empty.create rfl ⟨_, rfl, rfl⟩ (by simp)).create rfl ⟨_, rfl, rfl⟩ (by simp)).create rfl
    ⟨_, rfl, rfl⟩ (by simp)

def remembered : MemoryAssets :=
  (MemoryAssets.insert ⟨.empty⟩ ⟨"a", "lib/x"⟩ ⟨#[66]⟩).insert ⟨"a", "x"⟩ ⟨#[67]⟩

theorem remembered_staged_in_any_order :
    ∃ u v, fresh.stageAll remembered.reader [⟨"a", "lib/x"⟩, ⟨"a", "x"⟩] sources = .ok 2 u ∧
      fresh.stageAll remembered.reader [⟨"a", "x"⟩, ⟨"a", "lib/x"⟩] sources = .ok 2 v ∧
        u.read "/s/x" = .ok ⟨#[67]⟩ ∧ ∀ l, v.shape l = u.shape l := by
  have hroot : Path.Normal fresh.root := by decide +kernel
  have hsteps : ∀ id ∈ [⟨"a", "lib/x"⟩, (⟨"a", "x"⟩ : AssetId)],
      "." ∉ Path.steps id.stagingPath ∧ ".." ∉ Path.steps id.stagingPath := by
    decide +kernel
  have hplaces : ([⟨"a", "lib/x"⟩, ⟨"a", "x"⟩].map fresh.place).Nodup := by decide +kernel
  have hcount : ([⟨"a", "lib/x"⟩, ⟨"a", "x"⟩].countP fun id =>
      !fresh.isUpToDate remembered.reader sources id) = 2 := by
    decide +kernel
  have hok : fresh.stageAll remembered.reader [⟨"a", "lib/x"⟩, ⟨"a", "x"⟩] sources = .ok 2 _ :=
    Work.eq_ok_of_answer? (by decide +kernel)
  have hswap : List.Perm [⟨"a", "x"⟩, ⟨"a", "lib/x"⟩] [⟨"a", "lib/x"⟩, (⟨"a", "x"⟩ : AssetId)] :=
    .swap _ _ _
  obtain ⟨hall, -⟩ := stageAll_in_any_order sources_isTree hroot hsteps hplaces
    (remembered.reader_steady _ _ _)
  rcases hall with hall | hall
  · rw [hcount] at hall
    obtain ⟨u, hfirst, hread, hsame⟩ := hall _ (.refl _)
    obtain ⟨v, hsecond, -⟩ := hall _ hswap
    refine ⟨u, v, hfirst, hsecond, ?_, hsame _ hswap 2 v hsecond⟩
    obtain ⟨content, hreader, hheld⟩ := hread ⟨"a", "x"⟩ (by simp)
    have hcontent : remembered.reader sources ⟨"a", "x"⟩ = .ok ⟨#[67]⟩ :=
      eq_ok_of_toOption (by decide +kernel)
    have hpath : fresh.pathFor ⟨"a", "x"⟩ = "/s/x" := by decide +kernel
    rw [hcontent, Except.ok.injEq] at hreader
    rw [hpath, ← hreader] at hheld
    exact hheld
  · obtain ⟨_, _, _, _, _, -, hfail, -⟩ := hall _ (.refl _)
    rw [hok] at hfail
    cases hfail

def locked : FileTree :=
  (FileTree.empty.create ["s"] .directory 0o755).create ["x", "s"] (.file ⟨#[67]⟩) 0

theorem locked_isTree : locked.IsTree :=
  (isTree_empty.create rfl ⟨_, rfl, rfl⟩ (by simp)).create rfl ⟨_, rfl, rfl⟩ (by simp)

def chained : AssetDirectories :=
  (AssetDirectories.addPackage ⟨"/o", .empty⟩ "a" "/p").addPackage "b" "/s/packages/a"

theorem chained_staged_in_one_order :
    (locked.IsTree ∧ Path.Normal fresh.root ∧ ("." ∉ Path.steps "x" ∧ ".." ∉ Path.steps "x") ∧
        remembered.reader locked ⟨"a", "x"⟩ = .ok ⟨#[67]⟩ ∧
        locked.contentAt (fresh.place ⟨"a", "x"⟩) = some ⟨#[67]⟩ ∧
        ∃ u, fresh.stageAll remembered.reader [⟨"a", "x"⟩] locked = .ok 1 u) ∧
      sources.IsTree ∧ ([⟨"a", "lib/x"⟩, ⟨"b", "x"⟩].map fresh.place).Nodup ∧
        (∃ u, fresh.stageAll chained.reader [⟨"a", "lib/x"⟩, ⟨"b", "x"⟩] sources = .ok 2 u) ∧
          ∃ e u, fresh.stageAll chained.reader [⟨"b", "x"⟩, ⟨"a", "lib/x"⟩] sources = .error e u := by
  have hrefused : ∃ e, fresh.stageAll chained.reader [⟨"b", "x"⟩, ⟨"a", "lib/x"⟩] sources = .error e _ :=
    Work.exists_error_of_answer? (by decide +kernel)
  obtain ⟨e, hrefused⟩ := hrefused
  exact ⟨⟨locked_isTree, by decide +kernel, by decide +kernel, eq_ok_of_toOption (by decide +kernel),
    by decide +kernel, _, Work.eq_ok_of_answer? (by decide +kernel)⟩, sources_isTree,
    by decide +kernel, ⟨_, Work.eq_ok_of_answer? (by decide +kernel)⟩, e, _, hrefused⟩

end StagingArea

end DartBundle
