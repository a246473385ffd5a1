import DartBundle.Proofs.FileTree.Operations
import DartBundle.Staging.Area
/-!
This module contains what staging leaves in a file tree without links: each source where its id says,
the package config, and nothing else that is new but directories.
-/

namespace DartBundle

namespace StagingArea

open FileTree

variable {t u : FileTree} {area : StagingArea} {reader : Reader} {id : AssetId} {ids : List AssetId}
  {written : Bool} {count : Nat} {e : Error}

theorem read_of_isStaged {path : String} {content : ByteArray}
    (h : isStaged t path content = true) : t.read path = .ok content := by
  unfold isStaged at h
  cases hread : t.read path with
  | error fault =>
    rw [hread] at h
    cases h
  | ok staged =>
    rw [hread] at h
    rw [of_decide_eq_true h]

theorem isStaged_iff {path : String} {content : ByteArray} :
    isStaged t path content = true ↔ t.read path = .ok content := by
  constructor
  · exact read_of_isStaged
  · intro h
    unfold isStaged
    rw [h]
    simp

theorem stage_eq_ok_iff :
    area.stage reader id t = .ok written u ↔
      id.validate = .ok () ∧ ∃ content, reader t id = .ok content ∧
        (written = false ∧ t.read (area.pathFor id) = .ok content ∧ t = u ∨
          written = true ∧ isStaged t (area.pathFor id) content = false ∧
            Disk.replaceFile (area.pathFor id) content t = .ok () u) := by
  unfold stage
  constructor
  · intro h
    obtain ⟨_, t', hvalid, h⟩ := Work.bind_eq_ok_iff.1 h
    obtain ⟨hvalidate, rfl⟩ := FileWork.mapError_eq_ok_iff.1 hvalid
    rw [Work.get_bind] at h
    obtain ⟨content, t', hcontent, h⟩ := Work.bind_eq_ok_iff.1 h
    obtain ⟨hreader, rfl⟩ := FileWork.ofExcept_eq_ok_iff.1 hcontent
    rw [Work.get_bind] at h
    refine ⟨hvalidate, content, hreader, ?_⟩
    cases hstaged : isStaged t (area.pathFor id) content with
    | true =>
      rw [hstaged] at h
      cases h
      exact .inl ⟨rfl, read_of_isStaged hstaged, rfl⟩
    | false =>
      rw [hstaged] at h
      obtain ⟨_, v, hreplace, h⟩ := Work.bind_eq_ok_iff.1 h
      cases h
      exact .inr ⟨rfl, rfl, FileWork.ofDisk_eq_ok_iff.1 hreplace⟩
  · rintro ⟨hvalid, content, hreader, hwritten⟩
    rw [Work.bind_of_ok (FileWork.mapError_eq_ok_iff.2 ⟨hvalid, rfl⟩), Work.get_bind,
      Work.bind_of_ok (FileWork.ofExcept_eq_ok_iff.2 ⟨hreader, rfl⟩), Work.get_bind]
    rcases hwritten with ⟨rfl, hread, rfl⟩ | ⟨rfl, hstaged, hreplace⟩
    · rw [isStaged_iff.2 hread]
      rfl
    · rw [hstaged]
      exact Work.bind_of_ok (FileWork.ofDisk_eq_ok_iff.2 hreplace)

theorem stage_ok (plain : t.Plain) (h : area.stage reader id t = .ok written u) :
    ∃ content, reader t id = .ok content ∧ Writes (area.pathFor id) content t u := by
  obtain ⟨-, content, hreader, ⟨-, hread, rfl⟩ | ⟨-, -, hreplace⟩⟩ := stage_eq_ok_iff.1 h
  · exact ⟨content, hreader, .refl _ _, hread⟩
  · exact ⟨content, hreader, writes_replaceFile plain hreplace⟩

inductive Refusal (area : StagingArea) (reader : Reader) (id : AssetId) (t : FileTree) :
    FileTree → Error → Prop
  | invalid {fault : AssetId.Fault} : id.validate = .error fault →
      Refusal area reader id t t (.invalidAssetId fault)
  | unread {cause : Error} : id.validate = .ok () → reader t id = .error cause →
      Refusal area reader id t t cause
  | unwritten {content : ByteArray} {fault : FileFault} {u : FileTree} : id.validate = .ok () →
      reader t id = .ok content → isStaged t (area.pathFor id) content = false →
      Disk.replaceFile (area.pathFor id) content t = .error fault u →
      Refusal area reader id t u (.file fault)

theorem refusal_of_stage (h : area.stage reader id t = .error e u) : area.Refusal reader id t u e := by
  unfold stage at h
  rcases Work.bind_eq_error_iff.1 h with hvalid | ⟨_, t', hvalid, h⟩
  · obtain ⟨fault, hvalidate, rfl, rfl⟩ := FileWork.mapError_eq_error_iff.1 hvalid
    exact .invalid hvalidate
  obtain ⟨hvalidate, rfl⟩ := FileWork.mapError_eq_ok_iff.1 hvalid
  rw [Work.get_bind] at h
  rcases Work.bind_eq_error_iff.1 h with hcontent | ⟨content, t', hcontent, h⟩
  · obtain ⟨hreader, rfl⟩ := FileWork.ofExcept_eq_error_iff.1 hcontent
    exact .unread hvalidate hreader
  obtain ⟨hreader, rfl⟩ := FileWork.ofExcept_eq_ok_iff.1 hcontent
  rw [Work.get_bind] at h
  cases hstaged : isStaged t (area.pathFor id) content with
  | true =>
    rw [hstaged] at h
    cases h
  | false =>
    rw [hstaged, if_neg Bool.false_ne_true] at h
    rcases Work.bind_eq_error_iff.1 h with hreplace | ⟨_, v, -, h⟩
    · obtain ⟨fault, rfl, hfailed⟩ := FileWork.ofDisk_eq_error_iff.1 hreplace
      exact .unwritten hvalidate hreader hstaged hfailed
    · cases h

theorem stage_error (plain : t.Plain) (h : area.stage reader id t = .error e u) :
    ConfinedTo [] t u := by
  cases refusal_of_stage h with
  | invalid _ => exact .refl _ _
  | unread _ _ => exact .refl _ _
  | unwritten _ _ _ hreplace => exact Disk.replaceFile_error plain hreplace

theorem stage_confined (area : StagingArea) (reader : Reader) (id : AssetId) (plain : t.Plain) :
    ConfinedTo [t.locate (area.pathFor id)] t
      (Work.left (FileWork.whileStaging id (area.stage reader id) t)) := by
  cases h : FileWork.whileStaging id (area.stage reader id) t with
  | ok written u =>
    obtain ⟨_, -, hwrites⟩ := stage_ok plain (FileWork.whileStaging_eq_ok_iff.1 h)
    exact hwrites.confined
  | error e u =>
    obtain ⟨_, -, hstage⟩ := FileWork.whileStaging_eq_error_iff.1 h
    exact (stage_error plain hstage).mono (List.nil_subset _)

theorem stageAll_cons_eq_ok_iff :
    area.stageAll reader (id :: ids) t = .ok count u ↔
      ∃ written v others, area.stage reader id t = .ok written v ∧
        area.stageAll reader ids v = .ok others u ∧ count = (if written then 1 else 0) + others := by
  conv => lhs; unfold stageAll
  constructor
  · intro h
    obtain ⟨written, v, hstage, h⟩ := Work.bind_eq_ok_iff.1 h
    obtain ⟨others, u', hrest, h⟩ := Work.bind_eq_ok_iff.1 h
    cases h
    exact ⟨written, v, others, FileWork.whileStaging_eq_ok_iff.1 hstage, hrest, rfl⟩
  · rintro ⟨written, v, others, hstage, hrest, rfl⟩
    rw [Work.bind_of_ok (FileWork.whileStaging_eq_ok_iff.2 hstage), Work.bind_of_ok hrest]
    rfl

theorem stageAll_confined (area : StagingArea) (reader : Reader) (ids : List AssetId)
    (plain : t.Plain) :
    ConfinedTo ((ids.map area.pathFor).map t.locate) t (Work.left (area.stageAll reader ids t)) := by
  induction ids generalizing t with
  | nil => exact .refl _ _
  | cons id rest ih =>
    have hfirst := (stage_confined area reader id plain).mono
      (show _ ⊆ ((id :: rest).map area.pathFor).map t.locate by simp)
    unfold stageAll
    refine .bind hfirst fun written v hstage => .bind ?_ fun _ _ _ => .refl _ _
    rw [hstage, Work.left_ok] at hfirst
    have hrest := ih (hfirst.plain plain)
    rw [hfirst.toKeeps.map_locate] at hrest
    exact hrest.mono (by simp)

theorem writePackageConfig_path {closure : Closure} {path : String}
    (h : area.writePackageConfig closure t = .ok path u) : path = PackageConfig.path closure.entry := by
  obtain ⟨_, v, -, h⟩ := Work.bind_eq_ok_iff.1 h
  cases h
  rfl

theorem writePackageConfig_ok {closure : Closure} {path : String} (plain : t.Plain)
    (h : area.writePackageConfig closure t = .ok path u) :
    Writes (area.resolve path) (PackageConfig.ofClosure closure).render.toUTF8 t u := by
  unfold writePackageConfig at h
  obtain ⟨_, v, hreplace, h⟩ := Work.bind_eq_ok_iff.1 h
  cases h
  exact writes_replaceFile plain
    (FileWork.ofDisk_eq_ok_iff.1 (FileWork.whileStaging_eq_ok_iff.1 hreplace))

theorem writePackageConfig_error {closure : Closure} (plain : t.Plain)
    (h : area.writePackageConfig closure t = .error e u) : ConfinedTo [] t u := by
  unfold writePackageConfig at h
  rcases Work.bind_eq_error_iff.1 h with hreplace | ⟨_, v, -, h⟩
  · obtain ⟨_, -, hreplace⟩ := FileWork.whileStaging_eq_error_iff.1 hreplace
    obtain ⟨_, -, hdisk⟩ := FileWork.ofDisk_eq_error_iff.1 hreplace
    exact Disk.replaceFile_error plain hdisk
  · cases h

theorem writePackageConfig_confined (area : StagingArea) (closure : Closure) (plain : t.Plain) :
    ConfinedTo [t.locate (area.resolve (PackageConfig.path closure.entry))] t
      (Work.left (area.writePackageConfig closure t)) := by
  cases h : area.writePackageConfig closure t with
  | error e u => exact (writePackageConfig_error plain h).mono (List.nil_subset _)
  | ok path u =>
    have hwrites := writePackageConfig_ok plain h
    rw [writePackageConfig_path h] at hwrites
    exact hwrites.confined

end StagingArea

end DartBundle
