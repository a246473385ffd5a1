import DartBundle.Proofs.Asset.Grammar
import DartBundle.Proofs.Build.Writer
import DartBundle.Proofs.FileTree.Lexical
import DartBundle.Proofs.Staging.Area
/-!
This module contains when assets stay where they are put: below the root of a staging area and below an
output directory. A valid id has a path that leads nowhere else, but nothing is asked of its package.
-/

namespace DartBundle

open FileTree

namespace AssetId

variable {id : AssetId} {text : String} {rest : List Char}

theorem validate_of_parse (h : parse text = .ok id) : id.validate = .ok () :=
  (parse_eq_ok_iff.1 h).2.valid

theorem ne_up_of_validate (h : id.validate = .ok ()) : ∀ step ∈ Path.steps id.path, step ≠ ".." := by
  obtain ⟨-, hpath, -⟩ := validate_eq_ok_iff.1 h
  rintro step hstep rfl
  obtain ⟨segment, hsegment, heq⟩ := List.mem_map.1 hstep
  apply (isPath_iff.1 hpath segment (List.mem_filter.1 hsegment).1).ne_up
  rw [← String.toList_ofList (l := segment), heq]
  rfl

theorem steps_stagingPath (h : belowLibraryRoot? id.path.toList = some rest) :
    Path.steps id.stagingPath =
      "packages" :: (Path.steps id.package ++ Path.steps (String.ofList rest)) := by
  have hpath : id.stagingPath =
      String.ofList ("packages".toList ++ '/' :: (id.package.toList ++ '/' :: rest)) := by
    unfold stagingPath
    rw [h, ← String.toList_inj]
    simp
  rw [hpath, Path.steps_ofList_append, Path.steps_ofList_append, String.ofList_toList,
    String.ofList_toList, Path.steps_of_not_mem (by decide)]
  rfl

theorem steps_path_of_library (h : belowLibraryRoot? id.path.toList = some rest) :
    Path.steps id.path = "lib" :: Path.steps (String.ofList rest) := by
  have hpath : id.path = String.ofList ("lib".toList ++ '/' :: rest) := by
    rw [← String.toList_inj, belowLibraryRoot?_eq_some_iff.1 h, String.toList_ofList]
    rfl
  rw [hpath, Path.steps_ofList_append, String.ofList_toList, Path.steps_of_not_mem (by decide)]
  rfl

theorem risesAtMost_stagingPath (valid : id.validate = .ok ()) :
    Path.risesAtMost 0 (Path.steps id.stagingPath) = true ↔
      (id.isLibrary = true → Path.risesAtMost 1 (Path.steps id.package) = true) := by
  have hpath := ne_up_of_validate valid
  unfold isLibrary
  cases hroot : belowLibraryRoot? id.path.toList with
  | none =>
    have hstaging : id.stagingPath = id.path := by
      unfold stagingPath
      rw [hroot]
    rw [hstaging, Path.risesAtMost_of_ne_up hpath]
    simp
  | some rest =>
    -- the directory of packages is one step down already when the package begins
    rw [steps_path_of_library hroot] at hpath
    have hrest : ∀ step ∈ Path.steps (String.ofList rest), step ≠ ".." :=
      fun step hstep => hpath step (List.mem_cons_of_mem _ hstep)
    have hlibrary : Path.risesAtMost 0 (Path.steps id.stagingPath) =
        Path.risesAtMost 1 (Path.steps id.package ++ Path.steps (String.ofList rest)) := by
      rw [steps_stagingPath hroot]
      rfl
    rw [hlibrary, Path.risesAtMost_append hrest]
    simp

end AssetId

namespace FileTree

variable {t u : FileTree} {top : Location} {places : List Location}

def SameFilesOutside (top : Location) (t u : FileTree) : Prop :=
  ∀ l e, ¬ top <:+ l → e.isFile = true → (u.get? l = some e ↔ t.get? l = some e)

theorem ConfinedTo.sameFilesOutside (h : ConfinedTo places t u)
    (hplaces : ∀ l ∈ places, top <:+ l) : SameFilesOutside top t u := by
  intro l e hl hfile
  have hout : l ∉ places := fun hmem => hl (hplaces l hmem)
  constructor
  · intro hget
    exact h.get?_of_file hout hget hfile
  · intro hget
    exact h.get?_file hout hget

end FileTree

namespace StagingArea

variable {area : StagingArea} {reader : Reader} {id : AssetId} {t : FileTree}

theorem forall_pathFor_iff (valid : id.validate = .ok ()) :
    (∀ area : StagingArea, Path.Normal area.root → Path.AtOrBelow area.root (area.pathFor id)) ↔
      (id.isLibrary = true → Path.risesAtMost 1 (Path.steps id.package) = true) := by
  rw [← AssetId.risesAtMost_stagingPath valid, ← Path.forall_suffix_foldl_iff]
  unfold Path.AtOrBelow pathFor StagingArea.resolve
  simp only [Path.place_resolve]
  constructor
  · intro h root hroot
    exact h ⟨root⟩ hroot
  · intro h area hroot
    exact h area.root hroot

theorem stage_sameFilesOutside (plain : t.Plain) (hroot : Path.Normal area.root)
    (hbelow : Path.AtOrBelow area.root (area.pathFor id)) :
    SameFilesOutside (Path.place area.root) t (Work.left (area.stage reader id t)) := by
  have hpath : t.locate (area.pathFor id) = Path.place (area.pathFor id) :=
    Path.locate_eq_place (Path.isAbsolute_resolve _ hroot.isAbsolute)
  cases h : area.stage reader id t with
  | error e u => exact (stage_error plain h).sameFilesOutside (by simp)
  | ok written u =>
    obtain ⟨_, -, hwrites⟩ := stage_ok plain h
    apply hwrites.confined.sameFilesOutside
    intro l hl
    rw [List.mem_singleton.1 hl, hpath]
    exact hbelow

end StagingArea

namespace AssetDirectories

variable {d : AssetDirectories} {id : AssetId} {bytes : ByteArray} {t : FileTree}

theorem place_outputPath (d : AssetDirectories) (id : AssetId) :
    Path.place (d.outputPath id) = (Path.steps id.package ++ Path.steps id.path).foldl stepFrom
      (if Path.isAbsolute id.package then [] else Path.place d.outputDirectory) := by
  unfold outputPath
  rw [Path.place_resolve, List.foldl_append]
  congr 1
  unfold Path.place
  cases habs : Path.isAbsolute id.package with
  | true =>
    unfold Path.join
    rw [habs]
    rfl
  | false =>
    rw [Path.steps_join _ habs, List.foldl_append]
    rfl

theorem forall_outputPath_iff (valid : id.validate = .ok ()) :
    (∀ d : AssetDirectories, Path.Normal d.outputDirectory →
        Path.AtOrBelow d.outputDirectory (d.outputPath id)) ↔
      Path.isAbsolute id.package = false ∧
        Path.risesAtMost 0 (Path.steps id.package) = true := by
  unfold Path.AtOrBelow
  simp only [place_outputPath]
  cases habs : Path.isAbsolute id.package with
  | true =>
    -- the output directory plays no part, so there is one that the asset does not lie in
    simp only [if_true, Bool.true_eq_false, false_and, iff_false]
    intro h
    obtain ⟨root, hroot, hleft⟩ := Path.exists_not_suffix_foldl
    exact hleft (h ⟨root, .empty⟩ hroot)
  | false =>
    simp only [Bool.false_eq_true, if_false, true_and]
    rw [← Path.risesAtMost_append (AssetId.ne_up_of_validate valid),
      ← Path.forall_suffix_foldl_iff]
    constructor
    · intro h root hroot
      exact h ⟨root, .empty⟩ hroot
    · intro h d hroot
      exact h d.outputDirectory hroot

theorem write_sameFilesOutside (plain : t.Plain) (hroot : Path.Normal d.outputDirectory)
    (hbelow : Path.AtOrBelow d.outputDirectory (d.outputPath id)) :
    SameFilesOutside (Path.place d.outputDirectory) t (Work.left (d.write id bytes t)) := by
  have hpath : t.locate (d.outputPath id) = Path.place (d.outputPath id) :=
    Path.locate_eq_place (Path.isAbsolute_resolve _ (Path.isAbsolute_join _ hroot.isAbsolute))
  cases h : d.write id bytes t with
  | error e u => exact (write_error plain h).sameFilesOutside (by simp)
  | ok _ u =>
    apply (write_ok plain h).confined.sameFilesOutside
    intro l hl
    rw [List.mem_singleton.1 hl, hpath]
    exact hbelow

end AssetDirectories

namespace AssetId

theorem parsed_stays_below_iff {text : String} {id : AssetId} (h : parse text = .ok id) :
    ((∀ area : StagingArea, Path.Normal area.root → Path.AtOrBelow area.root (area.pathFor id)) ↔
        (id.isLibrary = true → Path.risesAtMost 1 (Path.steps id.package) = true)) ∧
      ((∀ d : AssetDirectories, Path.Normal d.outputDirectory →
          Path.AtOrBelow d.outputDirectory (d.outputPath id)) ↔
        Path.isAbsolute id.package = false ∧
          Path.risesAtMost 0 (Path.steps id.package) = true) ∧
      (∀ (area : StagingArea) (reader : Reader) (t : FileTree), t.Plain →
        Path.Normal area.root → Path.AtOrBelow area.root (area.pathFor id) →
          SameFilesOutside (Path.place area.root) t (Work.left (area.stage reader id t))) ∧
      ∀ (d : AssetDirectories) (bytes : ByteArray) (t : FileTree), t.Plain →
        Path.Normal d.outputDirectory → Path.AtOrBelow d.outputDirectory (d.outputPath id) →
          SameFilesOutside (Path.place d.outputDirectory) t (Work.left (d.write id bytes t)) := by
  have valid := validate_of_parse h
  refine ⟨StagingArea.forall_pathFor_iff valid, AssetDirectories.forall_outputPath_iff valid, ?_, ?_⟩
  · intro area reader t plain hroot hbelow
    exact StagingArea.stage_sameFilesOutside plain hroot hbelow
  · intro d bytes t plain hroot hbelow
    exact AssetDirectories.write_sameFilesOutside plain hroot hbelow

theorem library_of_a_stays_below :
    parse "a|lib/x" = .ok ⟨"a", "lib/x"⟩ ∧
      (∀ area : StagingArea, Path.Normal area.root →
        Path.AtOrBelow area.root (area.pathFor ⟨"a", "lib/x"⟩)) ∧
      (∀ d : AssetDirectories, Path.Normal d.outputDirectory →
        Path.AtOrBelow d.outputDirectory (d.outputPath ⟨"a", "lib/x"⟩)) ∧
      (∀ reader, SameFilesOutside ["s", "w"] .empty
        (Work.left (StagingArea.stage ⟨"/w/s"⟩ reader ⟨"a", "lib/x"⟩ .empty))) ∧
      ∀ bytes, SameFilesOutside ["o", "w"] .empty
        (Work.left (AssetDirectories.write ⟨"/w/o", .empty⟩ ⟨"a", "lib/x"⟩ bytes .empty)) := by
  have hparse : parse "a|lib/x" = .ok ⟨"a", "lib/x"⟩ := by rfl
  obtain ⟨hstaging, houtput, hstage, hwrite⟩ := parsed_stays_below_iff hparse
  have hstaged := hstaging.2 (by decide)
  have hwritten := houtput.2 (by decide)
  have hroot : Path.Normal "/w/s" := by decide +kernel
  have hout : Path.Normal "/w/o" := by decide +kernel
  have hplace : Path.place "/w/s" = ["s", "w"] := by decide +kernel
  have hplaceOut : Path.place "/w/o" = ["o", "w"] := by decide +kernel
  refine ⟨hparse, hstaged, hwritten, ?_, ?_⟩
  · intro reader
    rw [← hplace]
    exact hstage ⟨"/w/s"⟩ reader _ plain_empty hroot (hstaged ⟨"/w/s"⟩ hroot)
  · intro bytes
    rw [← hplaceOut]
    exact hwrite ⟨"/w/o", .empty⟩ bytes _ plain_empty hout (hwritten ⟨"/w/o", .empty⟩ hout)

theorem rising_package_leaves_directories :
    parse "../..|lib/x" = .ok ⟨"../..", "lib/x"⟩ ∧
      Path.Normal "/w/s" ∧ Path.Normal "/w/o" ∧
      ¬ Path.AtOrBelow "/w/s" (StagingArea.pathFor ⟨"/w/s"⟩ ⟨"../..", "lib/x"⟩) ∧
      ¬ Path.AtOrBelow "/w/o" (AssetDirectories.outputPath ⟨"/w/o", .empty⟩ ⟨"../..", "lib/x"⟩) ∧
      (Work.left (StagingArea.stage ⟨"/w/s"⟩ (fun _ _ => .ok ⟨#[1]⟩) ⟨"../..", "lib/x"⟩ .empty)).read
        "/w/x" = .ok ⟨#[1]⟩ ∧
      (Work.left (AssetDirectories.write ⟨"/w/o", .empty⟩ ⟨"../..", "lib/x"⟩ ⟨#[2]⟩ .empty)).read
        "/lib/x" = .ok ⟨#[2]⟩ := by
  refine ⟨by rfl, ?_, ?_, ?_, ?_, ?_, ?_⟩
  · decide +kernel
  · decide +kernel
  · decide +kernel
  · decide +kernel
  · exact eq_ok_of_toOption (by decide +kernel)
  · exact eq_ok_of_toOption (by decide +kernel)

end AssetId

end DartBundle
