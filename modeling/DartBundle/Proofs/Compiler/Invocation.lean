import DartBundle.Compiler.Invocation
import DartBundle.Proofs.FileTree.Operations
/-!
This module contains where the compiler of an invocation leaves the bundle and the source map, and how
both places are cleared. The path of the source map is that of the bundle with an ending after it.
-/

namespace DartBundle

namespace AssetId

theorem belowLibraryRoot?_eq_some_iff {path rest : List Char} :
    belowLibraryRoot? path = some rest ↔ path = 'l' :: 'i' :: 'b' :: '/' :: rest := by
  unfold belowLibraryRoot?
  split
  · simp
  · next h =>
    constructor
    · intro hnone
      cases hnone
    · intro hpath
      exact absurd hpath (h rest)

theorem belowLibraryRoot?_append (path : List Char) {added : List Char} (h : '/' ∉ added) :
    belowLibraryRoot? (path ++ added) = (belowLibraryRoot? path).map fun rest => rest ++ added := by
  cases hbelow : belowLibraryRoot? path with
  | some rest =>
    rw [belowLibraryRoot?_eq_some_iff] at hbelow
    subst hbelow
    rfl
  | none =>
    rw [Option.map_none, Option.eq_none_iff_forall_not_mem]
    intro rest hrest
    have heq := belowLibraryRoot?_eq_some_iff.1 hrest
    -- an ending has no slash that could complete a root that is too short
    match path with
    | [] => simp_all
    | [a] => simp_all
    | [a, b] => simp_all
    | [a, b, c] => simp_all
    | a :: b :: c :: d :: others =>
      simp only [List.cons_append, List.cons.injEq] at heq
      obtain ⟨rfl, rfl, rfl, rfl, -⟩ := heq
      cases hbelow

theorem stagingPath_append (package path : String) {added : String} (h : '/' ∉ added.toList) :
    stagingPath ⟨package, path ++ added⟩ = stagingPath ⟨package, path⟩ ++ added := by
  unfold stagingPath
  rw [String.toList_append, belowLibraryRoot?_append path.toList h]
  cases belowLibraryRoot? path.toList with
  | none => rfl
  | some rest => simp [String.append_assoc]

theorem split_stagingPath_getLast? (id : AssetId) :
    (List.splitOn '/' id.stagingPath.toList).getLast? = (List.splitOn '/' id.path.toList).getLast? := by
  unfold stagingPath
  cases hrest : belowLibraryRoot? id.path.toList with
  | none => rfl
  | some rest =>
    have hpath : id.path.toList = "lib".toList ++ '/' :: rest := belowLibraryRoot?_eq_some_iff.1 hrest
    rw [hpath, Text.getLast?_splitOn_append]
    dsimp only
    rw [String.toList_append, String.toList_append, List.append_assoc]
    rw [String.toList_ofList (l := rest)]
    exact Text.getLast?_splitOn_append '/' _ rest

end AssetId

namespace Invocation

open FileTree

variable {t u : FileTree} {path : String} {fault : FileFault} {i : Invocation}

theorem outputPath_build (entry : AssetId) (packageConfig : String) (area : StagingArea)
    (config : CompilerConfig) (sdk : Sdk) :
    (build entry packageConfig area config sdk).outputPath =
      (build entry packageConfig area config sdk).bundle.stagingPath := by
  unfold build bundlePath
  dsimp only

theorem pathFor_bundle_build (entry : AssetId) (packageConfig : String) (area : StagingArea)
    (config : CompilerConfig) (sdk : Sdk) :
    area.pathFor (build entry packageConfig area config sdk).bundle =
      (build entry packageConfig area config sdk).outputFile := by
  unfold outputFile StagingArea.pathFor StagingArea.resolve build bundlePath
  dsimp only

theorem pathFor_sourceMap_build (entry : AssetId) (packageConfig : String) (area : StagingArea)
    (config : CompilerConfig) (sdk : Sdk) :
    area.pathFor (build entry packageConfig area config sdk).sourceMap =
      (build entry packageConfig area config sdk).sourceMapFile := by
  unfold sourceMapFile StagingArea.pathFor StagingArea.resolve build
  dsimp only

theorem stagingPath_sourceMap_build (entry : AssetId) (packageConfig : String) (area : StagingArea)
    (config : CompilerConfig) (sdk : Sdk) :
    (build entry packageConfig area config sdk).sourceMap.stagingPath =
      (build entry packageConfig area config sdk).outputPath ++ ".map" := by
  have hadded : '/' ∉ ".map".toList := by decide
  have hmap : (entry.changeExtension config.sourceMapExtension).stagingPath =
      (entry.changeExtension config.bundleExtension).stagingPath ++ ".map" := by
    unfold AssetId.changeExtension CompilerConfig.sourceMapExtension
    rw [← String.append_assoc]
    exact AssetId.stagingPath_append _ _ hadded
  unfold build bundlePath
  dsimp only
  exact hmap

theorem sourceMapFile_build (entry : AssetId) (packageConfig : String) (area : StagingArea)
    (config : CompilerConfig) (sdk : Sdk) :
    (build entry packageConfig area config sdk).sourceMapFile =
      (build entry packageConfig area config sdk).outputFile ++ ".map" := by
  unfold sourceMapFile outputFile
  rw [stagingPath_sourceMap_build]
  exact Path.resolve_append _ _ (by decide)

structure Placed (i : Invocation) : Prop where
  bundle : Path.isAbsolute i.outputFile = true
  beside : i.sourceMapFile = i.outputFile ++ ".map"

theorem Placed.sourceMap (h : i.Placed) : Path.isAbsolute i.sourceMapFile = true := by
  rw [h.beside, Path.isAbsolute_append _ (Path.isEmpty_of_isAbsolute h.bundle)]
  exact h.bundle

theorem placed_build (entry : AssetId) (packageConfig : String) {area : StagingArea}
    (config : CompilerConfig) (sdk : Sdk) (habs : Path.isAbsolute area.root = true) :
    (build entry packageConfig area config sdk).Placed where
  bundle := Path.isAbsolute_resolve _ habs
  beside := sourceMapFile_build ..

theorem split_outputFile_build_getLast? (entry : AssetId) (packageConfig : String)
    (area : StagingArea) (config : CompilerConfig) (sdk : Sdk) :
    (List.splitOn '/' (build entry packageConfig area config sdk).outputFile.toList).getLast? =
      (List.splitOn '/' (build entry packageConfig area config sdk).bundle.path.toList).getLast? := by
  unfold outputFile build bundlePath
  dsimp only
  rw [Path.split_resolve_getLast?, AssetId.split_stagingPath_getLast?]

theorem removeIfPresent_ok (plain : t.Plain) (habs : Path.isAbsolute path = true)
    (h : removeIfPresent path t = .ok () u) :
    ConfinedTo [t.locate path] t u ∧ Clears t u ∧ u.find path true = .error .notFound ∧
      ∀ found, t.holder path = .ok found → u.get? (t.locate path) = none := by
  unfold removeIfPresent at h
  cases hremove : Disk.remove path t with
  | ok _ v =>
    rw [hremove] at h
    cases h
    obtain ⟨hconfined, hclears, d, last, hholder, hdot, hup, hlocate, hget⟩ :=
      Disk.remove_ok plain hremove
    have plain' := hconfined.plain plain
    have hgone : isGone (last :: d) = false := isGone_of_holder plain hholder hdot
    have hfollow :=
      follow_of_name (b := true) plain' (hconfined.toKeeps.holder plain plain' hholder) hdot hup
    rw [hlocate] at hconfined ⊢
    exact ⟨hconfined, hclears, find_eq_notFound hfollow hget hgone, fun _ _ => hget⟩
  | error fault v =>
    rw [hremove] at h
    rcases Disk.remove_cases path t with ⟨fault', hfault, hwhy⟩ | ⟨_, _, _, _, _, _, _, _, hok⟩
    · rw [hfault] at hremove
      cases hremove
      cases fault with
      | notFound =>
        cases h
        refine ⟨.refl _ _, .refl _, ?_, ?_⟩
        · rcases hwhy rfl with hholder | ⟨d, last, hholder, hdot, hup, hget⟩
          · apply find_eq_error
            rw [follow_eq_holder plain habs, hholder]
            rfl
          · exact find_eq_notFound (follow_of_name plain hholder hdot hup) hget
              (isGone_of_holder plain hholder hdot)
        · intro found hfound
          rcases hwhy rfl with hholder | ⟨d, last, hholder, hdot, hup, hget⟩
          · rw [hholder] at hfound
            cases hfound
          · rwa [locate_of_name plain hholder hdot hup]
      | _ => cases h
    · rw [hok] at hremove
      cases hremove

theorem removeIfPresent_error (h : removeIfPresent path t = .error fault u) :
    u = t := by
  unfold removeIfPresent at h
  rcases Disk.remove_cases path t with ⟨fault', hfault, -⟩ | ⟨_, _, _, _, _, _, _, _, hok⟩
  · rw [hfault] at h
    cases fault' with
    | notFound => cases h
    | _ =>
      cases h
      rfl
  · rw [hok] at h
    cases h

theorem clearStale_ok (plain : t.Plain) (placed : i.Placed) (h : i.clearStale t = .ok () u) :
    ConfinedTo [t.locate i.outputFile, t.locate i.sourceMapFile] t u ∧ Clears t u ∧
      u.find i.outputFile true = .error .notFound ∧
        (∀ found, t.holder i.outputFile = .ok found → u.get? (t.locate i.outputFile) = none) ∧
          ∀ found, t.holder i.sourceMapFile = .ok found →
            u.get? (t.locate i.sourceMapFile) = none := by
  obtain ⟨_, v, hfirst, hsecond⟩ := Work.bind_eq_ok_iff.1 (FileWork.ofDisk_eq_ok_iff.1 h)
  obtain ⟨hconfined, hclears, hfind, hgone⟩ := removeIfPresent_ok plain placed.bundle hfirst
  have plain' := hconfined.plain plain
  obtain ⟨hconfined', hclears', -, hgone'⟩ := removeIfPresent_ok plain' placed.sourceMap hsecond
  have plain'' := hconfined'.plain plain'
  rw [hconfined.toKeeps.locate] at hconfined' hgone'
  refine ⟨?_, hclears.trans hclears', ?_, ?_, ?_⟩
  · exact (hconfined.mono (by simp)).trans (hconfined'.mono (by simp))
  · exact hclears'.find_eq_notFound plain' plain'' placed.bundle hfind
  · intro found hfound
    exact hclears'.get?_eq_none (hgone found hfound)
  · intro found hfound
    exact hgone' found (hclears.toKeeps.holder plain plain' hfound)

theorem clearStale_confined (plain : t.Plain) (placed : i.Placed) :
    ConfinedTo [t.locate i.outputFile, t.locate i.sourceMapFile] t (Work.left (i.clearStale t)) := by
  cases h : i.clearStale t with
  | ok _ u => exact (clearStale_ok plain placed h).1
  | error e u =>
    obtain ⟨fault, -, hclear⟩ := FileWork.ofDisk_eq_error_iff.1 h
    rcases Work.bind_eq_error_iff.1 hclear with hfirst | ⟨_, v, hfirst, hsecond⟩
    · rw [removeIfPresent_error hfirst]
      exact .refl _ _
    · rw [removeIfPresent_error hsecond]
      exact (removeIfPresent_ok plain placed.bundle hfirst).1.mono_singleton (by simp)

theorem removeIfPresent_holder (h : removeIfPresent path t = .ok () u)
    (hholder : t.holder path = .error fault) : fault = .notFound := by
  unfold removeIfPresent at h
  rw [Disk.remove_of_holder_error hholder] at h
  cases fault with
  | notFound => rfl
  | _ => cases h

theorem clearStale_holder {d : Location} {last : String} (plain : t.Plain) (placed : i.Placed)
    (hfile : Path.namesDirectory i.outputFile = false) (h : i.clearStale t = .ok () u)
    (hholder : t.holder i.outputFile = .ok (d, last)) :
    t.holder i.sourceMapFile = .ok (d, last ++ ".map") := by
  obtain ⟨_, v, hfirst, hsecond⟩ := Work.bind_eq_ok_iff.1 (FileWork.ofDisk_eq_ok_iff.1 h)
  obtain ⟨hconfined, -, -, -⟩ := removeIfPresent_ok plain placed.bundle hfirst
  have plain' := hconfined.plain plain
  have hholder' := hconfined.toKeeps.holder plain plain' hholder
  have hadded : '/' ∉ ".map".toList := by decide
  have hsame := holder_append_congr plain plain' hfile hadded hholder hholder'
  rw [← placed.beside] at hsame
  rw [← hsame]
  have hempty := Path.isEmpty_of_isAbsolute placed.sourceMap
  have hvalue := holder_append plain' hfile hadded hholder'
  rw [← placed.beside] at hvalue
  -- a path where no file could be is not merely missing, and would have stopped the step
  have hmiss : ∀ fault, v.holder i.sourceMapFile = .error fault → fault = .notFound :=
    fun fault => removeIfPresent_holder hsecond
  cases hpath : pathFault? i.sourceMapFile with
  | some fault =>
    rw [hpath] at hvalue
    rw [hmiss fault hvalue] at hpath
    exact absurd hpath (pathFault?_ne_notFound hempty)
  | none =>
    rw [hpath] at hvalue
    dsimp only at hvalue
    split at hvalue
    · cases hmiss _ hvalue
    · exact hvalue

end Invocation

end DartBundle
