import DartBundle.Proofs.Asset.Siblings
import DartBundle.Proofs.Build.Publication
/-!
This module contains where the bundle and the source map of an invocation are. What the compiler is told,
what is cleared before it is started, what is looked for and rewritten after it has ended and what is
published are found in different ways, and are the same two files.
-/

namespace DartBundle

theorem Path.isAbsolute_append_of_not_mem {path added : String} (h : '/' ∉ added.toList) :
    isAbsolute (path ++ added) = isAbsolute path := by
  cases hempty : path.isEmpty with
  | false => exact isAbsolute_append added hempty
  | true =>
    rw [String.isEmpty_iff] at hempty
    subst hempty
    rw [String.empty_append, not_isAbsolute h]
    rfl

namespace AssetId

variable {id : AssetId}

theorem isAbsolute_stagingPath (h : Path.isAbsolute id.path = false) :
    Path.isAbsolute id.stagingPath = false := by
  unfold stagingPath
  cases belowLibraryRoot? id.path.toList with
  | none => exact h
  | some rest =>
    simp [Path.isAbsolute]

theorem isAbsolute_path (valid : id.validate = .ok ()) : Path.isAbsolute id.path = false := by
  obtain ⟨-, hpath, -⟩ := validate_eq_ok_iff.1 valid
  unfold Path.isAbsolute
  rw [decide_eq_false_iff_not]
  exact head?_of_isPath hpath

theorem isAbsolute_changeExtension (extension : String) (valid : id.validate = .ok ()) :
    Path.isAbsolute (id.changeExtension extension).path = false := by
  have habs := isAbsolute_path valid
  obtain ⟨suffix, heq, -⟩ := exists_path_eq id
  have hempty : id.pathWithoutExtension.isEmpty = false := by
    rw [← Bool.not_eq_true, String.isEmpty_iff]
    intro hnil
    have hsplit := splitName_pathWithoutExtension id
    rw [hnil] at hsplit
    exact stem_ne_nil (name_ne_nil_of_validate valid) (Prod.ext_iff.1 hsplit).2.symm
  rw [heq, Path.isAbsolute_append suffix hempty] at habs
  unfold changeExtension
  rw [Path.isAbsolute_append extension hempty, habs]

end AssetId

namespace FileTree

variable {t u : FileTree} {base : String}

theorem locate_of_enter (plain : t.Plain) (h : t.enter base = .ok u) (path : String) :
    u.locate path =
      if Path.isAbsolute path then Path.place path else t.locate (Path.resolve base path) := by
  unfold enter at h
  cases hfind : t.find base true with
  | error fault =>
    rw [hfind] at h
    cases h
  | ok found =>
    obtain ⟨l, e⟩ := found
    rw [hfind] at h
    dsimp only [bind, Except.bind] at h
    have hbase := locate_eq plain (find_eq_ok_iff.1 hfind).1
    repeat' split at h
    all_goals cases h
    cases habs : Path.isAbsolute path with
    | true => exact Path.locate_eq_place habs
    | false =>
      rw [locate_resolve, hbase]
      unfold locate start
      rw [habs]
      rfl

end FileTree

namespace Invocation

open FileTree

variable {i : Invocation} {entry : AssetId} {packageConfig : String} {area : StagingArea}
  {config : CompilerConfig} {sdk : Sdk} {t u : FileTree}

theorem exists_arguments_eq (entry : AssetId) (packageConfig : String) (area : StagingArea)
    (config : CompilerConfig) (sdk : Sdk) :
    ∃ front, (build entry packageConfig area config sdk).arguments =
      front ++ ["-o" ++ (build entry packageConfig area config sdk).outputPath,
        (build entry packageConfig area config sdk).entryUri] := by
  refine ⟨config.machineArguments ++ sdk.compilerSnapshot :: (config.compilerArguments ++ [
    "--libraries-spec=" ++ sdk.librariesSpec,
    "--packages=" ++ config.multiRootScheme ++ ":///" ++ packageConfig,
    "--multi-root-scheme=" ++ config.multiRootScheme,
    "--multi-root=" ++ area.root]), ?_⟩
  unfold build compilerArguments
  simp only [List.append_assoc, List.cons_append, List.nil_append]

theorem locate_outputPath (plain : t.Plain) (h : t.enter i.workingDirectory = .ok u) :
    u.locate i.outputPath =
      if Path.isAbsolute i.outputPath then Path.place i.outputPath else t.locate i.outputFile :=
  locate_of_enter plain h i.outputPath

theorem locate_sourceMap (plain : t.Plain) (h : t.enter i.workingDirectory = .ok u)
    (hmap : i.sourceMap.stagingPath = i.outputPath ++ ".map") :
    u.locate (i.outputPath ++ ".map") =
      if Path.isAbsolute i.outputPath then Path.place (i.outputPath ++ ".map")
      else t.locate i.sourceMapFile := by
  rw [locate_of_enter plain h, Path.isAbsolute_append_of_not_mem (by decide), ← hmap]
  rfl

theorem clearStale_empties (plain : t.Plain) (placed : i.Placed) (h : i.clearStale t = .ok () u) :
    u.isFile i.outputFile = false ∧ u.isFile i.sourceMapFile = false := by
  obtain ⟨_, v, hfirst, hsecond⟩ := Work.bind_eq_ok_iff.1 (FileWork.ofDisk_eq_ok_iff.1 h)
  obtain ⟨hconfined, -⟩ := removeIfPresent_ok plain placed.bundle hfirst
  obtain ⟨-, -, hmap, -⟩ := removeIfPresent_ok (hconfined.plain plain) placed.sourceMap hsecond
  obtain ⟨-, -, hbundle, -⟩ := clearStale_ok plain placed h
  unfold FileTree.isFile
  rw [hbundle, hmap]
  exact ⟨rfl, rfl⟩

theorem output_locations_agree (h : i = build entry packageConfig area config sdk) :
    i.outputPath = i.bundle.stagingPath ∧
      (∃ front, i.arguments = front ++ ["-o" ++ i.outputPath, i.entryUri]) ∧
      i.sourceMap.stagingPath = i.outputPath ++ ".map" ∧
      i.outputFile = area.pathFor i.bundle ∧ i.sourceMapFile = area.pathFor i.sourceMap ∧
      (entry.validate = .ok () → Path.isAbsolute i.outputPath = false) ∧
      (∀ t u : FileTree, t.Plain → t.enter i.workingDirectory = .ok u →
        u.locate i.outputPath =
            (if Path.isAbsolute i.outputPath then Path.place i.outputPath
              else t.locate (area.pathFor i.bundle)) ∧
          u.locate (i.outputPath ++ ".map") =
            if Path.isAbsolute i.outputPath then Path.place (i.outputPath ++ ".map")
            else t.locate (area.pathFor i.sourceMap)) ∧
      (∀ t u : FileTree, t.Plain → Path.isAbsolute area.root = true → i.clearStale t = .ok () u →
        u.isFile (area.pathFor i.bundle) = false ∧ u.isFile (area.pathFor i.sourceMap) = false ∧
          ConfinedTo [t.locate (area.pathFor i.bundle), t.locate (area.pathFor i.sourceMap)] t u) ∧
      (∀ (compile : Compiler) (t u : FileTree) (c : Completion), i.run compile t = .ok c u →
        c.outputExists = u.isFile (area.pathFor i.bundle)) ∧
      (∀ (preamble : String) (t u : FileTree), t.Plain →
        injectPreamble i.outputFile preamble t = .ok () u →
          ∃ content, t.read (area.pathFor i.bundle) = .ok content ∧
            Writes (area.pathFor i.bundle) (preamble.toUTF8 ++ content) t u) ∧
      ∀ (write : Writer) (w v : Workspace) (artifacts : Artifacts),
        area.publish i write w = .ok artifacts v →
          ∃ content published, w.files.read i.outputFile = .ok content ∧
            write i.bundle content w = .ok () published ∧
              (published.files.isFile i.sourceMapFile = false ∧ published = v ∨
                ∃ map, published.files.read i.sourceMapFile = .ok map ∧
                  write i.sourceMap map published = .ok () v) := by
  subst h
  have hbundle := pathFor_bundle_build entry packageConfig area config sdk
  have hsourceMap := pathFor_sourceMap_build entry packageConfig area config sdk
  have hmap := stagingPath_sourceMap_build entry packageConfig area config sdk
  rw [hbundle, hsourceMap]
  refine ⟨outputPath_build entry packageConfig area config sdk,
    exists_arguments_eq entry packageConfig area config sdk, hmap, rfl, rfl, ?_, ?_, ?_, ?_, ?_, ?_⟩
  · intro valid
    have hrelative := AssetId.isAbsolute_stagingPath
      (AssetId.isAbsolute_changeExtension config.bundleExtension valid)
    unfold build bundlePath
    dsimp only
    exact hrelative
  · -- the compiler runs in the root of the staging area, where its relative paths start
    intro t u plain henter
    exact ⟨locate_outputPath plain henter, locate_sourceMap plain henter hmap⟩
  · intro t u plain habs hclear
    have placed := placed_build entry packageConfig config sdk habs
    obtain ⟨hgone, hgoneMap⟩ := clearStale_empties plain placed hclear
    exact ⟨hgone, hgoneMap, (clearStale_ok plain placed hclear).1⟩
  · intro compile t u c hrun
    obtain ⟨_, -, hcompletion⟩ := run_ok hrun
    rw [hcompletion, outputExists_completion]
  · intro preamble t u plain hinject
    obtain ⟨content, hread, hreplace⟩ := injectPreamble_ok hinject
    exact ⟨content, hread, writes_replaceFile plain hreplace⟩
  · intro write w v artifacts hpublish
    obtain ⟨-, published, hcopy, hcopied⟩ := StagingArea.publish_ok hpublish
    obtain ⟨content, hread, hwrite⟩ := StagingArea.copyOutput_ok hcopy
    rw [hbundle] at hread
    rw [hsourceMap] at hcopied
    refine ⟨content, published, hread, hwrite, ?_⟩
    rcases hcopied with ⟨-, -, hcopyMap⟩ | ⟨hfile, -, heq⟩
    · obtain ⟨map, hreadMap, hwriteMap⟩ := StagingArea.copyOutput_ok hcopyMap
      rw [hsourceMap] at hreadMap
      exact .inr ⟨map, hreadMap, hwriteMap⟩
    · exact .inl ⟨hfile, heq⟩

def furnished : FileTree :=
  FileTree.empty.create ["s"] .directory 0o755

theorem furnished_plain : furnished.Plain :=
  plain_empty.create (List.cons_ne_nil _ _) (by simp)

theorem output_locations_agree_across_library_root :
    ∃ u : FileTree, furnished.enter "/s" = .ok u ∧
      u.locate "packages/a/y" = furnished.locate "/s/packages/a/y" ∧
      u.locate "packages/a/y.map" = furnished.locate "/s/packages/a/y.map" := by
  have valid : AssetId.validate ⟨"a", "l"⟩ = .ok () := by rfl
  obtain ⟨-, -, -, -, -, hrelative, hplaces, -⟩ := output_locations_agree
    (i := build ⟨"a", "l"⟩ "c" ⟨"/s"⟩ { bundleExtension := "ib/y" } ⟨"/k"⟩) rfl
  have henter : furnished.enter "/s" = .ok { furnished with current := ["s"] } := by rfl
  obtain ⟨hbundle, hmap⟩ := hplaces _ _ furnished_plain henter
  rw [hrelative valid] at hbundle hmap
  exact ⟨_, henter, hbundle, hmap⟩

theorem bundle_missed_with_path_from_root :
    (∃ u : FileTree, furnished.enter "/s" = .ok u ∧
      u.locate (build ⟨"a", "/x"⟩ "c" ⟨"/s"⟩ { bundleExtension := ".j" } ⟨"/k"⟩).outputPath ≠
        furnished.locate
          (build ⟨"a", "/x"⟩ "c" ⟨"/s"⟩ { bundleExtension := ".j" } ⟨"/k"⟩).outputFile) ∧
      ∃ c left,
        (build ⟨"a", "/x"⟩ "c" ⟨"/s"⟩ { bundleExtension := ".j" } ⟨"/k"⟩).run
            (fun _ t => .ok (⟨some 0, .empty, .empty, 0⟩, t.create ["x.j"] (.file .empty) 0o644))
            furnished = .ok c left ∧
          left.isFile
              (build ⟨"a", "/x"⟩ "c" ⟨"/s"⟩ { bundleExtension := ".j" } ⟨"/k"⟩).outputPath = true ∧
            c.outputExists = false := by
  refine ⟨⟨{ furnished with current := ["s"] }, by rfl, ?_⟩, _, _, rfl, ?_, ?_⟩
  · decide +kernel
  · decide +kernel
  · decide +kernel

end Invocation

end DartBundle
