import DartBundle.Proofs.CommandLine.Build
import DartBundle.Proofs.Module.Ownership
/-!
This module contains which build commands are refused, and that they leave everything as it is. What counts
of a build command that is not refused is how its step ends, and of each package the directory named last.
-/

namespace DartBundle

namespace CommandLine

variable {env : Environment} {args : List String} {entry graph : String} {packages : List String}
  {directory output root text name : String} {flags : List String} {verbose : Bool} {t : FileTree}
  {id : AssetId} {g : ModuleGraph} {d d' : AssetDirectories} {f : Failure}

def Gives (text name directory : String) : Prop :=
  text = name ++ "=" ++ directory ∧ '=' ∉ name.toList ∧ name ≠ "" ∧ directory ≠ ""

theorem parsePackage_eq_ok_iff : parsePackage text = .ok (name, directory) ↔ Gives text name directory := by
  unfold parsePackage
  constructor
  · intro h
    split at h
    · next c before e after hcut =>
      cases h
      obtain ⟨htext, hnot⟩ := Text.cut?_eq_some hcut
      refine ⟨String.toList_injective ?_, ?_, ?_, ?_⟩
      · simpa using htext
      · simpa using hnot
      · exact fun hempty => by simpa using congrArg String.toList hempty
      · exact fun hempty => by simpa using congrArg String.toList hempty
    · cases h
  · rintro ⟨rfl, hnot, hname, hdirectory⟩
    have hcut : Text.cut? '=' (name ++ "=" ++ directory).toList =
        some (name.toList, directory.toList) := by
      simpa using Text.cut?_append directory.toList hnot
    obtain ⟨c, before, hbefore⟩ := List.exists_cons_of_ne_nil (mt String.toList_eq_nil_iff.1 hname)
    obtain ⟨e, after, hafter⟩ := List.exists_cons_of_ne_nil (mt String.toList_eq_nil_iff.1 hdirectory)
    rw [hcut, hbefore, hafter]
    simp only [← hbefore, ← hafter, String.ofList_toList]

theorem Gives.eq {other directory' : String} (h : Gives text name directory)
    (h' : Gives text other directory') : other = name ∧ directory' = directory := by
  have heq := (parsePackage_eq_ok_iff.2 h').symm.trans (parsePackage_eq_ok_iff.2 h)
  cases heq
  exact ⟨rfl, rfl⟩

def GivenLast (packages : List String) (name directory : String) : Prop :=
  ∃ before text after, packages = before ++ text :: after ∧ Gives text name directory ∧
    ∀ later ∈ after, ∀ other, ¬ Gives later name other

theorem givenLast_cons : GivenLast (text :: packages) name directory ↔
    GivenLast packages name directory ∨
      Gives text name directory ∧ ∀ later ∈ packages, ∀ other, ¬ Gives later name other := by
  constructor
  · rintro ⟨before, last, after, hsplit, hgives, hnone⟩
    cases before with
    | nil =>
      cases hsplit
      exact .inr ⟨hgives, hnone⟩
    | cons _ before =>
      cases hsplit
      exact .inl ⟨before, last, after, rfl, hgives, hnone⟩
  · rintro (⟨before, last, after, rfl, hgives, hnone⟩ | ⟨hgives, hnone⟩)
    · exact ⟨text :: before, last, after, rfl, hgives, hnone⟩
    · exact ⟨[], text, packages, rfl, hgives, hnone⟩

theorem addPackages_cons (h : Gives text name directory) :
    addPackages d (text :: packages) = addPackages (d.addPackage name directory) packages := by
  rw [addPackages, parsePackage_eq_ok_iff.2 h]
  rfl

theorem addPackages_eq_error_iff : (∃ f, addPackages d packages = .error f) ↔
    ∃ text ∈ packages, ∀ name directory, ¬ Gives text name directory := by
  induction packages generalizing d with
  | nil => simp [addPackages]
  | cons text rest ih =>
    cases hparse : parsePackage text with
    | error f =>
      have hnone : ∀ name directory, ¬ Gives text name directory := by
        intro name directory hgives
        rw [parsePackage_eq_ok_iff.2 hgives] at hparse
        cases hparse
      have herror : addPackages d (text :: rest) = .error f := by
        unfold addPackages
        rw [hparse]
        rfl
      exact iff_of_true ⟨f, herror⟩ ⟨text, List.mem_cons_self, hnone⟩
    | ok given =>
      have hgives := parsePackage_eq_ok_iff.1 hparse
      rw [addPackages_cons hgives, ih]
      simp only [List.exists_mem_cons_iff]
      exact (or_iff_right fun hnone => hnone _ _ hgives).symm

theorem lookup_of_addPackages (h : addPackages d packages = .ok d') :
    d'.outputDirectory = d.outputDirectory ∧ ∀ name directory,
      d'.packages.lookup name = some directory ↔ GivenLast packages name directory ∨
        d.packages.lookup name = some directory ∧ ∀ text ∈ packages, ∀ other, ¬ Gives text name other := by
  induction packages generalizing d with
  | nil =>
    cases h
    simp [GivenLast]
  | cons text rest ih =>
    cases hparse : parsePackage text with
    | error f =>
      unfold addPackages at h
      rw [hparse] at h
      cases h
    | ok given =>
      have hgives := parsePackage_eq_ok_iff.1 hparse
      rw [addPackages_cons hgives] at h
      obtain ⟨houtput, hlookup⟩ := ih h
      refine ⟨houtput, fun name directory => ?_⟩
      rw [hlookup, givenLast_cons, or_assoc]
      apply or_congr_right
      unfold AssetDirectories.addPackage
      rw [Table.lookup_insert, List.forall_mem_cons]
      split
      · next hname =>
        subst hname
        -- the text itself gives this package a directory, so only its own one can be meant
        have hnone : ¬ ∀ other, ¬ Gives text given.1 other := fun hnone => hnone _ hgives
        have hown : some given.2 = some directory ↔ Gives text given.1 directory := by
          constructor
          · intro heq
            cases heq
            exact hgives
          · intro hother
            rw [(hgives.eq hother).2]
        rw [hown, or_iff_left fun h => hnone h.2.1]
      · next hname =>
        have hnever : ∀ other, ¬ Gives text name other := fun other hother => hname (hgives.eq hother).1
        simp [hnever]

theorem validate_eq_ok_iff : Sdk.validate ⟨root⟩ t = .ok () ↔
    t.isFile (Sdk.mk root).machine = true ∧ t.isFile (Sdk.mk root).compilerSnapshot = true := by
  unfold Sdk.validate
  rw [List.find?_cons, List.find?_cons]
  cases t.isFile (Sdk.mk root).machine <;> cases t.isFile (Sdk.mk root).compilerSnapshot <;> simp

inductive Illegible (t : FileTree) (path : String) : Prop
  | unread {fault : FileFault} (read : t.read path = .error fault)
  | notText {content : ByteArray} {fault : Utf8.Fault} (read : t.read path = .ok content)
    (decoded : Utf8.decode content = .error fault)
  | noManifest {content : ByteArray} {text : String} {fault : Json.DecodeFault}
    (read : t.read path = .ok content) (decoded : Utf8.decode content = .ok text)
    (listed : Json.decode ModuleGraph.manifest text = .error fault)
  | duplicate {content : ByteArray} {text : String} {modules : List Module}
    (read : t.read path = .ok content) (decoded : Utf8.decode content = .ok text)
    (listed : Json.decode ModuleGraph.manifest text = .ok modules)
    (twice : ¬ (modules.map Module.id).Nodup)

theorem ofModules_eq_error_iff {modules : List Module} :
    (∃ e, ModuleGraph.ofModules modules = .error e) ↔ ¬ (modules.map Module.id).Nodup := by
  constructor
  · rintro ⟨e, h⟩ distinct
    rw [ModuleGraph.ofModules_eq_ok distinct] at h
    cases h
  · intro twice
    cases h : ModuleGraph.ofModules modules with
    | error e => exact ⟨e, rfl⟩
    | ok g =>
      obtain rfl := ModuleGraph.modules_of_ofModules h
      exact absurd g.distinct twice

theorem illegible_iff : Illegible t graph ↔ ∃ e, ModuleGraph.load t graph = .error e := by
  unfold ModuleGraph.load ModuleGraph.parse
  constructor
  · rintro (read | ⟨read, decoded⟩ | ⟨read, decoded, listed⟩ | ⟨read, decoded, listed, twice⟩)
    · simp only [read, Except.error.injEq, exists_eq']
    · simp only [read, decoded, Except.error.injEq, exists_eq']
    · simp only [read, decoded, listed, Except.error.injEq, exists_eq']
    · simp only [read, decoded, listed]
      exact ofModules_eq_error_iff.2 twice
  · rintro ⟨e, h⟩
    cases read : t.read graph with
    | error fault => exact .unread read
    | ok content =>
      cases decoded : Utf8.decode content with
      | error fault => exact .notText read decoded
      | ok text =>
        cases listed : Json.decode ModuleGraph.manifest text with
        | error fault => exact .noManifest read decoded listed
        | ok modules =>
          simp only [read, decoded, listed] at h
          exact .duplicate read decoded listed (ofModules_eq_error_iff.1 ⟨e, h⟩)

inductive Refused (t : FileTree) (entry graph : String) (packages : List String) (root : String) : Prop
  | noMachine (missing : t.isFile (Sdk.mk root).machine = false)
  | noCompiler (missing : t.isFile (Sdk.mk root).compilerSnapshot = false)
  | entry {fault : AssetId.Fault} (parsed : AssetId.parse entry = .error fault)
  | manifest (illegible : Illegible t graph)
  | package {text : String} (listed : text ∈ packages) (gives : ∀ name directory, ¬ Gives text name directory)

theorem Accepted.not_refused (h : Accepted t entry graph packages output root id g d) :
    ¬ Refused t entry graph packages root := by
  obtain ⟨hmachine, hcompiler⟩ := validate_eq_ok_iff.1 h.complete
  rintro (missing | missing | parsed | illegible | ⟨listed, gives⟩)
  · rw [hmachine] at missing
    cases missing
  · rw [hcompiler] at missing
    cases missing
  · rw [h.parsed] at parsed
    cases parsed
  · obtain ⟨e, herror⟩ := illegible_iff.1 illegible
    rw [h.loaded] at herror
    cases herror
  · obtain ⟨f, herror⟩ := addPackages_eq_error_iff.2 ⟨_, listed, gives⟩
    rw [h.added] at herror
    cases herror

theorem exists_accepted (output : String) (h : ¬ Refused t entry graph packages root) :
    ∃ id g d, Accepted t entry graph packages output root id g d := by
  have hcomplete : Sdk.validate ⟨root⟩ t = .ok () := by
    refine validate_eq_ok_iff.2 ⟨?_, ?_⟩
    · exact Bool.of_not_eq_false fun missing => h (.noMachine missing)
    · exact Bool.of_not_eq_false fun missing => h (.noCompiler missing)
  cases hid : AssetId.parse entry with
  | error fault => exact absurd (.entry hid) h
  | ok id =>
    cases hgraph : ModuleGraph.load t graph with
    | error e => exact absurd (.manifest (illegible_iff.2 ⟨e, hgraph⟩)) h
    | ok g =>
      cases hadd : addPackages ⟨output, .empty⟩ packages with
      | error f =>
        obtain ⟨text, listed, gives⟩ := addPackages_eq_error_iff.1 ⟨f, hadd⟩
        exact absurd (.package listed gives) h
      | ok d => exact ⟨id, g, d, hcomplete, hid, hgraph, hadd⟩

theorem exists_inspect_eq_error (output : String) (h : Refused t entry graph packages root) :
    ∃ f, inspect t entry graph packages output root = .error f := by
  cases hinspect : inspect t entry graph packages output root with
  | error f => exact ⟨f, rfl⟩
  | ok named => exact absurd h (inspect_eq_ok_iff.1 hinspect).not_refused

theorem sourcePath?_of_addPackages (h : addPackages ⟨output, .empty⟩ packages = .ok d) (asset : AssetId)
    (path : String) : d.sourcePath? asset = some path ↔
      ∃ directory, GivenLast packages asset.package directory ∧ path = Path.join directory asset.path := by
  obtain ⟨-, hlookup⟩ := lookup_of_addPackages h
  simp [AssetDirectories.sourcePath?, hlookup, eq_comm]

theorem exitCode_of_accepted
    (reads : read false args =
      .request (.build entry graph packages (some directory) output (some root) flags) verbose)
    (accepted : Accepted t entry graph packages output root id g d) :
    (run env args t).1.exitCode = 0 ↔ ∃ area u outcome v, StagingArea.create directory t = .ok area u ∧
      BuildStep.run ⟨compilerConfig env flags, ⟨root⟩⟩ env.machine.compiler g id area d.reader
        (.directories d) { files := u } = .ok outcome v := by
  rw [run_of_accepted reads accepted]
  cases made : StagingArea.create directory t with
  | error e u =>
    rw [compileIn_of_unmade made]
    simp [finish]
  | ok area u =>
    rw [compileIn_of_made made]
    cases ended : BuildStep.run ⟨compilerConfig env flags, ⟨root⟩⟩ env.machine.compiler g id area d.reader
        (.directories d) { files := u } with
    | ok outcome v =>
      rw [compileAt_of_ended ended]
      exact iff_of_true rfl ⟨area, u, outcome, v, rfl, ended⟩
    | error e v =>
      rw [compileAt_of_failed ended]
      refine iff_of_false (Nat.one_ne_zero) ?_
      rintro ⟨_, _, outcome, v, hmade, hrun⟩
      cases hmade
      rw [ended] at hrun
      cases hrun

theorem refused_build_changes_nothing (env : Environment) (t : FileTree)
    (reads : read false args =
      .request (.build entry graph packages (some directory) output (some root) flags) verbose) :
    (Refused t entry graph packages root →
      (run env args t).1.exitCode = 1 ∧ (run env args t).2 = t) ∧
    (¬ Refused t entry graph packages root → ∃ id g d,
      AssetId.parse entry = .ok id ∧ ModuleGraph.load t graph = .ok g ∧ d.outputDirectory = output ∧
      (∀ asset path, d.sourcePath? asset = some path ↔ ∃ directory,
        GivenLast packages asset.package directory ∧ path = Path.join directory asset.path) ∧
      ((run env args t).1.exitCode = 0 ↔ ∃ area u outcome v, StagingArea.create directory t = .ok area u ∧
        BuildStep.run ⟨compilerConfig env flags, ⟨root⟩⟩ env.machine.compiler g id area d.reader
          (.directories d) { files := u } = .ok outcome v)) := by
  constructor
  · intro refused
    obtain ⟨f, hinspect⟩ := exists_inspect_eq_error output refused
    rw [run_of_refused reads hinspect]
    exact ⟨rfl, rfl⟩
  · intro allowed
    obtain ⟨id, g, d, accepted⟩ := exists_accepted output allowed
    obtain ⟨houtput, -⟩ := lookup_of_addPackages accepted.added
    exact ⟨id, g, d, accepted.parsed, accepted.loaded, houtput,
      sourcePath?_of_addPackages accepted.added, exitCode_of_accepted reads accepted⟩

end CommandLine

namespace Sample

open CommandLine

def producing : Environment where
  searched := ""
  home := "/"
  machine := fun _ t => .ok (⟨some 0, .empty, .empty, 0⟩, t.create ["w.dart.js", "s"] (.file ⟨#[66]⟩) 0o644)

theorem equipped_refused_or_built :
    (run producing ["build", "a|w", "--graph", "/g", "-pa=/p", "-p", "=/q", "--staging-dir", "/r", "-o", "/o",
        "--sdk", "/k"] equipped).1.exitCode = 1 ∧
    (run producing ["build", "a|w", "--graph", "/g", "-pa=/p", "-p", "=/q", "--staging-dir", "/r", "-o", "/o",
        "--sdk", "/k"] equipped).2 = equipped ∧
    ∃ g d area u outcome v, d.sourcePath? ⟨"a", "w"⟩ = some "/p/w" ∧
      StagingArea.create "/s" equipped = .ok area u ∧
      BuildStep.run ⟨compilerConfig producing [], ⟨"/k"⟩⟩ producing.machine.compiler g ⟨"a", "w"⟩ area
        d.reader (.directories d) { files := u } = .ok outcome v := by
  have hrefused : read false ["build", "a|w", "--graph", "/g", "-pa=/p", "-p", "=/q", "--staging-dir", "/r",
      "-o", "/o", "--sdk", "/k"] =
        .request (.build "a|w" "/g" ["a=/p", "=/q"] (some "/r") "/o" (some "/k") []) false := by
    decide +kernel
  have hbuilt : read false ["build", "a|w", "--graph", "/g", "-pa=/q", "-p", "a=/p", "--staging-dir", "/s",
      "-o", "/o", "--sdk", "/k"] =
        .request (.build "a|w" "/g" ["a=/q", "a=/p"] (some "/s") "/o" (some "/k") []) false := by
    decide +kernel
  have hpackage : ∀ name directory, ¬ Gives "=/q" name directory := by
    intro name directory hgives
    have hparse := parsePackage_eq_ok_iff.2 hgives
    cases hparse
  obtain ⟨hexit, htree⟩ := (refused_build_changes_nothing producing equipped hrefused).1
    (.package (List.mem_cons_of_mem _ List.mem_cons_self) hpackage)
  obtain ⟨id, g, d, hid, -, -, hpaths, hended⟩ := (refused_build_changes_nothing producing equipped
    hbuilt).2 accepted_equipped.not_refused
  obtain rfl : id = ⟨"a", "w"⟩ := by
    have hsame := hid.symm.trans accepted_equipped.parsed
    cases hsame
    rfl
  have hlast : GivenLast ["a=/q", "a=/p"] "a" "/p" := by
    refine ⟨["a=/q"], "a=/p", [], rfl, parsePackage_eq_ok_iff.1 rfl, ?_⟩
    simp
  obtain ⟨area, u, outcome, v, hmade, hrun⟩ := hended.1 (by decide +kernel)
  exact ⟨hexit, htree, g, d, area, u, outcome, v, (hpaths _ _).2 ⟨"/p", hlast, by decide⟩, hmade, hrun⟩

end Sample

end DartBundle
