import DartBundle.CommandLine.Run
import DartBundle.Proofs.Build.Publication
/-!
This module contains how a build command goes that names its staging directory and its SDK. What the command
line names is looked at first, and this only reads; the staging directory comes next, and the build step last.
-/

namespace DartBundle

namespace CommandLine

variable {env : Environment} {args : List String} {entry graph : String} {packages : List String}
  {directory output root : String} {flags : List String} {verbose : Bool} {t u : FileTree}
  {w v : Workspace} {id : AssetId} {g : ModuleGraph} {d : AssetDirectories} {area : StagingArea}
  {step : BuildStep} {compile : Compiler} {outcome : Outcome} {f : Failure} {e : Error}

def inspect (t : FileTree) (entry graph : String) (packages : List String) (output root : String) :
    Except Failure (AssetId × ModuleGraph × AssetDirectories) := do
  let _ ← (Sdk.validate ⟨root⟩ t).mapError fun e => (Failure.ofError e).because "Invalid Dart SDK"
  let id ← (AssetId.parse entry).mapError fun fault => Failure.ofError (.invalidAssetId fault)
  let g ← (ModuleGraph.load t graph).mapError fun e =>
    (Failure.ofError e).because ("Failed to load module graph " ++ graph)
  let d ← addPackages ⟨output, .empty⟩ packages
  return (id, g, d)

structure Accepted (t : FileTree) (entry graph : String) (packages : List String) (output root : String)
    (id : AssetId) (g : ModuleGraph) (d : AssetDirectories) : Prop where
  complete : Sdk.validate ⟨root⟩ t = .ok ()
  parsed : AssetId.parse entry = .ok id
  loaded : ModuleGraph.load t graph = .ok g
  added : addPackages ⟨output, .empty⟩ packages = .ok d

theorem bind_mapError_eq_ok_iff {ε α β : Type} {x : Except ε α} {put : ε → Failure}
    {next : α → Except Failure β} {b : β} :
    (x.mapError put >>= next) = .ok b ↔ ∃ a, x = .ok a ∧ next a = .ok b := by
  cases x with
  | error e =>
    constructor
    · nofun
    · rintro ⟨a, h, -⟩
      cases h
  | ok a =>
    constructor
    · intro h
      exact ⟨a, rfl, h⟩
    · rintro ⟨_, h, hnext⟩
      cases h
      exact hnext

theorem inspect_eq_ok_iff : inspect t entry graph packages output root = .ok (id, g, d) ↔
    Accepted t entry graph packages output root id g d := by
  unfold inspect
  constructor
  · intro h
    obtain ⟨_, hsdk, h⟩ := bind_mapError_eq_ok_iff.1 h
    obtain ⟨_, hid, h⟩ := bind_mapError_eq_ok_iff.1 h
    obtain ⟨_, hgraph, h⟩ := bind_mapError_eq_ok_iff.1 h
    cases hadd : addPackages ⟨output, .empty⟩ packages with
    | error f =>
      rw [hadd] at h
      cases h
    | ok d =>
      rw [hadd] at h
      cases h
      exact ⟨hsdk, hid, hgraph, hadd⟩
  · rintro ⟨hsdk, hid, hgraph, hadd⟩
    rw [hsdk, hid, hgraph, hadd]
    rfl

def compileAt (step : BuildStep) (compile : Compiler) (id : AssetId) (g : ModuleGraph)
    (d : AssetDirectories) (area : StagingArea) : Action String := do
  let outcome ← Action.because ("Failed to compile " ++ id.display) <|
    Action.ofBuild (step.run compile g id area d.reader (.directories d))
  return describe id d (elapsed (← get).log) outcome

def compileIn (step : BuildStep) (compile : Compiler) (directory : String) (id : AssetId) (g : ModuleGraph)
    (d : AssetDirectories) : Action String := do
  compileAt step compile id g d (← Action.ofBuild (Build.onFiles (StagingArea.create directory)))

theorem because_ofExcept {α : Type} (context : String) (result : Except Error α) (w : Workspace) :
    Action.because context (Action.ofExcept result) w =
      match result with
      | .ok a => .ok a w
      | .error e => .error ((Failure.ofError e).because context) w := by
  cases result <;> rfl

theorem chooseSdk_run : chooseSdk env (some root) w =
    match Sdk.validate ⟨root⟩ w.files with
    | .ok _ => .ok ⟨root⟩ w
    | .error e => .error ((Failure.ofError e).because "Invalid Dart SDK") w := by
  change Action.because "Invalid Dart SDK" (Action.ofExcept (Sdk.checked root w.files)) w = _
  rw [because_ofExcept]
  unfold Sdk.checked
  cases Sdk.validate ⟨root⟩ w.files <;> rfl

theorem parseEntry_run : parseEntry entry w =
    match AssetId.parse entry with
    | .ok id => .ok id w
    | .error fault => .error (.ofError (.invalidAssetId fault)) w := by
  unfold parseEntry
  cases AssetId.parse entry <;> rfl

theorem loadGraph_run : loadGraph graph w =
    match ModuleGraph.load w.files graph with
    | .ok g => .ok g w
    | .error e => .error ((Failure.ofError e).because ("Failed to load module graph " ++ graph)) w := by
  unfold loadGraph
  rw [Work.get_bind, because_ofExcept]
  cases ModuleGraph.load w.files graph <;> rfl

theorem runBuild_run :
    runBuild env entry graph packages (some directory) output (some root) flags w =
      match inspect w.files entry graph packages output root with
      | .ok (id, g, d) =>
        compileIn ⟨compilerConfig env flags, ⟨root⟩⟩ env.machine.compiler directory id g d w
      | .error f => .error f w := by
  unfold runBuild inspect
  -- the cases follow the looks in their order: what is wrong first ends both sides alike
  cases hsdk : Sdk.validate ⟨root⟩ w.files with
  | error e => exact Work.bind_of_error (by rw [chooseSdk_run, hsdk])
  | ok _ =>
    rw [Work.bind_of_ok (show chooseSdk env (some root) w = .ok ⟨root⟩ w by rw [chooseSdk_run, hsdk])]
    cases hid : AssetId.parse entry with
    | error fault => exact Work.bind_of_error (by rw [parseEntry_run, hid])
    | ok id =>
      rw [Work.bind_of_ok (show parseEntry entry w = .ok id w by rw [parseEntry_run, hid])]
      cases hgraph : ModuleGraph.load w.files graph with
      | error e => exact Work.bind_of_error (by rw [loadGraph_run, hgraph])
      | ok g =>
        rw [Work.bind_of_ok (show loadGraph graph w = .ok g w by rw [loadGraph_run, hgraph])]
        cases addPackages ⟨output, .empty⟩ packages with
        | error f => rfl
        | ok d =>
          change (withStaging env (some directory) _ >>= _) w = _
          exact Work.bind_bind

theorem compileAt_of_ended
    (ended : step.run compile g id area d.reader (.directories d) w = .ok outcome v) :
    compileAt step compile id g d area w = .ok (describe id d (elapsed v.log) outcome) v := by
  refine (Work.bind_of_ok (a := outcome) (u := v) ?_).trans rfl
  simp only [Action.because, Action.ofBuild, ended]

theorem compileAt_of_failed
    (failed : step.run compile g id area d.reader (.directories d) w = .error e v) :
    compileAt step compile id g d area w =
      .error ((Failure.ofError e).because ("Failed to compile " ++ id.display)) v := by
  apply Work.bind_of_error
  simp only [Action.because, Action.ofBuild, failed]

theorem compileAt_congr {other : Compiler}
    (h : step.run other g id area d.reader (.directories d) w =
      step.run compile g id area d.reader (.directories d) w) :
    compileAt step other id g d area w = compileAt step compile id g d area w := by
  cases hrun : step.run compile g id area d.reader (.directories d) w with
  | ok outcome v => rw [compileAt_of_ended hrun, compileAt_of_ended (h.trans hrun)]
  | error e v => rw [compileAt_of_failed hrun, compileAt_of_failed (h.trans hrun)]

theorem makeArea_of_made (made : StagingArea.create directory w.files = .ok area u) :
    Action.ofBuild (Build.onFiles (StagingArea.create directory)) w = .ok area { w with files := u } := by
  unfold Action.ofBuild
  rw [Build.onFiles_of_ok made rfl]

theorem compileIn_of_made (made : StagingArea.create directory w.files = .ok area u) :
    compileIn step compile directory id g d w =
      compileAt step compile id g d area { w with files := u } :=
  Work.bind_of_ok (makeArea_of_made made)

theorem compileIn_of_unmade (unmade : StagingArea.create directory w.files = .error e u) :
    compileIn step compile directory id g d w = .error (.ofError e) { w with files := u } := by
  apply Work.bind_of_error
  unfold Action.ofBuild
  rw [Build.onFiles_of_error unmade rfl]

def finish (verbose : Bool) : EStateM.Result Failure Workspace String → Finish × FileTree
  | .ok stdout w => ({ exitCode := 0, stdout, stderr := renderLog verbose w.log }, w.files)
  | .error f w => ({ exitCode := 1, stderr := renderLog verbose w.log ++ f.report }, w.files)

theorem run_request {request : Request} (reads : read false args = .request request verbose) :
    run env args t = finish verbose (request.run env { files := t }) := by
  simp only [run, reads]
  cases request.run env { files := t } <;> rfl

section

variable (reads : read false args =
  .request (.build entry graph packages (some directory) output (some root) flags) verbose)

include reads

theorem run_of_refused (refused : inspect t entry graph packages output root = .error f) :
    run env args t = ({ exitCode := 1, stderr := f.report }, t) := by
  have hbuild : runBuild env entry graph packages (some directory) output (some root) flags
      { files := t } = .error f { files := t } := by
    rw [runBuild_run, refused]
  rw [run_request reads, Request.run, hbuild]
  rfl

theorem run_of_accepted (accepted : Accepted t entry graph packages output root id g d) :
    run env args t = finish verbose (compileIn ⟨compilerConfig env flags, ⟨root⟩⟩ env.machine.compiler
      directory id g d { files := t }) := by
  rw [run_request reads, Request.run, runBuild_run, inspect_eq_ok_iff.2 accepted]

end

end CommandLine

namespace Sample

def equipped : FileTree :=
  let t := [["s"], ["p"], ["k"], ["bin", "k"], ["snapshots", "bin", "k"]].foldl
    (fun t l => t.create l .directory 0o755) FileTree.empty
  let t := t.create ["dart", "bin", "k"] (.file .empty) 0o755
  let t := t.create ["dart2js.dart.snapshot", "snapshots", "bin", "k"] (.file .empty) 0o644
  let t := t.create ["w", "p"] (.file .empty) 0o644
  t.create ["g"] (.file "[[[\"a|w\"]]]".toUTF8) 0o644

theorem load_equipped : ModuleGraph.load equipped "/g" = .ok graph := by
  have hmodules : (ModuleGraph.load equipped "/g").toOption.map (·.modules) = some graph.modules := by
    decide +kernel
  cases hload : ModuleGraph.load equipped "/g" with
  | error e =>
    rw [hload] at hmodules
    cases hmodules
  | ok g =>
    rw [hload] at hmodules
    cases g
    cases hmodules
    rfl

theorem accepted_equipped : CommandLine.Accepted equipped "a|w" "/g" ["a=/q", "a=/p"] "/o" "/k" ⟨"a", "w"⟩
    graph ((AssetDirectories.addPackage ⟨"/o", .empty⟩ "a" "/q").addPackage "a" "/p") :=
  ⟨eq_ok_of_toOption (by decide +kernel), eq_ok_of_toOption (by decide +kernel), load_equipped, rfl⟩

end Sample

end DartBundle
