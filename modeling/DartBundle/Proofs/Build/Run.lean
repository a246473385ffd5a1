import DartBundle.Build.Step
import DartBundle.Proofs.Compiler.Invocation
import DartBundle.Proofs.Module.Contents
import DartBundle.Proofs.Staging.Area
/-!
This module contains the stages of a build step, and where it can end. What the compiler does and what
becomes of published assets is left open.
-/

namespace DartBundle

namespace Invocation

variable {compile : Compiler} {i : Invocation} {result : Run} {c : Completion} {t u : FileTree}
  {fault : FileFault}

def completion (i : Invocation) (result : Run) (left : FileTree) : Completion where
  exitCode := result.exitCode
  stdout := Utf8.decodeLenient result.stdout
  stderr := Utf8.decodeLenient result.stderr
  outputExists := left.isFile i.outputFile
  milliseconds := result.milliseconds

theorem outputExists_completion : (i.completion result u).outputExists = u.isFile i.outputFile := rfl

theorem run_of_ok (h : compile i t = .ok (result, u)) : i.run compile t = .ok (i.completion result u) u := by
  unfold run
  rw [h]
  rfl

theorem run_of_error (h : compile i t = .error fault) :
    i.run compile t = .error (.toolchain (.cannotSpawn i.program i.workingDirectory fault)) t := by
  unfold run
  rw [h]

theorem run_ok (h : i.run compile t = .ok c u) :
    ∃ result, compile i t = .ok (result, u) ∧ c = i.completion result u := by
  cases hcompile : compile i t with
  | error fault =>
    rw [run_of_error hcompile] at h
    cases h
  | ok ended =>
    rw [run_of_ok hcompile] at h
    cases h
    exact ⟨ended.1, rfl, rfl⟩

theorem succeeded_completion_iff :
    (i.completion result u).succeeded = true ↔ result.exitCode = some 0 ∧ u.isFile i.outputFile = true := by
  unfold Completion.succeeded
  rw [Bool.and_eq_true, decide_eq_true_eq]
  rfl

theorem succeeded_completion_eq_false_iff :
    (i.completion result u).succeeded = false ↔
      result.exitCode ≠ some 0 ∨ u.isFile i.outputFile = false := by
  rw [← Bool.not_eq_true, succeeded_completion_iff, not_and_or, Bool.not_eq_true]

end Invocation

namespace BuildStep

open FileTree

variable {step : BuildStep} {compile : Compiler} {graph : ModuleGraph} {entry : AssetId}
  {area : StagingArea} {reader : Reader} {write : Writer} {t u : FileTree} {w v : Workspace}
  {closure : Closure} {i : Invocation} {c : Completion} {e : Error} {reason : Unsupported}

def invocation (step : BuildStep) (entry : AssetId) (area : StagingArea) : Invocation :=
  Invocation.build entry (PackageConfig.path entry) area step.config step.sdk

theorem placed (step : BuildStep) (entry : AssetId) (habs : Path.isAbsolute area.root = true) :
    (step.invocation entry area).Placed :=
  Invocation.placed_build _ _ _ _ habs

structure Prepared (step : BuildStep) (entry : AssetId) (area : StagingArea) (reader : Reader)
    (closure : Closure) (t staged configured u : FileTree) : Prop where
  sources : ∃ count, area.stageAll reader closure.sources t = .ok count staged
  config : area.writePackageConfig closure staged = .ok (PackageConfig.path entry) configured
  cleared : (step.invocation entry area).clearStale configured = .ok () u

theorem Prepared.plain {staged configured : FileTree}
    (h : Prepared step entry area reader closure t staged configured u) (plain : t.Plain) :
    staged.Plain ∧ configured.Plain := by
  obtain ⟨count, hsources⟩ := h.sources
  have hstaged := StagingArea.stageAll_confined area reader closure.sources plain
  rw [hsources] at hstaged
  have plainStaged := hstaged.plain plain
  have hwrites := StagingArea.writePackageConfig_ok plainStaged h.config
  exact ⟨plainStaged, hwrites.confined.plain plainStaged⟩

theorem prepare_skipped (h : step.prepare graph entry area reader t = .ok (.skipped reason) u) :
    graph.closure entry = .ok (.unsupported reason) ∧ t = u := by
  unfold prepare at h
  obtain ⟨verdict, t', hclosure, h⟩ := Work.bind_eq_ok_iff.1 h
  obtain ⟨hverdict, rfl⟩ := FileWork.ofExcept_eq_ok_iff.1 hclosure
  cases verdict with
  | unsupported reason' =>
    cases h
    exact ⟨hverdict, rfl⟩
  | resolved closure =>
    obtain ⟨i, u', -, h⟩ := Work.bind_eq_ok_iff.1 h
    cases h

theorem prepare_ready (h : step.prepare graph entry area reader t = .ok (.ready i) u) :
    i = step.invocation entry area ∧ ∃ closure staged configured,
      graph.closure entry = .ok (.resolved closure) ∧
        Prepared step entry area reader closure t staged configured u := by
  unfold prepare at h
  obtain ⟨verdict, t', hclosure, h⟩ := Work.bind_eq_ok_iff.1 h
  obtain ⟨hverdict, rfl⟩ := FileWork.ofExcept_eq_ok_iff.1 hclosure
  cases verdict with
  | unsupported reason => cases h
  | resolved closure =>
    obtain ⟨i', u', hstage, h⟩ := Work.bind_eq_ok_iff.1 h
    cases h
    obtain ⟨count, staged, hsources, h⟩ := Work.bind_eq_ok_iff.1 hstage
    obtain ⟨path, configured, hconfig, h⟩ := Work.bind_eq_ok_iff.1 h
    obtain ⟨_, cleared, hcleared, h⟩ := Work.bind_eq_ok_iff.1 h
    cases h
    have hpath := StagingArea.writePackageConfig_path hconfig
    rw [ModuleGraph.closure_entry hverdict] at hpath hcleared ⊢
    subst hpath
    exact ⟨rfl, closure, staged, configured, hverdict, ⟨count, hsources⟩, hconfig, hcleared⟩

def paths (step : BuildStep) (entry : AssetId) (area : StagingArea) (closure : Closure) :
    List String :=
  closure.sources.map area.pathFor ++ [area.resolve (PackageConfig.path entry),
    (step.invocation entry area).outputFile, (step.invocation entry area).sourceMapFile]

def touched (step : BuildStep) (graph : ModuleGraph) (entry : AssetId) (area : StagingArea) :
    List String :=
  match graph.closure entry with
  | .ok (.resolved closure) => step.paths entry area closure
  | _ => []

theorem stage_confined (step : BuildStep) (reader : Reader) (plain : t.Plain)
    (habs : Path.isAbsolute area.root = true) (hentry : closure.entry = entry) :
    ConfinedTo ((step.paths entry area closure).map t.locate) t
      (Work.left (step.stage closure area reader t)) := by
  subst hentry
  have hall := (StagingArea.stageAll_confined area reader closure.sources plain).mono
    (List.map_subset t.locate
      (show _ ⊆ step.paths closure.entry area closure from List.subset_append_left _ _))
  unfold stage StagingArea.stageClosure
  refine .bind hall fun count staged hsources => ?_
  rw [hsources, Work.left_ok] at hall
  have hpackages := StagingArea.writePackageConfig_confined area closure (hall.plain plain)
  rw [hall.toKeeps.locate] at hpackages
  have hmem : t.locate (area.resolve (PackageConfig.path closure.entry)) ∈
      (step.paths closure.entry area closure).map t.locate :=
    List.mem_map_of_mem (List.mem_append_right _ List.mem_cons_self)
  have hpackages := hpackages.mono_singleton hmem
  refine .bind hpackages fun path configured hconfig => ?_
  rw [hconfig, Work.left_ok] at hpackages
  obtain rfl := StagingArea.writePackageConfig_path hconfig
  have hboth := hall.trans hpackages
  have hclear := Invocation.clearStale_confined (hboth.plain plain) (step.placed closure.entry habs)
  rw [hboth.toKeeps.locate, hboth.toKeeps.locate] at hclear
  have hends : [(step.invocation closure.entry area).outputFile,
      (step.invocation closure.entry area).sourceMapFile] ⊆ step.paths closure.entry area closure :=
    List.Subset.trans (List.subset_cons_self _ _) (List.subset_append_right _ _)
  exact .bind (hclear.mono (List.map_subset t.locate hends)) fun _ _ _ => .refl _ _

theorem prepare_confined (plain : t.Plain) (habs : Path.isAbsolute area.root = true) :
    ConfinedTo ((step.touched graph entry area).map t.locate) t
      (Work.left (step.prepare graph entry area reader t)) := by
  unfold prepare touched
  cases hclosure : graph.closure entry with
  | error e => exact .refl _ _
  | ok verdict =>
    cases verdict with
    | unsupported reason => exact .refl _ _
    | resolved closure =>
      have hstage := step.stage_confined reader plain habs (ModuleGraph.closure_entry hclosure)
      rw [Work.bind_of_ok (FileWork.ofExcept_eq_ok_iff.2 ⟨rfl, rfl⟩)]
      exact .bind hstage fun _ _ _ => .refl _ _

end BuildStep

namespace StagingArea

variable {area : StagingArea} {write : Writer} {w v : Workspace} {i : Invocation} {id : AssetId}
  {artifacts : Artifacts} {e : Error}

theorem copyOutput_ok (h : area.copyOutput id write w = .ok () v) :
    ∃ content, w.files.read (area.pathFor id) = .ok content ∧ write id content w = .ok () v := by
  obtain ⟨content, w', hasked, hwrite⟩ := Work.bind_eq_ok_iff.1 h
  obtain ⟨t, hdisk, rfl⟩ := Build.onFiles_eq_ok_iff.1 hasked
  obtain ⟨hread, rfl⟩ := Disk.ask_eq_ok_iff.1 (FileWork.ofDisk_eq_ok_iff.1 hdisk)
  exact ⟨content, hread, hwrite⟩

theorem copyOutput_error (h : area.copyOutput id write w = .error e v) :
    (∃ fault, w.files.read (area.pathFor id) = .error fault ∧ w = v) ∨
      ∃ content, w.files.read (area.pathFor id) = .ok content ∧ write id content w = .error e v := by
  rcases Work.bind_eq_error_iff.1 h with hasked | ⟨content, w', hasked, hwrite⟩
  · obtain ⟨t, hdisk, rfl⟩ := Build.onFiles_eq_error_iff.1 hasked
    obtain ⟨fault, -, hfault⟩ := FileWork.ofDisk_eq_error_iff.1 hdisk
    obtain ⟨hread, rfl⟩ := Disk.ask_eq_error_iff.1 hfault
    exact .inl ⟨fault, hread, rfl⟩
  · obtain ⟨t, hdisk, rfl⟩ := Build.onFiles_eq_ok_iff.1 hasked
    obtain ⟨hread, rfl⟩ := Disk.ask_eq_ok_iff.1 (FileWork.ofDisk_eq_ok_iff.1 hdisk)
    exact .inr ⟨content, hread, hwrite⟩

theorem publish_ok (h : area.publish i write w = .ok artifacts v) :
    artifacts.bundle = i.bundle ∧ ∃ published, area.copyOutput i.bundle write w = .ok () published ∧
      (published.files.isFile (area.pathFor i.sourceMap) = true ∧
          artifacts.sourceMap = some i.sourceMap ∧
            area.copyOutput i.sourceMap write published = .ok () v ∨
        published.files.isFile (area.pathFor i.sourceMap) = false ∧
          artifacts.sourceMap = none ∧ published = v) := by
  unfold publish at h
  obtain ⟨_, published, hbundle, h⟩ := Work.bind_eq_ok_iff.1 h
  obtain ⟨mapped, v', hmap, h⟩ := Work.bind_eq_ok_iff.1 h
  cases h
  refine ⟨rfl, published, hbundle, ?_⟩
  unfold copyOutputIfPresent at hmap
  rw [Work.get_bind] at hmap
  cases hfile : published.files.isFile (area.pathFor i.sourceMap) with
  | true =>
    rw [hfile] at hmap
    obtain ⟨_, v', hcopy, hmap⟩ := Work.bind_eq_ok_iff.1 hmap
    cases hmap
    exact .inl ⟨rfl, rfl, hcopy⟩
  | false =>
    rw [hfile] at hmap
    cases hmap
    exact .inr ⟨rfl, rfl, rfl⟩

theorem publish_error (h : area.publish i write w = .error e v) :
    area.copyOutput i.bundle write w = .error e v ∨
      ∃ published, area.copyOutput i.bundle write w = .ok () published ∧
        published.files.isFile (area.pathFor i.sourceMap) = true ∧
          area.copyOutput i.sourceMap write published = .error e v := by
  unfold publish at h
  rcases Work.bind_eq_error_iff.1 h with hbundle | ⟨_, published, hbundle, h⟩
  · exact .inl hbundle
  rcases Work.bind_eq_error_iff.1 h with hmap | ⟨_, _, _, h⟩
  · refine .inr ⟨published, hbundle, ?_⟩
    unfold copyOutputIfPresent at hmap
    rw [Work.get_bind] at hmap
    cases hfile : published.files.isFile (area.pathFor i.sourceMap) with
    | true =>
      rw [hfile] at hmap
      rcases Work.bind_eq_error_iff.1 hmap with hcopy | ⟨_, _, _, hmap⟩
      · exact ⟨rfl, hcopy⟩
      · cases hmap
    | false =>
      rw [hfile] at hmap
      cases hmap
  · cases h

end StagingArea

namespace BuildStep

variable {step : BuildStep} {compile : Compiler} {graph : ModuleGraph} {entry : AssetId}
  {area : StagingArea} {reader : Reader} {write : Writer} {spawned left u : FileTree} {w v : Workspace}
  {log : List Event} {i : Invocation} {c : Completion} {artifacts : Artifacts} {e : Error}
  {reason : Unsupported}

def printed (c : Completion) : List Event :=
  if Text.isAllBlank c.stdout then [] else [.printed (Text.trimEnd c.stdout)]

def failure (entry : AssetId) (c : Completion) : CompilerFailure :=
  ⟨entry, c.exitCode, !c.outputExists, c.stdout, c.stderr⟩

theorem judge_of_succeeded (h : c.succeeded = true) :
    judge entry c w = .ok () { w with log := w.log ++ printed c } := by
  unfold judge printed
  rw [h]
  cases hblank : Text.isAllBlank c.stdout with
  | true =>
    rw [if_pos rfl, if_pos rfl, List.append_nil]
    rfl
  | false => rfl

theorem judge_of_failed (h : c.succeeded = false) : judge entry c w =
    .error (.compiler (failure entry c)) { w with log := w.log ++ [.failed entry c] } := by
  unfold judge
  rw [h]
  rfl

/--
Whether a step has got as far as to a complete bundle: the compiler was started on one tree, has ended
with code zero and left a bundle in another one, and the preamble was put in front of it.
-/
structure Compiled (step : BuildStep) (compile : Compiler) (graph : ModuleGraph) (entry : AssetId)
    (area : StagingArea) (reader : Reader) (i : Invocation) (result : Run)
    (t spawned left processed : FileTree) : Prop where
  prepared : step.prepare graph entry area reader t = .ok (.ready i) spawned
  ended : compile i spawned = .ok (result, left)
  exited : result.exitCode = some 0
  found : left.isFile i.outputFile = true
  injected : injectPreamble i.outputFile step.config.preamble left = .ok () processed

inductive Stopped (step : BuildStep) (compile : Compiler) (graph : ModuleGraph) (entry : AssetId)
    (area : StagingArea) (reader : Reader) (t : FileTree) : FileTree → Prop
  | preparing {e : Error} {u : FileTree} :
    step.prepare graph entry area reader t = .error e u →
      Stopped step compile graph entry area reader t u
  | starting {i : Invocation} {spawned : FileTree} {fault : FileFault} :
    step.prepare graph entry area reader t = .ok (.ready i) spawned →
      compile i spawned = .error fault → Stopped step compile graph entry area reader t spawned
  | compiling {i : Invocation} {result : Run} {spawned left : FileTree} :
    step.prepare graph entry area reader t = .ok (.ready i) spawned →
      compile i spawned = .ok (result, left) →
        result.exitCode ≠ some 0 ∨ left.isFile i.outputFile = false →
          Stopped step compile graph entry area reader t left
  | injecting {i : Invocation} {result : Run} {spawned left : FileTree} {e : Error} {u : FileTree} :
    step.prepare graph entry area reader t = .ok (.ready i) spawned →
      compile i spawned = .ok (result, left) → result.exitCode = some 0 →
        left.isFile i.outputFile = true →
          injectPreamble i.outputFile step.config.preamble left = .error e u →
            Stopped step compile graph entry area reader t u

inductive Ends (step : BuildStep) (compile : Compiler) (graph : ModuleGraph) (entry : AssetId)
    (area : StagingArea) (reader : Reader) (write : Writer) (w : Workspace) :
    EStateM.Result Error Workspace Outcome → Prop
  | skipped {reason : Unsupported} (verdict : graph.closure entry = .ok (.unsupported reason)) :
    Ends step compile graph entry area reader write w
      (.ok (.skipped reason) { w with log := w.log ++ [.skipped reason] })
  | unprepared {e : Error} {u : FileTree}
    (prepared : step.prepare graph entry area reader w.files = .error e u) :
    Ends step compile graph entry area reader write w (.error e { w with files := u })
  | unspawned {i : Invocation} {spawned : FileTree} {fault : FileFault}
    (prepared : step.prepare graph entry area reader w.files = .ok (.ready i) spawned)
    (ended : compile i spawned = .error fault) :
    Ends step compile graph entry area reader write w
      (.error (.toolchain (.cannotSpawn i.program i.workingDirectory fault))
        { w with files := spawned, log := w.log ++ [.starting i] })
  | failed {i : Invocation} {result : Run} {spawned left : FileTree}
    (prepared : step.prepare graph entry area reader w.files = .ok (.ready i) spawned)
    (ended : compile i spawned = .ok (result, left))
    (missed : result.exitCode ≠ some 0 ∨ left.isFile i.outputFile = false) :
    Ends step compile graph entry area reader write w
      (.error (.compiler (failure entry (i.completion result left)))
        { w with
          files := left
          log := w.log ++ [.starting i] ++ [.failed entry (i.completion result left)] })
  | unfinished {i : Invocation} {result : Run} {spawned left : FileTree} {e : Error} {u : FileTree}
    (prepared : step.prepare graph entry area reader w.files = .ok (.ready i) spawned)
    (ended : compile i spawned = .ok (result, left)) (exited : result.exitCode = some 0)
    (found : left.isFile i.outputFile = true)
    (injected : injectPreamble i.outputFile step.config.preamble left = .error e u) :
    Ends step compile graph entry area reader write w
      (.error e
        { w with files := u, log := w.log ++ [.starting i] ++ printed (i.completion result left) })
  | unpublished {i : Invocation} {result : Run} {spawned left processed : FileTree} {e : Error}
    {v : Workspace}
    (compiled : Compiled step compile graph entry area reader i result w.files spawned left processed)
    (published : area.publish i write
      { w with
        files := processed
        log := w.log ++ [.starting i] ++ printed (i.completion result left) } = .error e v) :
    Ends step compile graph entry area reader write w (.error e v)
  | built {i : Invocation} {result : Run} {spawned left processed : FileTree} {artifacts : Artifacts}
    {v : Workspace}
    (compiled : Compiled step compile graph entry area reader i result w.files spawned left processed)
    (published : area.publish i write
      { w with
        files := processed
        log := w.log ++ [.starting i] ++ printed (i.completion result left) } = .ok artifacts v) :
    Ends step compile graph entry area reader write w (.ok (.built artifacts)
      { v with log := v.log ++ [.compiled entry artifacts.bundle result.milliseconds] })

def conclude (step : BuildStep) (entry : AssetId) (area : StagingArea) (write : Writer) (i : Invocation)
    (c : Completion) : Build Outcome := do
  judge entry c
  Build.onFiles (injectPreamble i.outputFile step.config.preamble)
  let artifacts ← area.publish i write
  Build.log (.compiled entry artifacts.bundle c.milliseconds)
  return .built artifacts

theorem run_of_prepare_error (h : step.prepare graph entry area reader w.files = .error e u) :
    step.run compile graph entry area reader write w = .error e { w with files := u } :=
  Work.bind_of_error (Build.onFiles_of_error h rfl)

theorem run_of_skipped (h : graph.closure entry = .ok (.unsupported reason)) :
    step.run compile graph entry area reader write w =
      .ok (.skipped reason) { w with log := w.log ++ [.skipped reason] } := by
  have hprepare : step.prepare graph entry area reader w.files = .ok (.skipped reason) w.files :=
    Work.bind_of_ok (FileWork.ofExcept_eq_ok_iff.2 ⟨h, rfl⟩)
  exact Work.bind_of_ok (Build.onFiles_of_ok hprepare rfl)

theorem run_of_ready (h : step.prepare graph entry area reader w.files = .ok (.ready i) spawned) :
    step.run compile graph entry area reader write w =
      (Build.onFiles (i.run compile) >>= step.conclude entry area write i)
        { w with files := spawned, log := w.log ++ [.starting i] } := by
  unfold run
  rw [Work.bind_of_ok (Build.onFiles_of_ok h rfl)]
  exact Work.bind_of_ok (Build.log_run _)

theorem conclude_of_failed (h : c.succeeded = false) : step.conclude entry area write i c w =
    .error (.compiler (failure entry c)) { w with log := w.log ++ [.failed entry c] } :=
  Work.bind_of_error (judge_of_failed h)

theorem conclude_of_not_injected (h : c.succeeded = true)
    (injected : injectPreamble i.outputFile step.config.preamble left = .error e u) :
    step.conclude entry area write i c { w with files := left, log } =
      .error e { w with files := u, log := log ++ printed c } := by
  unfold conclude
  rw [Work.bind_of_ok (judge_of_succeeded h)]
  exact Work.bind_of_error (Build.onFiles_of_error injected rfl)

theorem conclude_of_injected (h : c.succeeded = true)
    (injected : injectPreamble i.outputFile step.config.preamble left = .ok () u) :
    step.conclude entry area write i c { w with files := left, log } =
      (area.publish i write >>= fun artifacts => do
        Build.log (.compiled entry artifacts.bundle c.milliseconds)
        return .built artifacts) { w with files := u, log := log ++ printed c } := by
  unfold conclude
  rw [Work.bind_of_ok (judge_of_succeeded h)]
  exact Work.bind_of_ok (Build.onFiles_of_ok injected rfl)

theorem run_ends (step : BuildStep) (compile : Compiler) (graph : ModuleGraph) (entry : AssetId)
    (area : StagingArea) (reader : Reader) (write : Writer) (w : Workspace) :
    Ends step compile graph entry area reader write w
      (step.run compile graph entry area reader write w) := by
  cases hprepare : step.prepare graph entry area reader w.files with
  | error e u =>
    rw [run_of_prepare_error hprepare]
    exact .unprepared hprepare
  | ok preparation spawned =>
    cases preparation with
    | skipped reason =>
      obtain ⟨hclosure, -⟩ := prepare_skipped hprepare
      rw [run_of_skipped hclosure]
      exact .skipped hclosure
    | ready i =>
      rw [run_of_ready hprepare]
      cases hended : compile i spawned with
      | error fault =>
        rw [Work.bind_of_error (Build.onFiles_of_error (Invocation.run_of_error hended) rfl)]
        exact .unspawned hprepare hended
      | ok ended =>
        obtain ⟨result, left⟩ := ended
        rw [Work.bind_of_ok (Build.onFiles_of_ok (Invocation.run_of_ok hended) rfl)]
        cases hsucceeded : (i.completion result left).succeeded with
        | false =>
          rw [conclude_of_failed hsucceeded]
          exact .failed hprepare hended (Invocation.succeeded_completion_eq_false_iff.1 hsucceeded)
        | true =>
          obtain ⟨hexited, hfound⟩ := Invocation.succeeded_completion_iff.1 hsucceeded
          cases hinject : injectPreamble i.outputFile step.config.preamble left with
          | error e u =>
            rw [conclude_of_not_injected hsucceeded hinject]
            exact .unfinished hprepare hended hexited hfound hinject
          | ok _ processed =>
            rw [conclude_of_injected hsucceeded hinject]
            have hcompiled : Compiled step compile graph entry area reader i result w.files spawned
                left processed := ⟨hprepare, hended, hexited, hfound, hinject⟩
            cases hpublish : area.publish i write
                { w with
                  files := processed
                  log := w.log ++ [.starting i] ++ printed (i.completion result left) } with
            | error e v =>
              rw [Work.bind_of_error hpublish]
              exact .unpublished hcompiled hpublish
            | ok artifacts v =>
              rw [Work.bind_of_ok hpublish]
              exact .built hcompiled hpublish

theorem run_skipped
    (h : step.run compile graph entry area reader write w = .ok (.skipped reason) v) :
    graph.closure entry = .ok (.unsupported reason) ∧ v.files = w.files ∧ v.outputs = w.outputs := by
  have ends := run_ends step compile graph entry area reader write w
  rw [h] at ends
  cases ends with
  | skipped verdict => exact ⟨verdict, rfl, rfl⟩

theorem run_built
    (h : step.run compile graph entry area reader write w = .ok (.built artifacts) v) :
    ∃ i result spawned left processed published,
      Compiled step compile graph entry area reader i result w.files spawned left processed ∧
        area.publish i write
            { w with
              files := processed
              log := w.log ++ [.starting i] ++ printed (i.completion result left) } =
          .ok artifacts published ∧
        v = { published with
          log := published.log ++ [.compiled entry artifacts.bundle result.milliseconds] } := by
  have ends := run_ends step compile graph entry area reader write w
  rw [h] at ends
  cases ends with
  | built compiled published => exact ⟨_, _, _, _, _, _, compiled, published, rfl⟩

theorem run_error (h : step.run compile graph entry area reader write w = .error e v) :
    (∃ u log, Stopped step compile graph entry area reader w.files u ∧
        v = { w with files := u, log }) ∨
      ∃ i result spawned left processed log,
        Compiled step compile graph entry area reader i result w.files spawned left processed ∧
          area.publish i write { w with files := processed, log } = .error e v := by
  have ends := run_ends step compile graph entry area reader write w
  rw [h] at ends
  cases ends with
  | unprepared prepared => exact .inl ⟨_, _, .preparing prepared, rfl⟩
  | unspawned prepared ended => exact .inl ⟨_, _, .starting prepared ended, rfl⟩
  | failed prepared ended missed => exact .inl ⟨_, _, .compiling prepared ended missed, rfl⟩
  | unfinished prepared ended exited found injected =>
    exact .inl ⟨_, _, .injecting prepared ended exited found injected, rfl⟩
  | unpublished compiled published => exact .inr ⟨_, _, _, _, _, _, compiled, published⟩

end BuildStep

end DartBundle
