import DartBundle.Proofs.Build.Publication
import DartBundle.Proofs.Build.Silence
/-!
This module contains when a step raises an alarm. It warns if it leaves an entry point out, it logs an
error if the compiler has failed, each once, and it does neither otherwise. What the compiler is started on
has been staged source by source.
-/

namespace DartBundle

namespace StagingArea

inductive Stages (area : StagingArea) (reader : Reader) : List AssetId → FileTree → FileTree → Prop
  | nil {t : FileTree} : Stages area reader [] t t
  | unchanged {id : AssetId} {rest : List AssetId} {content : ByteArray} {t u : FileTree}
    (valid : id.validate = .ok ()) (read : reader t id = .ok content)
    (staged : t.read (area.pathFor id) = .ok content) :
    Stages area reader rest t u → Stages area reader (id :: rest) t u
  | written {id : AssetId} {rest : List AssetId} {content : ByteArray} {t v u : FileTree}
    (valid : id.validate = .ok ()) (read : reader t id = .ok content)
    (replaced : Disk.replaceFile (area.pathFor id) content t = .ok () v) :
    Stages area reader rest v u → Stages area reader (id :: rest) t u

variable {area : StagingArea} {reader : Reader} {ids : List AssetId} {t u : FileTree} {count : Nat}

theorem stages_of_stageAll (h : area.stageAll reader ids t = .ok count u) :
    area.Stages reader ids t u := by
  induction ids generalizing t count with
  | nil =>
    cases h
    exact .nil
  | cons id rest ih =>
    unfold stageAll at h
    obtain ⟨written, v, hstage, h⟩ := Work.bind_eq_ok_iff.1 h
    obtain ⟨others, u', hrest, h⟩ := Work.bind_eq_ok_iff.1 h
    cases h
    obtain ⟨hvalid, content, hread, ⟨-, hstaged, rfl⟩ | ⟨-, -, hreplace⟩⟩ :=
      stage_eq_ok_iff.1 (FileWork.whileStaging_eq_ok_iff.1 hstage)
    · exact .unchanged hvalid hread hstaged (ih hrest)
    · exact .written hvalid hread hreplace (ih hrest)

end StagingArea

namespace Event

def isAlarm (event : Event) : Bool :=
  event.level = .warning || event.level = .error

end Event

namespace BuildStep

variable {step : BuildStep} {compile : Compiler} {graph : ModuleGraph} {entry : AssetId}
  {area : StagingArea} {reader : Reader} {write : Writer} {t u spawned : FileTree} {w v : Workspace}
  {i : Invocation} {reason : Unsupported}

theorem prepare_stages (h : step.prepare graph entry area reader t = .ok (.ready i) spawned) :
    i = step.invocation entry area ∧ ∃ closure staged configured,
      graph.closure entry = .ok (.resolved closure) ∧ entry ∈ closure.sources ∧
        area.Stages reader closure.sources t staged ∧
          area.writePackageConfig closure staged = .ok (PackageConfig.path entry) configured ∧
            i.clearStale configured = .ok () spawned := by
  obtain ⟨rfl, closure, staged, configured, hclosure, hprepared⟩ := prepare_ready h
  obtain ⟨count, hsources⟩ := hprepared.sources
  exact ⟨rfl, closure, staged, configured, hclosure, ModuleGraph.entry_mem_sources hclosure,
    StagingArea.stages_of_stageAll hsources, hprepared.config, hprepared.cleared⟩

theorem run_congr {other : Compiler}
    (h : ∀ i spawned, step.prepare graph entry area reader w.files = .ok (.ready i) spawned →
      other i spawned = compile i spawned) :
    step.run other graph entry area reader write w = step.run compile graph entry area reader write w := by
  cases hprepare : step.prepare graph entry area reader w.files with
  | error e u => rw [run_of_prepare_error hprepare, run_of_prepare_error hprepare]
  | ok preparation spawned =>
    cases preparation with
    | skipped reason =>
      obtain ⟨hclosure, -⟩ := prepare_skipped hprepare
      rw [run_of_skipped hclosure, run_of_skipped hclosure]
    | ready i =>
      have hsame : i.run other spawned = i.run compile spawned := by
        unfold Invocation.run
        rw [h i spawned hprepare]
      rw [run_of_ready hprepare, run_of_ready hprepare]
      apply Work.bind_congr
      unfold Build.onFiles
      rw [hsame]

theorem run_skipped_iff : step.run compile graph entry area reader write w = .ok (.skipped reason) v ↔
    graph.closure entry = .ok (.unsupported reason) ∧ v = { w with log := w.log ++ [.skipped reason] } := by
  constructor
  · intro h
    have ends := run_ends step compile graph entry area reader write w
    rw [h] at ends
    cases ends with
    | skipped verdict => exact ⟨verdict, rfl⟩
  · rintro ⟨verdict, rfl⟩
    exact run_of_skipped verdict

theorem run_of_failed {result : Run} {left : FileTree}
    (prepared : step.prepare graph entry area reader w.files = .ok (.ready i) spawned)
    (ended : compile i spawned = .ok (result, left))
    (missed : result.exitCode ≠ some 0 ∨ left.isFile i.outputFile = false) :
    step.run compile graph entry area reader write w =
      .error (.compiler (failure entry (i.completion result left)))
        { w with
          files := left
          log := w.log ++ [.starting i] ++ [.failed entry (i.completion result left)] } := by
  rw [run_of_ready prepared, Work.bind_of_ok (Build.onFiles_of_ok (Invocation.run_of_ok ended) rfl)]
  exact conclude_of_failed (Invocation.succeeded_completion_eq_false_iff.2 missed)

theorem run_of_unpublished {result : Run} {e : Error} {left processed : FileTree}
    (compiled : Compiled step compile graph entry area reader i result w.files spawned left processed)
    (published : area.publish i write
      { w with
        files := processed
        log := w.log ++ [.starting i] ++ printed (i.completion result left) } = .error e v) :
    step.run compile graph entry area reader write w = .error e v := by
  have hsucceeded := Invocation.succeeded_completion_iff.2 ⟨compiled.exited, compiled.found⟩
  rw [run_of_ready compiled.prepared,
    Work.bind_of_ok (Build.onFiles_of_ok (Invocation.run_of_ok compiled.ended) rfl),
    conclude_of_injected hsucceeded compiled.injected]
  exact Work.bind_of_error published

/--
Whether the compiler was started and is to blame: it has not ended with code zero, or it has left no bundle.
It is known how the step then fails, and what it leaves behind.
-/
inductive Blames (step : BuildStep) (compile : Compiler) (graph : ModuleGraph) (entry : AssetId)
    (area : StagingArea) (reader : Reader) (w : Workspace) : CompilerFailure → Workspace → Prop
  | intro {i : Invocation} {result : Run} {spawned left : FileTree}
    (prepared : step.prepare graph entry area reader w.files = .ok (.ready i) spawned)
    (ended : compile i spawned = .ok (result, left))
    (missed : result.exitCode ≠ some 0 ∨ left.isFile i.outputFile = false) :
    Blames step compile graph entry area reader w
      ⟨entry, result.exitCode, !left.isFile i.outputFile, Utf8.decodeLenient result.stdout,
        Utf8.decodeLenient result.stderr⟩
      { w with
        files := left
        log := w.log ++ [.starting i] ++ [.failed entry (i.completion result left)] }

theorem Blames.not_successful {f : CompilerFailure}
    (h : Blames step compile graph entry area reader w f v) :
    ¬ (f.exitCode = some 0 ∧ f.outputMissing = false) := by
  obtain ⟨prepared, ended, hcode | hfile⟩ := h
  · rintro ⟨hexit, -⟩
    exact hcode hexit
  · rintro ⟨-, hmissing⟩
    simp [hfile] at hmissing

theorem run_failed_iff {f : CompilerFailure} :
    step.run compile graph entry area reader write w = .error (.compiler f) v ↔
      Blames step compile graph entry area reader w f v ∨
        ∃ i result spawned left processed,
          Compiled step compile graph entry area reader i result w.files spawned left processed ∧
            area.publish i write
              { w with
                files := processed
                log := w.log ++ [.starting i] ++ printed (i.completion result left) } =
              .error (.compiler f) v := by
  constructor
  · intro h
    have ends := run_ends step compile graph entry area reader write w
    rw [h] at ends
    cases ends with
    | unprepared prepared => exact absurd prepared (step.prepare_blameless graph entry area reader _ f _)
    | failed prepared ended missed => exact .inl (.intro prepared ended missed)
    | unfinished prepared ended exited found injected =>
      exact absurd injected (injectPreamble_blameless _ _ _ f _)
    | unpublished compiled published => exact .inr ⟨_, _, _, _, _, compiled, published⟩
  · rintro (⟨prepared, ended, missed⟩ | ⟨i, result, spawned, left, processed, compiled, published⟩)
    · exact run_of_failed prepared ended missed
    · exact run_of_unpublished compiled published

theorem run_failed_iff_blames {f : CompilerFailure} (quiet : write.Quiet) :
    step.run compile graph entry area reader write w = .error (.compiler f) v ↔
      Blames step compile graph entry area reader w f v := by
  rw [run_failed_iff, or_iff_left]
  rintro ⟨i, result, spawned, left, processed, -, published⟩
  exact (StagingArea.publish_silent quiet i).blameless f v published

def alarms : EStateM.Result Error Workspace Outcome → List Level
  | .ok (.skipped _) _ => [.warning]
  | .error (.compiler _) _ => [.error]
  | _ => []

theorem alarms_error {e : Error} (h : ∀ f, e ≠ .compiler f) : alarms (.error e v) = [] := by
  cases e with
  | compiler f => exact absurd rfl (h f)
  | _ => rfl

theorem filter_printed (c : Completion) : (printed c).filter Event.isAlarm = [] := by
  unfold printed
  split <;> rfl

theorem run_alarms (step : BuildStep) (compile : Compiler) (graph : ModuleGraph) (entry : AssetId)
    (area : StagingArea) (reader : Reader) (quiet : write.Quiet) (w : Workspace) :
    ∃ events, (Work.left (step.run compile graph entry area reader write w)).log = w.log ++ events ∧
      (events.filter Event.isAlarm).map Event.level =
        alarms (step.run compile graph entry area reader write w) := by
  have ends := run_ends step compile graph entry area reader write w
  generalize step.run compile graph entry area reader write w = result at ends
  cases ends with
  | skipped verdict => exact ⟨_, rfl, rfl⟩
  | unprepared prepared =>
    refine ⟨[], (List.append_nil _).symm, ?_⟩
    rw [alarms_error ((step.prepare_blameless graph entry area reader _).ne prepared)]
    rfl
  | unspawned prepared ended => exact ⟨_, rfl, rfl⟩
  | failed prepared ended missed => exact ⟨_, List.append_assoc _ _ _, rfl⟩
  | unfinished prepared ended exited found injected =>
    refine ⟨_, List.append_assoc _ _ _, ?_⟩
    rw [alarms_error ((injectPreamble_blameless _ _ _).ne injected), List.filter_append, filter_printed]
    rfl
  | unpublished compiled published =>
    -- a quiet writer leaves the log as it was when publishing began
    have hlog := (StagingArea.publish_silent quiet _).log_of_error published
    refine ⟨_, hlog.trans (List.append_assoc _ _ _), ?_⟩
    rw [alarms_error ((StagingArea.publish_silent quiet _).blameless.ne published), List.filter_append,
      filter_printed]
    rfl
  | @built i result spawned left processed artifacts v compiled published =>
    have hlog := (StagingArea.publish_silent quiet _).log_of_ok published
    refine ⟨.starting i :: printed (i.completion result left) ++
      [.compiled entry artifacts.bundle result.milliseconds], ?_, ?_⟩
    · simp [hlog]
    · rw [List.filter_append, List.filter_cons_of_neg (by simp [Event.isAlarm, Event.level]), filter_printed]
      rfl

theorem endings_raise_alarms (step : BuildStep) (compile : Compiler) (graph : ModuleGraph)
    (entry : AssetId) (area : StagingArea) (reader : Reader) (write : Writer) (w : Workspace) :
    (∀ other : Compiler,
      (∀ i spawned, step.prepare graph entry area reader w.files = .ok (.ready i) spawned →
        other i spawned = compile i spawned) →
      step.run other graph entry area reader write w = step.run compile graph entry area reader write w) ∧
    (∀ i spawned, step.prepare graph entry area reader w.files = .ok (.ready i) spawned →
      i = step.invocation entry area ∧ ∃ closure staged configured,
        graph.closure entry = .ok (.resolved closure) ∧ entry ∈ closure.sources ∧
          area.Stages reader closure.sources w.files staged ∧
            area.writePackageConfig closure staged = .ok (PackageConfig.path entry) configured ∧
              i.clearStale configured = .ok () spawned) ∧
    (∀ reason v, step.run compile graph entry area reader write w = .ok (.skipped reason) v ↔
      graph.closure entry = .ok (.unsupported reason) ∧
        v = { w with log := w.log ++ [.skipped reason] }) ∧
    (∀ reason, graph.closure entry = .ok (.unsupported reason) →
      (Event.skipped reason).fields =
        [("libraries", ", ".intercalate (reason.libraries.map AssetId.display))] ∧
      reason.libraries.Pairwise (AssetId.before · · = true) ∧
      ∃ start, graph.owner? entry = some start ∧ ∀ library, library ∈ reason.libraries ↔
        ∃ m, Reaches graph.modules start m ∧ library ∈ m.offendingLibraries) ∧
    (∀ f v, step.run compile graph entry area reader write w = .error (.compiler f) v ↔
      Blames step compile graph entry area reader w f v ∨
        ∃ i result spawned left processed,
          Compiled step compile graph entry area reader i result w.files spawned left processed ∧
            area.publish i write
              { w with
                files := processed
                log := w.log ++ [.starting i] ++ printed (i.completion result left) } =
              .error (.compiler f) v) ∧
    (∀ f v, Blames step compile graph entry area reader w f v →
      ¬ (f.exitCode = some 0 ∧ f.outputMissing = false)) ∧
    (write.Quiet →
      (∀ f v, step.run compile graph entry area reader write w = .error (.compiler f) v ↔
        Blames step compile graph entry area reader w f v) ∧
      ∃ events, (Work.left (step.run compile graph entry area reader write w)).log = w.log ++ events ∧
        (events.filter Event.isAlarm).map Event.level =
          alarms (step.run compile graph entry area reader write w)) ∧
    Writer.memory.Quiet ∧ ∀ d, (Writer.directories d).Quiet := by
  refine ⟨fun other => run_congr, fun i spawned => prepare_stages, fun reason v => run_skipped_iff, ?_,
    fun f v => run_failed_iff, fun f v => Blames.not_successful, ?_, Writer.memory_quiet,
    Writer.directories_quiet⟩
  · intro reason h
    obtain ⟨-, hordered, hlibraries⟩ := ModuleGraph.libraries_of_closure h
    exact ⟨rfl, hordered, hlibraries⟩
  · intro quiet
    exact ⟨fun f v => run_failed_iff_blames quiet,
      run_alarms step compile graph entry area reader quiet w⟩

end BuildStep

namespace Sample

def failing : Compiler := fun _ t =>
  .ok (⟨some 1, .empty, .empty, 0⟩, t)

def lacking : ModuleGraph where
  modules := [{ primarySource := ⟨"a", "w"⟩, supported := false }]
  distinct := by simp

theorem sample_raises_alarms :
    (∃ f v, step.run failing graph ⟨"a", "w"⟩ area reader Writer.memory { files := .empty } =
        .error (.compiler f) v ∧
      f.exitCode = some 1 ∧ f.outputMissing = true ∧ v.outputs = {} ∧
        (v.log.filter Event.isAlarm).map Event.level = [.error]) ∧
    (∃ reason v, step.run failing lacking ⟨"a", "w"⟩ area reader Writer.memory { files := .empty } =
        .ok (.skipped reason) v ∧
      v.log = [.skipped reason] ∧ (Event.skipped reason).fields = [("libraries", "a|w")]) ∧
    ∃ artifacts v, step.run compiler graph ⟨"a", "w"⟩ area reader Writer.memory { files := .empty } =
        .ok (.built artifacts) v ∧
      (∀ f u, ¬ BuildStep.Blames step compiler graph ⟨"a", "w"⟩ area reader { files := .empty } f u) ∧
        v.log.filter Event.isAlarm = [] := by
  refine ⟨?_, ?_, ?_⟩
  · have hready : ∃ spawned, step.prepare graph ⟨"a", "w"⟩ area reader .empty =
        .ok (.ready (step.invocation ⟨"a", "w"⟩ area)) spawned ∧
          spawned.isFile (step.invocation ⟨"a", "w"⟩ area).outputFile = false :=
      ⟨_, Work.eq_ok_of_answer? (by decide +kernel), by decide +kernel⟩
    obtain ⟨spawned, hprepared, hmissing⟩ := hready
    obtain ⟨-, -, -, -, -, -, hquiet, hmemory, -⟩ := BuildStep.endings_raise_alarms step failing graph
      ⟨"a", "w"⟩ area reader Writer.memory { files := .empty }
    obtain ⟨hfailed, events, hlog, halarms⟩ := hquiet hmemory
    have hrun := (hfailed _ _).2 (.intro hprepared rfl (.inl (by decide)))
    rw [hrun] at hlog halarms
    obtain rfl : _ = events := hlog
    exact ⟨_, _, hrun, rfl, by rw [hmissing]; rfl, rfl, halarms⟩
  · have hverdict : lacking.closure ⟨"a", "w"⟩ = .ok (.unsupported ⟨⟨"a", "w"⟩, [⟨"a", "w"⟩]⟩) :=
      eq_ok_of_toOption (by decide +kernel)
    obtain ⟨-, -, hskipped, hfields, -⟩ := BuildStep.endings_raise_alarms step failing lacking
      ⟨"a", "w"⟩ area reader Writer.memory { files := .empty }
    obtain ⟨hlibraries, -⟩ := hfields _ hverdict
    exact ⟨_, _, (hskipped _ _).2 ⟨hverdict, rfl⟩, rfl, hlibraries⟩
  · have hbuilt : ∃ v, step.run compiler graph ⟨"a", "w"⟩ area reader Writer.memory { files := .empty } =
        .ok (.built ⟨⟨"a", "w.j"⟩, some ⟨"a", "w.j.map"⟩⟩) v :=
      ⟨_, Work.eq_ok_of_answer? (by decide +kernel)⟩
    obtain ⟨v, hrun⟩ := hbuilt
    obtain ⟨-, -, -, -, -, -, hquiet, hmemory, -⟩ := BuildStep.endings_raise_alarms step compiler graph
      ⟨"a", "w"⟩ area reader Writer.memory { files := .empty }
    obtain ⟨hfailed, events, hlog, halarms⟩ := hquiet hmemory
    rw [hrun] at hlog halarms
    obtain rfl : v.log = events := hlog
    refine ⟨_, v, hrun, ?_, List.map_eq_nil_iff.1 halarms⟩
    intro f u hblames
    have hfails := (hfailed f u).2 hblames
    rw [hrun] at hfails
    cases hfails

end Sample

end DartBundle
