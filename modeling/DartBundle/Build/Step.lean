import DartBundle.Build.Publish
/-!
This module contains the build step, which takes one entry point from its module graph to a
published bundle. What the compiler does is a parameter of the step, and `prepare` is all that
happens before the compiler is started.
-/

namespace DartBundle

/--
How entry points are compiled. A step holds nothing that changes, so it can serve many of them.
-/
structure BuildStep where
  config : CompilerConfig
  sdk : Sdk

inductive Outcome
  | built (artifacts : Artifacts)
  | skipped (reason : Unsupported)
  deriving DecidableEq

inductive Preparation
  | skipped (reason : Unsupported)
  | ready (invocation : Invocation)
  deriving DecidableEq

namespace BuildStep

def stage (step : BuildStep) (closure : Closure) (area : StagingArea) (reader : Reader) :
    FileWork Invocation := do
  let _ ← area.stageClosure reader closure
  let packageConfig ← area.writePackageConfig closure
  let i := Invocation.build closure.entry packageConfig area step.config step.sdk
  i.clearStale
  return i

def prepare (step : BuildStep) (graph : ModuleGraph) (entry : AssetId) (area : StagingArea)
    (reader : Reader) : FileWork Preparation := do
  match ← FileWork.ofExcept (graph.closure entry) with
  | .unsupported reason => return .skipped reason
  | .resolved closure => return .ready (← step.stage closure area reader)

def judge (entry : AssetId) (c : Completion) : Build Unit := do
  if c.succeeded then
    if !Text.isAllBlank c.stdout then
      Build.log (.printed (Text.trimEnd c.stdout))
  else
    Build.log (.failed entry c)
    throw (.compiler ⟨entry, c.exitCode, !c.outputExists, c.stdout, c.stderr⟩)

def run (step : BuildStep) (compile : Compiler) (graph : ModuleGraph) (entry : AssetId)
    (area : StagingArea) (reader : Reader) (write : Writer) : Build Outcome := do
  match ← Build.onFiles (step.prepare graph entry area reader) with
  | .skipped reason =>
    Build.log (.skipped reason)
    return .skipped reason
  | .ready i =>
    Build.log (.starting i)
    let c ← Build.onFiles (i.run compile)
    judge entry c
    Build.onFiles (injectPreamble i.outputFile step.config.preamble)
    let artifacts ← area.publish i write
    Build.log (.compiled entry artifacts.bundle c.milliseconds)
    return .built artifacts

end BuildStep

end DartBundle
