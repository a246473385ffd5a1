import DartBundle.Compiler.Completion
/-!
This module contains the events that a build logs, as data, and how each is put into words.
-/

namespace DartBundle

inductive Level
  | debug
  | info
  | warning
  | error
  deriving DecidableEq

inductive Event
  | starting (invocation : Invocation)
  | printed (text : String)
  | compiled (entry bundle : AssetId) (milliseconds : Nat)
  | skipped (reason : Unsupported)
  | failed (entry : AssetId) (completion : Completion)

namespace Event

def level : Event → Level
  | .starting _ => .debug
  | .printed _ => .info
  | .compiled .. => .info
  | .skipped _ => .warning
  | .failed .. => .error

def message : Event → String
  | .starting invocation => "Running " ++ invocation.commandLine
  | .printed text => text
  | .compiled entry bundle milliseconds =>
    s!"Compiled {entry.display} to {bundle.display} in {milliseconds}ms"
  | .skipped reason =>
    s!"Skipping compiling {reason.entry.display} with dart2js because some of its transitive " ++
      "libraries have SDK dependencies that are not supported on this platform"
  | .failed entry completion => s!"dart2js failed for {entry.display}:\n{completion.combined}"

def describeExitCode : Option Int → String
  | none => "None"
  | some code => s!"Some({code})"

def fields : Event → List (String × String)
  | .skipped reason => [("libraries", reason.display)]
  | .failed _ completion =>
    [("exit_code", describeExitCode completion.exitCode),
      ("output_missing", toString !completion.outputExists)]
  | _ => []

end Event

end DartBundle
