import DartBundle.Error
import DartBundle.FileTree.Operations
/-!
This module contains program runs: what is started, and what a run leaves behind. What programs do
is not known here; a machine is any function that runs commands on a file tree.
-/

namespace DartBundle

structure Command where
  program : String
  arguments : List String
  directory : Option String := none
  deriving DecidableEq

structure Run where
  /-- There is none if a signal has ended the run. -/
  exitCode : Option Int
  stdout : ByteArray
  stderr : ByteArray
  milliseconds : Nat := 0

/--
Runs commands. A command that cannot be started changes nothing.
-/
abbrev Machine := Command → FileTree → Except FileFault (Run × FileTree)

end DartBundle
