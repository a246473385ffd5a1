import DartBundle.Compiler.Invocation
/-!
This module contains what is known when the compiler has ended, and whether that is a success.
-/

namespace DartBundle

structure Completion where
  exitCode : Option Int
  stdout : String
  stderr : String
  outputExists : Bool
  milliseconds : Nat := 0

namespace Completion

/--
The compiler is not trusted to have succeeded unless a bundle is there.
-/
def succeeded (c : Completion) : Bool :=
  decide (c.exitCode = some 0) && c.outputExists

def combined (c : Completion) : String :=
  "\n".intercalate
    (([c.stdout, c.stderr].filter fun text => !Text.isAllBlank text).map Text.trimEnd)

end Completion

/--
Runs compilers: what the compiler of an invocation does to a file tree, and how it ends.
-/
abbrev Compiler := Invocation → FileTree → Except FileFault (Run × FileTree)

def Machine.compiler (run : Machine) : Compiler := fun i => run i.command

def Invocation.run (i : Invocation) (compile : Compiler) : FileWork Completion := fun t =>
  match compile i t with
  | .error fault => .error (.toolchain (.cannotSpawn i.program i.workingDirectory fault)) t
  | .ok (result, t) =>
    .ok {
      exitCode := result.exitCode
      stdout := Utf8.decodeLenient result.stdout
      stderr := Utf8.decodeLenient result.stderr
      outputExists := t.isFile i.outputFile
      milliseconds := result.milliseconds
    } t

end DartBundle
