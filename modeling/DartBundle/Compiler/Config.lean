import DartBundle.Compiler.Preamble
import DartBundle.Text.Blank
/-!
This module contains what can be chosen about compiler runs.
-/

namespace DartBundle

structure CompilerConfig where
  multiRootScheme : String := "org-dartlang-app"
  bundleExtension : String := ".dart.js"
  compilerArguments : List String := []
  machineArguments : List String := []
  preamble : String := nodePreamble

namespace CompilerConfig

def addCompilerArguments (config : CompilerConfig) (arguments : List String) : CompilerConfig :=
  { config with compilerArguments := config.compilerArguments ++ arguments }

def setMachineOptions (config : CompilerConfig) (options : String) : CompilerConfig :=
  { config with machineArguments := Text.words options }

def sourceMapExtension (config : CompilerConfig) : String :=
  config.bundleExtension ++ ".map"

end CompilerConfig

end DartBundle
