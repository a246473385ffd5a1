import DartBundle.Compiler.Config
import DartBundle.Compiler.Sdk
import DartBundle.Staging.Area
/-!
This module contains compiler invocations: how the compiler is started for an entry point and where
it leaves the bundle and the source map. Libraries are named by `package:` URIs, all else by the
scheme that leads to the staging root.
-/

namespace DartBundle

def entryUri (entry : AssetId) (scheme : String) : String :=
  match AssetId.belowLibraryRoot? entry.path.toList with
  | some rest => "package:" ++ entry.package ++ "/" ++ String.ofList rest
  | none => scheme ++ ":///" ++ entry.path

def bundlePath (entry : AssetId) (extension : String) : String :=
  (entry.changeExtension extension).stagingPath

def compilerArguments (entry : AssetId) (packageConfig stagingRoot : String)
    (config : CompilerConfig) (sdk : Sdk) : List String :=
  config.compilerArguments ++ [
    "--libraries-spec=" ++ sdk.librariesSpec,
    "--packages=" ++ config.multiRootScheme ++ ":///" ++ packageConfig,
    "--multi-root-scheme=" ++ config.multiRootScheme,
    "--multi-root=" ++ stagingRoot,
    "-o" ++ bundlePath entry config.bundleExtension,
    entryUri entry config.multiRootScheme]

structure Invocation where
  program : String
  arguments : List String
  workingDirectory : String
  entryUri : String
  outputPath : String
  bundle : AssetId
  sourceMap : AssetId
  deriving DecidableEq

namespace Invocation

def build (entry : AssetId) (packageConfig : String) (area : StagingArea) (config : CompilerConfig)
    (sdk : Sdk) : Invocation where
  program := sdk.machine
  arguments := config.machineArguments ++ sdk.compilerSnapshot ::
    compilerArguments entry packageConfig area.root config sdk
  workingDirectory := area.root
  entryUri := DartBundle.entryUri entry config.multiRootScheme
  outputPath := bundlePath entry config.bundleExtension
  bundle := entry.changeExtension config.bundleExtension
  sourceMap := entry.changeExtension config.sourceMapExtension

def outputFile (i : Invocation) : String :=
  Path.resolve i.workingDirectory i.outputPath

def sourceMapFile (i : Invocation) : String :=
  Path.resolve i.workingDirectory i.sourceMap.stagingPath

def command (i : Invocation) : Command :=
  ⟨i.program, i.arguments, some i.workingDirectory⟩

def commandLine (i : Invocation) : String :=
  " ".intercalate (i.program :: i.arguments)

def removeIfPresent (path : String) : Disk Unit := fun t =>
  match Disk.remove path t with
  | .error .notFound t => .ok () t
  | result => result

def clearStale (i : Invocation) : FileWork Unit :=
  FileWork.ofDisk do
    -- what is found there after the run is then what the run has left
    removeIfPresent i.outputFile
    removeIfPresent i.sourceMapFile

end Invocation

end DartBundle
