import DartBundle.Asset.Id
import DartBundle.FileTree.Fault
import DartBundle.Json.Decode
import DartBundle.Text.Utf8
/-!
This module contains the errors of the library, as causes, and the one place where they are put into
words.
-/

namespace DartBundle

inductive GraphFault
  | duplicate (id : AssetId)
  | other (text : String)

def GraphFault.message : GraphFault → String
  | .duplicate id => "duplicate module " ++ id.display
  | .other text => text

inductive ToolchainFault
  | notInPath
  | noRoot (machine : String)
  | fileMissing (file root : String)
  | cannotSpawn (program directory : String) (fault : FileFault)
  | cannotAskVersion (fault : FileFault)
  | versionFailed
  | other (text : String)

def ToolchainFault.message : ToolchainFault → String
  | .notInPath => "dart not found in PATH"
  | .noRoot machine => "cannot derive SDK root from " ++ machine
  | .fileMissing file root => s!"{file} not found in SDK at {root}"
  | .cannotSpawn program directory fault =>
    s!"Failed to run {program} (working dir: {directory}): {fault.message}"
  | .cannotAskVersion fault => "Failed to run dart: " ++ fault.message
  | .versionFailed => "Failed to get Dart version"
  | .other text => text

inductive SerializationFault
  | json (fault : Json.DecodeFault)
  | notText (asset : AssetId) (fault : Utf8.Fault)
  | other (text : String)

def SerializationFault.message : SerializationFault → String
  | .json fault => fault.message
  | .notText asset fault => asset.display ++ ": " ++ fault.message
  | .other text => text

/--
How a compiler run went wrong. Without an exit code it was ended by a signal.
-/
structure CompilerFailure where
  entry : AssetId
  exitCode : Option Int
  outputMissing : Bool
  stdout : String
  stderr : String

def CompilerFailure.reason (failure : CompilerFailure) : String :=
  match failure.exitCode with
  | none => "terminated by signal"
  | some code =>
    if code = 0 && failure.outputMissing then
      "exited successfully but produced no output"
    else
      s!"exit code {code}"

inductive Error
  | invalidAssetId (fault : AssetId.Fault)
  | missingModule (missing : AssetId) (requiredBy : Option AssetId)
  | moduleGraph (fault : GraphFault)
  | assetNotFound (asset : AssetId)
  | staging (asset : AssetId) (cause : Error)
  | compiler (failure : CompilerFailure)
  | toolchain (fault : ToolchainFault)
  | serialization (fault : SerializationFault)
  | file (fault : FileFault)

namespace Error

def message : Error → String
  | .invalidAssetId fault => "invalid asset id: " ++ fault.message
  | .missingModule missing none => "missing module " ++ missing.display
  | .missingModule missing (some requiredBy) =>
    s!"missing module {missing.display} (required by {requiredBy.display})"
  | .moduleGraph fault => "module graph error: " ++ fault.message
  | .assetNotFound asset => "asset not found: " ++ asset.display
  | .staging asset cause => s!"failed to stage {asset.display}: " ++ cause.message
  | .compiler failure => s!"compilation failed for {failure.entry.display}: {failure.reason}"
  | .toolchain fault => "toolchain error: " ++ fault.message
  | .serialization fault => "serialization error: " ++ fault.message
  | .file fault => "IO error: " ++ fault.message

def chain : Error → List String
  | .staging asset cause => (Error.staging asset cause).message :: cause.chain
  | .file fault => [(Error.file fault).message, fault.message]
  | error => [error.message]

end Error

end DartBundle
