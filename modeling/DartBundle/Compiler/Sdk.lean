import DartBundle.Asset.Reader
import DartBundle.Compiler.Machine
import DartBundle.Text.Blank
/-!
This module contains Dart SDKs: where they keep what a compiler run needs, how one is checked and
how one is found.
-/

namespace DartBundle

structure Sdk where
  root : String
  deriving DecidableEq

namespace Sdk

def machine (sdk : Sdk) : String :=
  Path.resolve sdk.root "bin/dart"

def compilerSnapshot (sdk : Sdk) : String :=
  Path.resolve sdk.root "bin/snapshots/dart2js.dart.snapshot"

def librariesSpec (sdk : Sdk) : String :=
  Path.resolve sdk.root "lib/libraries.json"

def validate (sdk : Sdk) (t : FileTree) : Except Error Unit :=
  match [sdk.machine, sdk.compilerSnapshot].find? fun file => !t.isFile file with
  | some file => .error (.toolchain (.fileMissing file sdk.root))
  | none => .ok ()

def checked (root : String) (t : FileTree) : Except Error Sdk := do
  validate ⟨root⟩ t
  return ⟨root⟩

/--
Finds the SDK through the first of some directories in which its virtual machine can be run. The
file there may be a link into the SDK.
-/
def detect (searched : List String) (t : FileTree) : Except Error Sdk :=
  match (searched.map (Path.join · "dart")).find? t.isExecutable with
  | none => .error (.toolchain .notInPath)
  | some found =>
    let machine := (t.canonical found).toOption.getD found
    match (Path.parent? machine).bind Path.parent? with
    | none => .error (.toolchain (.noRoot machine))
    | some root => checked root t

def version (sdk : Sdk) (run : Machine) : FileWork String := fun t =>
  match run ⟨sdk.machine, ["--version"], none⟩ t with
  | .error fault => .error (.toolchain (.cannotAskVersion fault)) t
  | .ok (result, t) =>
    if result.exitCode = some 0 then
      let stdout := Utf8.decodeLenient result.stdout
      -- older releases print their version on the standard error
      let text := if Text.isAllBlank stdout then Utf8.decodeLenient result.stderr else stdout
      .ok (Text.trim text) t
    else
      .error (.toolchain .versionFailed) t

end Sdk

end DartBundle
