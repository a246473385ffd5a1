import DartBundle.Asset.Json
import DartBundle.Digest.Sha256
import DartBundle.Module.Closure
/-!
This module contains package configs, which tell the compiler where the libraries of each package
lie in a staging area. Each entry point has one under a name of its own.
-/

namespace DartBundle

/--
The name of a scratch file for an entry point. A digest of the entry point keeps the files of
different ones apart.
-/
def scratchFileName (entry : AssetId) (stem extension : String) : String :=
  let digest := Sha256.hex (Sha256.digest entry.display.toUTF8.toList)
  stem ++ "_" ++ String.ofList (digest.take 32) ++ "." ++ extension

structure PackageConfig where
  packages : List String

namespace PackageConfig

def directory : String := ".dart_tool"

def path (entry : AssetId) : String :=
  directory ++ "/" ++ scratchFileName entry "package_config" "json"

def ofClosure (closure : Closure) : PackageConfig :=
  ⟨closure.packages⟩

def rootUri (package : String) : String :=
  "../packages/" ++ package ++ "/"

def toJson (config : PackageConfig) : Json :=
  .object [
    (some "configVersion", .number (.ofNat 2)),
    (some "packages", .array (config.packages.map fun package =>
      .object
        [(some "name", .text (some package)), (some "rootUri", .text (some (rootUri package)))])),
    (some "generator", .text (some "nodepack"))]

def render (config : PackageConfig) : String :=
  config.toJson.writePretty

end PackageConfig

end DartBundle
