import DartBundle.Asset.Reader
import DartBundle.Staging.PackageConfig
/-!
This module contains staging areas, the directories that compilers run in. Sources are staged where
their ids say, and what is staged already is not written again, so that several entry points and
several builds can share one area.
-/

namespace DartBundle

/--
A directory to compile in, known by the canonical path of it.
-/
structure StagingArea where
  root : String
  deriving DecidableEq

namespace StagingArea

def create (path : String) : FileWork StagingArea :=
  FileWork.ofDisk do
    Disk.createDirectories path
    let root ← Disk.ask (·.canonical path)
    return ⟨root⟩

def resolve (area : StagingArea) (relative : String) : String :=
  Path.resolve area.root relative

def pathFor (area : StagingArea) (id : AssetId) : String :=
  area.resolve id.stagingPath

def isStaged (t : FileTree) (path : String) (content : ByteArray) : Bool :=
  match t.read path with
  | .ok staged => decide (staged = content)
  | .error _ => false

def stage (area : StagingArea) (reader : Reader) (id : AssetId) : FileWork Bool := do
  FileWork.ofExcept (id.validate.mapError Error.invalidAssetId)
  let content ← FileWork.ofExcept (reader (← get) id)
  if isStaged (← get) (area.pathFor id) content then
    return false
  FileWork.ofDisk (Disk.replaceFile (area.pathFor id) content)
  return true

def stageAll (area : StagingArea) (reader : Reader) : List AssetId → FileWork Nat
  | [] => return 0
  | id :: rest => do
    let written ← FileWork.whileStaging id (area.stage reader id)
    let others ← area.stageAll reader rest
    return (if written then 1 else 0) + others

def stageClosure (area : StagingArea) (reader : Reader) (closure : Closure) : FileWork Nat :=
  area.stageAll reader closure.sources

def writePackageConfig (area : StagingArea) (closure : Closure) : FileWork String := do
  let relative := PackageConfig.path closure.entry
  let content := (PackageConfig.ofClosure closure).render.toUTF8
  FileWork.whileStaging closure.entry
    (FileWork.ofDisk (Disk.replaceFile (area.resolve relative) content))
  return relative

end StagingArea

end DartBundle
