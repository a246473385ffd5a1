import DartBundle.Build.Workspace
/-!
This module contains what happens to a bundle when the compiler has written it: the preamble is put
in front, then the bundle and its source map are copied to the output space.
-/

namespace DartBundle

structure Artifacts where
  bundle : AssetId
  sourceMap : Option AssetId
  deriving DecidableEq

/--
Puts a text in front of a file. The file is replaced in one step.
-/
def injectPreamble (path preamble : String) : FileWork Unit :=
  FileWork.ofDisk do
    let content ← Disk.ask (·.read path)
    Disk.replaceFile path (preamble.toUTF8 ++ content)

namespace StagingArea

def copyOutput (area : StagingArea) (id : AssetId) (write : Writer) : Build Unit := do
  let content ← Build.onFiles (FileWork.ofDisk (Disk.ask (·.read (area.pathFor id))))
  write id content

def copyOutputIfPresent (area : StagingArea) (id : AssetId) (write : Writer) : Build Bool := do
  let w ← get
  if w.files.isFile (area.pathFor id) then
    area.copyOutput id write
    return true
  else
    return false

def publish (area : StagingArea) (i : Invocation) (write : Writer) : Build Artifacts := do
  area.copyOutput i.bundle write
  let mapped ← area.copyOutputIfPresent i.sourceMap write
  return ⟨i.bundle, if mapped then some i.sourceMap else none⟩

end StagingArea

end DartBundle
