import DartBundle.Asset.Directories
import DartBundle.Asset.Memory
import DartBundle.Build.Event
/-!
This module contains what a build works on: a file tree, an output space in memory and a log. Work
on the files alone is a part of a build that leaves the rest as it is.
-/

namespace DartBundle

structure Workspace where
  files : FileTree
  outputs : MemoryAssets := {}
  log : List Event := []

abbrev Build := EStateM Error Workspace

namespace Build

def onFiles (work : FileWork α) : Build α := fun w =>
  match work w.files with
  | .ok a files => .ok a { w with files }
  | .error e files => .error e { w with files }

def log (event : Event) : Build Unit :=
  modify fun w => { w with log := w.log ++ [event] }

end Build

abbrev Writer := AssetId → ByteArray → Build Unit

namespace Writer

def memory : Writer := fun id content =>
  modify fun w => { w with outputs := w.outputs.insert id content }

def directories (d : AssetDirectories) : Writer := fun id content =>
  Build.onFiles (d.write id content)

end Writer

end DartBundle
