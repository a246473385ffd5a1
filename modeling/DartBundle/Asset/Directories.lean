import DartBundle.Asset.Reader
import DartBundle.Table
/-!
This module contains assets that lie in directories: each package is read from a directory of its
own, and what is written goes below one output directory, kept apart by package.
-/

namespace DartBundle

structure AssetDirectories where
  outputDirectory : String
  packages : Table String String := .empty

namespace AssetDirectories

def addPackage (d : AssetDirectories) (name directory : String) : AssetDirectories :=
  { d with packages := d.packages.insert name directory }

def sourcePath? (d : AssetDirectories) (id : AssetId) : Option String :=
  (d.packages.lookup id.package).map fun directory => Path.join directory id.path

def outputPath (d : AssetDirectories) (id : AssetId) : String :=
  Path.resolve (Path.join d.outputDirectory id.package) id.path

def canRead (d : AssetDirectories) (t : FileTree) (id : AssetId) : Bool :=
  match d.sourcePath? id with
  | some path => t.isFile path
  | none => false

def read (d : AssetDirectories) (t : FileTree) (id : AssetId) : Except Error ByteArray :=
  match d.sourcePath? id with
  | none => .error (.assetNotFound id)
  | some path =>
    match t.read path with
    | .ok bytes => .ok bytes
    | .error .notFound => .error (.assetNotFound id)
    | .error fault => .error (.file fault)

def reader (d : AssetDirectories) : Reader := d.read

/--
Writes an asset if its id is valid, and so does not lead out of the output directory.
-/
def write (d : AssetDirectories) (id : AssetId) (bytes : ByteArray) : FileWork Unit := do
  FileWork.ofExcept (id.validate.mapError Error.invalidAssetId)
  FileWork.ofDisk (Disk.replaceFile (d.outputPath id) bytes)

end AssetDirectories

end DartBundle
