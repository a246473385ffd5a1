import DartBundle.Asset.Reader
import DartBundle.Table
/-!
This module contains assets that are kept in memory.
-/

namespace DartBundle

structure MemoryAssets where
  content : Table AssetId ByteArray := .empty
  deriving Inhabited

namespace MemoryAssets

def get? (assets : MemoryAssets) (id : AssetId) : Option ByteArray :=
  assets.content.lookup id

def insert (assets : MemoryAssets) (id : AssetId) (bytes : ByteArray) : MemoryAssets :=
  ⟨assets.content.insert id bytes⟩

def contains (assets : MemoryAssets) (id : AssetId) : Bool :=
  assets.content.contains id

def size (assets : MemoryAssets) : Nat :=
  assets.content.size

def isEmpty (assets : MemoryAssets) : Bool :=
  assets.content.isEmpty

def ids (assets : MemoryAssets) : List AssetId :=
  AssetId.sort assets.content.keys

def read (assets : MemoryAssets) (id : AssetId) : Except Error ByteArray :=
  match assets.get? id with
  | some bytes => .ok bytes
  | none => .error (.assetNotFound id)

def reader (assets : MemoryAssets) : Reader := fun _ id => assets.read id

theorem get?_insert (assets : MemoryAssets) (id other : AssetId) (bytes : ByteArray) :
    (assets.insert id bytes).get? other = if other = id then some bytes else assets.get? other :=
  Table.lookup_insert ..

end MemoryAssets

end DartBundle
