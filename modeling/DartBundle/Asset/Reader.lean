import DartBundle.Error
import DartBundle.FileTree.Operations
/-!
This module contains what reads assets. A reader may look at the file tree, but it cannot change it.
-/

namespace DartBundle

abbrev Reader := FileTree → AssetId → Except Error ByteArray

def AssetId.decodeContent (id : AssetId) (content : ByteArray) : Except Error String :=
  match Utf8.decode content with
  | .ok text => .ok text
  | .error fault => .error (.serialization (.notText id fault))

def Reader.readText (reader : Reader) (t : FileTree) (id : AssetId) : Except Error String := do
  id.decodeContent (← reader t id)

/--
Work on a file tree that may fail. The tree that a failure leaves behind is known as well.
-/
abbrev FileWork := EStateM Error FileTree

namespace FileWork

def ofDisk (operation : Disk α) : FileWork α := fun t =>
  match operation t with
  | .ok a t => .ok a t
  | .error fault t => .error (.file fault) t

def ofExcept (result : Except Error α) : FileWork α := fun t =>
  match result with
  | .ok a => .ok a t
  | .error e => .error e t

def whileStaging (asset : AssetId) (work : FileWork α) : FileWork α := fun t =>
  match work t with
  | .ok a t => .ok a t
  | .error cause t => .error (.staging asset cause) t

end FileWork

end DartBundle
