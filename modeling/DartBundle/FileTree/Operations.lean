import DartBundle.FileTree.Basic
/-!
This module contains the operations that change a file tree. An operation that fails may have
changed the tree before, so each ends in a tree in any case. `replaceFile` is the one the library
writes with: a file appears under its name with all of its content or not at all.
-/

namespace DartBundle

abbrev Disk := EStateM FileFault FileTree

namespace Disk

def ask (question : FileTree → Except FileFault α) : Disk α := fun t =>
  match question t with
  | .ok answer => .ok answer t
  | .error fault => .error fault t

def needWritable (directory : Location) : Disk Unit := do
  if !(← get).mayChange directory then
    throw .permissionDenied

def makeDirectoryAs (mode : Nat) (path : String) : Disk Unit := do
  let (directory, name) ← ask (·.holder path)
  if name = "." || name = ".." then
    throw .alreadyExists
  let t ← get
  match t.get? (name :: directory) with
  | some _ => throw .alreadyExists
  | none =>
    needWritable directory
    let inherited := (t.get? directory).elim 0 fun entry => entry.mode &&& 0o2000
    set (t.create (name :: directory) .directory (mode ||| inherited))

def makeDirectory : String → Disk Unit :=
  makeDirectoryAs 0o755

def makeDirectories : List String → Disk Unit
  | [] => throw (.other "failed to create whole tree")
  | path :: above =>
    if path.isEmpty then
      pure ()
    else fun t =>
      match makeDirectory path t with
      | .ok _ t => .ok () t
      -- only a directory that is missing above is a reason to look at those above
      | .error .notFound t =>
        match makeDirectories above t with
        | .error fault t => .error fault t
        | .ok _ t =>
          match makeDirectory path t with
          | .ok _ t => .ok () t
          | .error fault t => if t.isDirectory path then .ok () t else .error fault t
      | .error fault t => if t.isDirectory path then .ok () t else .error fault t

def createDirectories (path : String) : Disk Unit :=
  makeDirectories (path :: Path.parents path)

def remove (path : String) : Disk Unit := do
  let (directory, name) ← ask (·.holder path)
  if name = "." || name = ".." then
    throw .isADirectory
  let t ← get
  match t.get? (name :: directory) with
  | none => throw .notFound
  | some e =>
    if Path.namesDirectory path then
      throw (if e.isDirectory then .isADirectory else .notADirectory)
    needWritable directory
    if e.isDirectory then
      throw .isADirectory
    set (t.vacate (name :: directory))

def renameFile (source : Location) (path : String) : Disk Unit := do
  let (directory, name) ← ask (·.holder path)
  if name = "." || name = ".." then
    throw .busy
  if Path.namesDirectory path then
    throw .notADirectory
  let t ← get
  needWritable source.tail
  needWritable directory
  if t.kind? (name :: directory) = some .directory then
    throw .isADirectory
  match t.get? source with
  | none => throw .notFound
  | some entry => set ((t.vacate source).place (name :: directory) entry)

def freshName (t : FileTree) (directory : Location) : String :=
  let longest := ((t.names directory).map String.length).foldl max 0
  -- it is longer than every name in the directory, and so none of them
  ".tmp" ++ String.ofList (List.replicate longest '0')

def createTemporary (path : String) (content : ByteArray) : Disk Location := do
  let (directory, _) ← ask (·.find (Path.join path ".") true)
  needWritable directory
  let t ← get
  let l := freshName t directory :: directory
  set (t.create l (.file content) 0o600)
  return l

def keepTemporary (temporary : Location) (path : String) : Disk Unit := fun t =>
  match renameFile temporary path t with
  | .ok _ t => .ok () t
  | .error fault t => .error fault (t.vacate temporary)

/--
Replaces what a path names by a file with the given content, in one step: the content is written
under another name in the same directory first, and that file takes the name or is removed.
-/
def replaceFile (path : String) (content : ByteArray) : Disk Unit := do
  match Path.parent? path with
  | none => throw (.other ("no parent directory for " ++ path))
  | some parent =>
    createDirectories parent
    let temporary ← createTemporary parent content
    keepTemporary temporary path

def openFile (mode : Nat) (path : String) : Disk (Location × Entry) := do
  let l ← ask (·.follow path true)
  let t ← get
  match t.get? l with
  | some e =>
    match e.kind with
    | .directory => throw .isADirectory
    | .link _ => throw .tooManyLinks
    | .file _ =>
      if Path.namesDirectory path then
        throw .notADirectory
      if !e.isWritable then
        throw .permissionDenied
      return (l, e)
  | none =>
    if Path.namesDirectory path then
      throw .isADirectory
    needWritable l.tail
    set (t.create l (.file .empty) mode)
    ask fun t => match t.get? l with
      | some e => .ok (l, e)
      | none => .error .notFound

def modifyFile (number : Nat) (change : ByteArray → ByteArray) : Disk Unit :=
  modify fun t => t.revise number fun e =>
    match e.kind with
    | .file content => { e with kind := .file (change content), modified := t.now }
    | _ => e

def overwrite (path : String) (content : ByteArray) : Disk Unit := do
  let (_, e) ← openFile 0o644 path
  modifyFile e.number fun _ => content

def setMode (mode : Nat) (path : String) : Disk Unit := do
  let (_, e) ← ask (·.find path true)
  modify fun t => t.revise e.number fun e => { e with mode }

def makeLink (target path : String) : Disk Unit := do
  let (directory, name) ← ask (·.holder path)
  let t ← get
  if name = "." || name = ".." || (t.get? (name :: directory)).isSome then
    throw .alreadyExists
  needWritable directory
  set (t.create (name :: directory) (.link target) 0o777)

def addName (e : Entry) (path : String) : Disk Unit := do
  let (directory, name) ← ask (·.holder path)
  let t ← get
  if name = "." || name = ".." || (t.get? (name :: directory)).isSome then
    throw .alreadyExists
  needWritable directory
  set (t.place (name :: directory) e)

def removeAll (path : String) : Disk Unit := do
  let (l, _) ← ask (·.find path false)
  if l = [] then
    throw .busy
  let t ← get
  if !t.mayClear l then
    throw .permissionDenied
  set (t.vacateAll l)

/--
Moves what lies at one location, with everything below it, to another. The current directory moves
with it. A directory that comes to lie in another one changes itself.
-/
def relocate (source target : Location) : Disk Unit := do
  let t ← get
  needWritable source.tail
  needWritable target.tail
  if source.tail ≠ target.tail && (t.get? source).any Entry.isDirectory then
    needWritable source
  let seat := t.seat
  let moved := t.entries.entries.filter fun (l, _) => source.isSuffixOf l
  -- what lies below has to be off its places before any of it is put down again
  let cleared : FileTree := { t with entries := t.entries.eraseAll fun l => source.isSuffixOf l }
  let placed := moved.foldl
    (fun t (l, entry) => t.place (l.take (l.length - source.length) ++ target) entry)
    (cleared.renew source)
  set (placed.seatedAt seat)

def makeTemporaryDirectory (path : String) : Disk String := do
  let (directory, entry) ← ask (·.find path true)
  if !entry.isDirectory then
    throw .notADirectory
  if !entry.isExecutable then
    throw .permissionDenied
  needWritable directory
  let t ← get
  let name := freshName t directory
  set (t.create (name :: directory) .directory 0o700)
  return Path.join path name

end Disk

end DartBundle
