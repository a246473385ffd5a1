import DartBundle.FileTree.Fault
import DartBundle.Path
import DartBundle.Table
/-!
This module contains file trees: directories, regular files and symbolic links, each at a location.
A tree is known by what `get?` finds at each location. `follow` leads a path through it. A file may
lie at several locations, and then it has the same number at each of them.
-/

namespace DartBundle

instance contentDecidableEq : DecidableEq ByteArray :=
  ByteArray.decEq

inductive Entry.Kind
  | directory
  | file (content : ByteArray)
  | link (target : String)
  deriving DecidableEq

structure Entry where
  kind : Entry.Kind
  /-- What makes it the same thing under each of its names. -/
  number : Nat
  mode : Nat
  modified : Nat
  deriving DecidableEq

namespace Entry

def isDirectory (e : Entry) : Bool :=
  e.kind = .directory

def isFile (e : Entry) : Bool :=
  match e.kind with
  | .file _ => true
  | _ => false

def isLink (e : Entry) : Bool :=
  match e.kind with
  | .link _ => true
  | _ => false

def isReadable (e : Entry) : Bool :=
  e.mode &&& 0o400 ≠ 0

def isWritable (e : Entry) : Bool :=
  e.mode &&& 0o200 ≠ 0

def isExecutable (e : Entry) : Bool :=
  e.mode &&& 0o100 ≠ 0

def isOpen (e : Entry) : Bool :=
  e.isReadable && e.isWritable && e.isExecutable

def root : Entry where
  kind := .directory
  number := 0
  mode := 0o755
  modified := 0

end Entry

abbrev Location := List String

def firstMoment : Nat := 1767225600000

/--
A file tree, seen from a current directory where relative paths start.
-/
structure FileTree where
  entries : Table Location Entry
  current : Location := []
  nextNumber : Nat := 1
  now : Nat := firstMoment
  /-- Files that have lost their last name. Who has opened one goes on with it. -/
  nameless : List Entry := []
  /-- When the names in directories have last changed, by the number of the directory. -/
  renewed : Table Nat Nat := .empty

structure Seat where
  location : Location
  number : Option Nat

namespace FileTree

def empty : FileTree where
  entries := .empty

def get? (t : FileTree) : Location → Option Entry
  | [] => some Entry.root
  | name :: above => t.entries.lookup (name :: above)

def kind? (t : FileTree) (l : Location) : Option Entry.Kind :=
  (t.get? l).map (·.kind)

def pathText (l : Location) : String :=
  "/" ++ "/".intercalate l.reverse

def numbered (t : FileTree) (number : Nat) : List (Location × Entry) :=
  t.entries.entries.filter fun (_, e) => e.number = number

def retire (taken : List Entry) (t : FileTree) : FileTree :=
  { t with
    nameless := taken.filter (fun e => e.isFile && (t.numbered e.number).isEmpty) ++ t.nameless }

def renew (l : Location) (t : FileTree) : FileTree :=
  match t.get? l.tail with
  | some e => { t with renewed := t.renewed.insert e.number t.now }
  | none => t

def place (t : FileTree) (l : Location) (entry : Entry) : FileTree :=
  ({ t with entries := t.entries.insert l entry }.retire (t.entries.lookup l).toList).renew l

def create (t : FileTree) (l : Location) (kind : Entry.Kind) (mode : Nat) : FileTree :=
  { t with nextNumber := t.nextNumber + 1 }.place l
    { kind, number := t.nextNumber, mode, modified := t.now }

def vacate (t : FileTree) (l : Location) : FileTree :=
  ({ t with entries := t.entries.erase l }.retire (t.entries.lookup l).toList).renew l

def vacateAll (t : FileTree) (l : Location) : FileTree :=
  let taken := t.entries.entries.filter fun (other, _) => l.isSuffixOf other
  ({ t with entries := t.entries.eraseAll fun other => l.isSuffixOf other }.retire
    (taken.map Prod.snd)).renew l

def revise (t : FileTree) (number : Nat) (change : Entry → Entry) : FileTree :=
  let revised (e : Entry) : Entry := if e.number = number then change e else e
  { t with
    entries := t.entries.mapValues revised
    nameless := t.nameless.map revised }

def entry? (t : FileTree) (number : Nat) : Option Entry :=
  match t.numbered number with
  | (_, e) :: _ => some e
  | [] => t.nameless.find? fun e => e.number = number

def changeTime (t : FileTree) (e : Entry) : Nat :=
  max e.modified ((t.renewed.lookup e.number).getD 0)

def later (t : FileTree) (milliseconds : Nat) : FileTree :=
  { t with now := t.now + milliseconds }

def setTime (t : FileTree) (number time : Nat) : FileTree :=
  { t.revise number fun e => { e with modified := time } with renewed := t.renewed.erase number }

def seat (t : FileTree) : Seat where
  location := t.current
  number := (t.get? t.current).map (·.number)

/--
Whether a location is that of a directory which has been taken away. No path leads there, because
its last name is none that a path can spell, but a tree may still be seen from there.
-/
def isGone (l : Location) : Bool :=
  l.head? = some "/"

def gone (l : Location) : Location :=
  "/" :: l.tail

def seatedAt (t : FileTree) (seat : Seat) : FileTree :=
  match seat.number with
  | none => { t with current := seat.location }
  | some 0 => { t with current := [] }
  | some number =>
    { t with current := ((t.numbered number).head?.map (·.1)).getD (gone seat.location) }

def maxLinks : Nat := 40

def linkSteps (target : String) : List String :=
  Path.steps target ++ if Path.namesDirectory target then ["."] else []

def maxName : Nat := 255

def pathLimit : Nat := 4096

def walkToLink (t : FileTree) (followLast : Bool)
    (jump : Location → String → List String → Except FileFault Location) :
    Location → List String → Except FileFault Location
  | here, [] => .ok here
  | here, step :: rest =>
    match t.get? here with
    | none =>
      -- a directory that has been taken away can be stayed in and left, but leads down nowhere
      if isGone here && step = "." then
        walkToLink t followLast jump here rest
      else if isGone here && step = ".." then
        walkToLink t followLast jump here.tail rest
      else
        .error .notFound
    | some e =>
      if !e.isDirectory then
        .error .notADirectory
      else if !e.isExecutable then
        .error .permissionDenied
      else if step = "." then
        walkToLink t followLast jump here rest
      else if step = ".." then
        walkToLink t followLast jump here.tail rest
      else if maxName < step.utf8ByteSize then
        .error .nameTooLong
      else
        match t.kind? (step :: here) with
        | some (.link target) =>
          if rest.isEmpty && !followLast then .ok (step :: here) else jump here target rest
        | some _ => walkToLink t followLast jump (step :: here) rest
        | none => if rest.isEmpty then .ok (step :: here) else .error .notFound

/--
Leads a row of steps through the tree. A link leads where its target does; only a link at the end is
an end itself, unless it has to be followed as well.
-/
def walk (t : FileTree) (followLast : Bool) :
    Nat → Location → List String → Except FileFault Location
  | 0 => t.walkToLink followLast fun _ _ _ => .error .tooManyLinks
  | links + 1 => t.walkToLink followLast fun here target rest =>
    if target.isEmpty then
      .error .notFound
    else
      walk t followLast links (if Path.isAbsolute target then [] else here)
        (linkSteps target ++ rest)

def start (t : FileTree) (path : String) : Location :=
  if Path.isAbsolute path then [] else t.current

def pathFault? (path : String) : Option FileFault :=
  if path.isEmpty then some .notFound
  else if path.toList.contains '\x00' then some .nulInPath
  else if pathLimit ≤ path.utf8ByteSize then some .nameTooLong
  else none

def follow (t : FileTree) (path : String) (followLast : Bool) : Except FileFault Location :=
  match pathFault? path with
  | some fault => .error fault
  | none =>
    t.walk (followLast || Path.namesDirectory path) maxLinks (t.start path) (Path.steps path)

def find (t : FileTree) (path : String) (followLast : Bool) :
    Except FileFault (Location × Entry) := do
  let l ← t.follow path followLast
  match t.get? l with
  -- who is in a directory that has been taken away is in a directory all the same
  | none => if isGone l then .ok (l, Entry.root) else .error .notFound
  | some entry =>
    if Path.namesDirectory path && !entry.isDirectory then
      .error .notADirectory
    else
      .ok (l, entry)

def holder (t : FileTree) (path : String) : Except FileFault (Location × String) :=
  match pathFault? path with
  | some fault => .error fault
  | none =>
    let steps := Path.steps path
    let last := steps.getLast?.getD "."
    match t.walk true maxLinks (t.start path) steps.dropLast with
    | .error fault => .error fault
    | .ok l =>
      match t.get? l with
      | none => .error .notFound
      | some e =>
        if !e.isDirectory then .error .notADirectory
        else if !e.isExecutable then .error .permissionDenied
        else if maxName < last.utf8ByteSize then .error .nameTooLong
        else .ok (l, last)

def isFile (t : FileTree) (path : String) : Bool :=
  (t.find path true).toOption.any fun (_, e) => e.isFile

def isDirectory (t : FileTree) (path : String) : Bool :=
  (t.find path true).toOption.any fun (_, e) => e.isDirectory

def isLink (t : FileTree) (path : String) : Bool :=
  (t.find path false).toOption.any fun (_, e) => e.isLink

def isExecutable (t : FileTree) (path : String) : Bool :=
  (t.find path true).toOption.any fun (_, e) => e.isFile && e.isExecutable

def read (t : FileTree) (path : String) : Except FileFault ByteArray := do
  let (_, e) ← t.find path true
  if !e.isReadable then
    throw .permissionDenied
  match e.kind with
  | .file content => .ok content
  | .directory => .error .isADirectory
  | .link _ => .error .tooManyLinks

def canonical (t : FileTree) (path : String) : Except FileFault String := do
  let (l, _) ← t.find path true
  .ok (pathText l)

def enter (t : FileTree) (path : String) : Except FileFault FileTree := do
  let (l, e) ← t.find path true
  if !e.isDirectory then .error .notADirectory
  else if !e.isExecutable then .error .permissionDenied
  else .ok { t with current := l }

def isBelow (top l : Location) : Bool :=
  top.isSuffixOf l && decide (l ≠ top)

def below (t : FileTree) (top : Location) : List (String × Entry) :=
  (t.entries.entries.filter fun (l, _) => isBelow top l).map fun (l, entry) =>
    ("/".intercalate (l.take (l.length - top.length)).reverse, entry)

def names (t : FileTree) (directory : Location) : List String :=
  t.entries.keys.filterMap fun
    | name :: above => if above = directory then some name else none
    | [] => none

def mayChange (t : FileTree) (directory : Location) : Bool :=
  (t.get? directory).any Entry.isWritable

def mayClear (t : FileTree) (l : Location) : Bool :=
  t.mayChange l.tail && t.entries.keys.all fun other =>
    !isBelow l other || (t.get? other.tail).any Entry.isOpen

@[simp]
theorem get?_root (t : FileTree) : t.get? [] = some Entry.root := rfl

theorem get?_congr {t u : FileTree} (h : t.entries = u.entries) (l : Location) :
    t.get? l = u.get? l := by
  cases l with
  | nil => rfl
  | cons name above => simp [get?, h]

@[simp]
theorem get?_renew (t : FileTree) (l other : Location) : (t.renew l).get? other = t.get? other := by
  apply get?_congr
  simp only [renew]
  split <;> rfl

@[simp]
theorem get?_retire (t : FileTree) (taken : List Entry) (l : Location) :
    (t.retire taken).get? l = t.get? l :=
  get?_congr rfl l

theorem get?_place (t : FileTree) (l other : Location) (entry : Entry) (h : l ≠ []) :
    (t.place l entry).get? other = if other = l then some entry else t.get? other := by
  cases other with
  | nil => simp [get?, Ne.symm h]
  | cons name above =>
    simp only [place, get?_renew, get?_retire]
    simp [get?, Table.lookup_insert]

theorem get?_create (t : FileTree) (l other : Location) (kind : Entry.Kind) (mode : Nat)
    (h : l ≠ []) :
    (t.create l kind mode).get? other =
      if other = l then some { kind, number := t.nextNumber, mode, modified := t.now }
      else t.get? other := by
  rw [create, get?_place _ _ _ _ h]
  split
  · rfl
  · exact get?_congr rfl other

theorem get?_vacate (t : FileTree) (l other : Location) (h : l ≠ []) :
    (t.vacate l).get? other = if other = l then none else t.get? other := by
  cases other with
  | nil => simp [get?, Ne.symm h]
  | cons name above =>
    simp only [vacate, get?_renew, get?_retire]
    simp [get?, Table.lookup_erase]

end FileTree

end DartBundle
