import DartBundle.Script.Tool.Creation
/-!
This module contains the programs that copy and move files: `cp` and `mv`.
-/

namespace DartBundle

namespace Script

namespace Tool

def complainSame (call : Call) (source target : Octets) : Act Bool := do
  call.complain (Octets.inQuotes source ++ phrase " and " (Octets.inQuotes target)
    " are the same file")
  return false

def copyFile (call : Call) (o : Options) (target : Octets) (content : ByteArray)
    (original : Entry) : Act Bool := do
  let t := (← get).files
  let found := t.find (Shell.path target) true
  let mask := (← get).mask
  if found.toOption.isNone && t.isLink (Shell.path target) then
    call.complain (phrase "not writing through dangling symlink " (Octets.inQuotes target))
    return false
  if o.has 'f' && found.toOption.any fun (_, e) => !e.isWritable then
    if !(← call.succeeds (phrase "cannot remove " (Octets.inQuotes target))
        (Disk.remove (Shell.path target))) then
      return false
  call.succeeds (phrase "cannot create regular file " (Octets.inQuotes target)) do
    if Path.namesDirectory (Shell.path target) && found.toOption.isNone then
      throw .notADirectory
    let mode := original.mode &&& 0o777 &&& (0o777 - mask)
    let (l, e) ← Disk.openFile mode (Shell.path target)
    if l ≠ Shell.nullDevice then
      Disk.modifyFile e.number fun _ => content

def copyLink (call : Call) (target : Octets) (text : String) : Act Bool :=
  call.succeeds (phrase "cannot create symbolic link " (Octets.inQuotes target)) do
    if (locationOf? (← get) target).isSome then
      Disk.remove (Shell.path target)
    Disk.makeLink text (Shell.path target)

def leadsTo (t : FileTree) (source : Octets) (e other : Entry) : Bool :=
  e.isLink && !other.isLink && (t.find (Shell.path source) true).toOption.any fun (_, found) =>
    found.number = other.number

/--
A directory that is made by copying another one into itself, where it lies and how it is called.
-/
structure Nested where
  place : Location
  source : Octets
  target : Octets

def copyEntry (call : Call) (o : Options) (nested : Option Nested) :
    Nat → Octets → Octets → Act Bool
  | 0, _, _ => return false
  | n + 1, source, target => do
    let t := (← get).files
    let deep := o.has 'r' || o.has 'R'
    match t.find (Shell.path source) (!deep) with
    | .error fault => do
      call.complainOf (phrase "cannot stat " (Octets.inQuotes source)) fault
      return false
    | .ok (l, entry) =>
      let found := t.find (Shell.path target) true
      let isDirectory := found.toOption.any fun (_, e) => e.isDirectory
      let occupied := (locationOf? t target).isSome
      if !entry.isDirectory && isDirectory then
        call.complain (phrase "cannot overwrite directory " (Octets.inQuotes target)
          " with non-directory")
        return false
      if let .error fault := found then
        if fault ≠ .notFound then
          call.complainOf (phrase "cannot stat " (Octets.inQuotes target)) fault
          return false
      let other := if entry.isLink then t.find (Shell.path target) false else found
      if !entry.isDirectory && other.toOption.any fun (_, e) =>
          e.number = entry.number || leadsTo t source entry e then
        return ← complainSame call source target
      match entry.kind with
      | .file content =>
        if entry.isReadable then
          copyFile call o target content entry
        else
          call.complainOf (phrase "cannot open " (Octets.inQuotes source) " for reading")
            .permissionDenied
          return false
      | .link text => copyLink call target text
      | .directory =>
        if !deep then
          call.complain (phrase "-r not specified; omitting directory " (Octets.inQuotes source))
          return false
        if !isDirectory && (found.toOption.isSome || occupied) then
          call.complain (Octets.ascii "cannot overwrite non-directory " ++
            Octets.inQuotes target ++ phrase " with directory " (Octets.inQuotes source))
          return false
        if let some nested := nested.filter fun nested => nested.place = l then
          call.complain (Octets.ascii "cannot copy a directory, " ++
            Octets.inQuotes nested.source ++
            phrase ", into itself, " (Octets.inQuotes nested.target))
          return false
        let place := (t.follow (Shell.path target) true).toOption
        let nested := nested.or ((place.filter fun other => l.isSuffixOf other).map
          fun place => { place, source, target })
        let mode := entry.mode &&& 0o777 &&& (0o777 - (← get).mask)
        if !isDirectory then
          if !(← call.succeeds (phrase "cannot create directory " (Octets.inQuotes target))
              (Disk.makeDirectoryAs (mode ||| 0o700) (Shell.path target))) then
            return false
        let t := (← get).files
        let names := ((t.names l).map Octets.ofText).mergeSort fun a b => !Text.before b a
        let mut succeeded := true
        if !entry.isReadable then
          call.complainOf (phrase "cannot access " (Octets.inQuotes source)) .permissionDenied
          succeeded := false
        for name in if entry.isReadable then names else [] do
          let copied ← copyEntry call o nested n (Octets.inDirectory source name)
            (Octets.inDirectory target name)
          succeeded := succeeded && copied
        if !isDirectory && mode &&& 0o700 ≠ 0o700 then
          let _ ← Shell.onFiles (Disk.setMode mode (Shell.path target))
        return succeeded

def cp : Tool := fun call =>
  call.withOptions "frR" 1 fun o => do
    match ← destination call o false with
    | none => return 1
    | some (words, place) =>
      Call.forEach words fun word =>
        let target := match Octets.lastSegment word, place with
          | ['.', '.'], .directory directory => directory
          | _, place => place.place word
        copyEntry call o none maxDepth word target

def moveOne (call : Call) (word target : Octets) : Act Bool := do
  let t := (← get).files
  let last := Octets.lastSegment word
  let moving := phrase "cannot move " (Octets.inQuotes word) " to " ++ Octets.inQuotes target
  let refuse (fault : FileFault) : Act Bool := do
    call.complainOf moving fault
    return false
  let complain (text : Octets) : Act Bool := do
    call.complain text
    return false
  match t.find (Shell.path word) false with
  | .error fault => do
    call.complainOf (phrase "cannot stat " (Octets.inQuotes word)) fault
    return false
  | .ok (l, entry) =>
    if last = ['.'] || last = ['.', '.'] || l = [] then
      refuse .busy
    else if isSlashedLink t word then
      refuse .notADirectory
    else
      match t.holder (Shell.path target), locationOf? t (Octets.trimSlashes target) with
      | .error fault, _ =>
        if fault ≠ .notFound then do
          call.complainOf (phrase "cannot stat " (Octets.inQuotes target)) fault
          return false
        else if target.isEmpty then
          complain (phrase "cannot overwrite directory " (Octets.inQuotes target)
            " with non-directory")
        else
          refuse fault
      | .ok (directory, name), there =>
        let place := name :: directory
        let isReached := (there.bind t.get?).any fun other =>
          !other.isDirectory && leadsTo t word entry other
        if there = some l || isReached || (!entry.isDirectory &&
            (t.numbered entry.number).any fun (other, _) => there = some other) then
          complainSame call word target
        else if entry.isDirectory && l.isSuffixOf place then
          complain (phrase "cannot move " (Octets.inQuotes word)
            " to a subdirectory of itself, " ++ Octets.inQuotes target)
        else
          match entry.kind, t.kind? place with
          | .directory, some .directory =>
            if isEmptyDirectory t place then call.succeeds moving (Disk.relocate l place)
            else complain (phrase "cannot overwrite " (Octets.inQuotes target)
              ": Directory not empty")
          | .directory, some _ =>
            complain (Octets.ascii "cannot overwrite non-directory " ++
              Octets.inQuotes target ++ phrase " with directory " (Octets.inQuotes word))
          | _, some .directory =>
            complain (phrase "cannot overwrite directory " (Octets.inQuotes target)
              " with non-directory")
          | _, _ =>
            if !entry.isDirectory && Path.namesDirectory (Shell.path target) then
              refuse .notADirectory
            else
              call.succeeds moving (Disk.relocate l place)

def mv : Tool := fun call =>
  call.withOptions "f" 1 fun o => do
    match ← destination call o false with
    | none => return 1
    | some (words, place) => Call.forEach words fun word => moveOne call word (place.place word)

end Tool

end Script

end DartBundle
