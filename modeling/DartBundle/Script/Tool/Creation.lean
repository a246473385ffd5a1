import DartBundle.Script.Tool.Removal
/-!
This module contains the programs that make files, directories and links: `mkdir`, `touch` and `ln`.
-/

namespace DartBundle

namespace Script

namespace Tool

def pathsAlong (path : Octets) : List Octets :=
  let step (state : List Octets × Octets) (c : Char) : List Octets × Octets :=
    let (found, front) := state
    if c = '/' && front.getLast?.any (· ≠ '/') then (front :: found, front ++ [c])
    else (found, front ++ [c])
  let (found, _) := (Octets.trimSlashes path).foldl step ([], [])
  (path :: found).reverse

def mkdir : Tool := fun call =>
  call.withOptions "p" 1 fun o =>
    call.withOperands o fun first rest =>
      let complaint (path : Octets) : Octets :=
        phrase "cannot create directory " (Octets.inQuotes path)
      let make (path : Octets) : Act Bool := do
        let mask := (← get).mask
        call.succeeds (complaint path) (Disk.makeDirectoryAs (0o777 - mask) (Shell.path path))
      Call.forEach (first :: rest) fun word => do
        if !o.has 'p' then
          return ← make word
        for path in pathsAlong word do
          let found := (← get).files.find (Shell.path path) true
          if let some (_, e) := found.toOption.filter fun (_, e) => e.isDirectory then
            if !e.isExecutable && path ≠ Octets.trimSlashes word && path ≠ word then
              call.complainOf (complaint path) .permissionDenied
              return false
          else
            if found.toOption.isSome && path ≠ word then
              call.complainOf (complaint path) .notADirectory
              return false
            if !(← make path) then
              return false
        return true

def touch : Tool := fun call =>
  call.withOptions "" 1 fun o => do
    if o.operands.isEmpty then
      return ← call.misuse 1 (Octets.ascii "missing file operand")
    let note (e : Entry) : Act Bool := do
      modify fun s => { s with files := s.files.setTime e.number s.files.now }
      return true
    Call.forEach o.operands fun word => do
      let refuse (front : String) (fault : FileFault) : Act Bool := do
        call.complainOf (phrase front (Octets.inQuotes word)) fault
        return false
      match (← get).files.find (Shell.path word) true with
      | .ok (_, e) => note e
      | .error .notFound =>
        match ← Shell.openFile 0o666 word with
        | .ok (_, e) => note e
        | .error .isADirectory => refuse "setting times of " .notFound
        | .error fault => refuse "cannot touch " fault
      | .error fault => refuse "cannot touch " fault

inductive Destination
  | directory (path : Octets)
  | path (path : Octets)

def destination (call : Call) (o : Options) (alone : Bool) :
    Act (Option (List Octets × Destination)) := do
  let t := (← get).files
  match o.operands with
  | [] => do
    let _ ← call.misuse 1 (Octets.ascii "missing file operand")
    return none
  | [word] =>
    if alone then
      return some ([word], .directory ['.'])
    else do
      let _ ← call.misuse 1
        (phrase "missing destination file operand after " (Octets.inQuotes word))
      return none
  | words => do
    let last := (words.getLast?).getD []
    if t.isDirectory (Shell.path last) then
      return some (words.dropLast, .directory last)
    else
      match words, t.find (Shell.path last) true with
      | [word, path], _ => return some ([word], .path path)
      | _, .error fault => do
        call.complainOf (phrase "target " (Octets.inQuotes last)) fault
        return none
      | _, .ok _ => do
        call.complainOf (phrase "target " (Octets.inQuotes last)) .notADirectory
        return none

def Destination.place (d : Destination) (word : Octets) : Octets :=
  match d with
  | .directory top => Octets.inDirectory top (Octets.lastSegment word)
  | .path place => place

def locationOf? (t : FileTree) (word : Octets) : Option Location :=
  (t.find (Shell.path word) false).toOption.map (·.1)

def linkOne (call : Call) (o : Options) (word place : Octets) : Act Bool := do
  let t := (← get).files
  let symbolic := o.has 's'
  let refuse (text : Octets) (fault : FileFault) : Act Bool := do
    call.complainOf text fault
    return false
  let source := t.find (Shell.path word) false
  let target := locationOf? t place
  match source, symbolic with
  | .error fault, false => refuse (phrase "failed to access " (Octets.inQuotes word)) fault
  | .ok (_, { kind := .directory, .. }), false => do
    call.complain (phrase "" (Call.shown word) ": hard link not allowed for directory")
    return false
  | _, _ =>
    let mut removed : Except FileFault Unit := .ok ()
    if o.has 'f' then
      if let .error fault := t.find (Shell.path place) false then
        if fault ≠ .notFound && fault ≠ .notADirectory then
          return ← refuse (phrase "failed to access " (Octets.inQuotes place)) fault
      if target.isSome then
        if target = source.toOption.map (·.1) then
          call.complain (Octets.inQuotes word ++ phrase " and " (Octets.inQuotes place)
            " are the same file")
          return false
        if t.isDirectory (Shell.path place) && (target.bind t.kind?) = some .directory then
          call.complain (phrase "" (Call.shown place) ": cannot overwrite directory")
          return false
        removed ← Shell.onFiles (Disk.remove (Shell.path place))
    let removal := removed
    let operation : Disk Unit := do
      if let .error fault := removal then
        throw fault
      if symbolic then
        if word.isEmpty || (Path.namesDirectory (Shell.path place) && target.isNone) then
          throw .notFound
        Disk.makeLink (Shell.path word) (Shell.path place)
      else
        match source with
        | .ok (_, entry) => Disk.addName entry (Shell.path place)
        | .error fault => throw fault
    match ← Shell.onFiles operation with
    | .ok _ => return true
    | .error fault =>
      let what := if symbolic then "symbolic link " else "hard link "
      let isTold := if symbolic then word.isEmpty || fault = .nameTooLong
        else fault ≠ .alreadyExists
      let behind := if isTold then
          phrase (if symbolic then " -> " else " => ") (Octets.inQuotes word)
        else
          []
      refuse (phrase s!"failed to create {what}" (Octets.inQuotes place) ++ behind) fault

def ln : Tool := fun call =>
  call.withOptions "fs" 1 fun o => do
    match ← destination call o true with
    | none => return 1
    | some (words, place) => Call.forEach words fun word => linkOne call o word (place.place word)

end Tool

end Script

end DartBundle
