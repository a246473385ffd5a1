import DartBundle.Script.Tool.Naming
/-!
This module contains the programs that take files and directories away: `rm` and `rmdir`.
-/

namespace DartBundle

namespace Script

namespace Tool

def isSlashedLink (t : FileTree) (word : Octets) : Bool :=
  word.getLast? = some '/' && t.isLink (Shell.path (Octets.trimSlashes word))

def isEmptyDirectory (t : FileTree) (l : Location) : Bool :=
  (t.names l).isEmpty

/--
Takes away what lies at a location that a path leads to: what lies in a directory before the
directory, and the directory only if nothing in it has failed.
-/
def clearAway (call : Call) : Nat → Octets → Location → Act Bool
  | 0, _, _ => return false
  | n + 1, path, l => do
    let refuse (path : Octets) (fault : FileFault) : Act Bool := do
      call.complainOf (phrase "cannot remove " (Octets.inQuotes path)) fault
      return false
    let t := (← get).files
    match t.get? l with
    | none => return true
    | some e =>
      let names := t.names l
      if e.isDirectory && !e.isReadable && !names.isEmpty then
        return ← refuse path .permissionDenied
      let mut fine := true
      for name in names.mergeSort fun a b => !Text.before b.toList a.toList do
        let inner := Octets.inDirectory path (Octets.ofText name)
        let innerFine ← if e.isExecutable then clearAway call n inner (name :: l)
          else refuse inner .permissionDenied
        fine := fine && innerFine
      if !fine then
        return false
      let t := (← get).files
      if !t.mayChange l.tail then
        refuse path .permissionDenied
      else if !isEmptyDirectory t l then
        refuse path (.other "Directory not empty")
      else
        modify fun s => { s with files := s.files.vacate l }
        return true

def removeOne (call : Call) (o : Options) (word : Octets) : Act Bool := do
  let deep := o.has 'r' || o.has 'R'
  let forced := o.has 'f'
  let quoted := Octets.inQuotes word
  let refuse (why : FileFault) : Act Bool := do
    call.complainOf (phrase "cannot remove " quoted) why
    return false
  let t := (← get).files
  let last := Octets.lastSegment word
  match t.find (Shell.path word) false with
  | .error fault =>
    if forced && (fault = .notFound || fault = .notADirectory) then return true else refuse fault
  | .ok (l, entry) =>
    let take : Act Bool := do
      if t.mayClear l then
        let _ ← Shell.onFiles (modify (·.vacateAll l))
        return true
      else
        clearAway call maxDepth word l
    if !entry.isDirectory then
      take
    else if !deep then
      refuse .isADirectory
    else if last = ['.'] || last = ['.', '.'] then do
      call.complain (phrase "refusing to remove '.' or '..' directory: skipping " quoted)
      return false
    else if l = [] then do
      call.complain (phrase "it is dangerous to operate recursively on " quoted)
      call.complain (Octets.ascii "use --no-preserve-root to override this failsafe")
      return false
    else if isSlashedLink t word then do
      modify fun s => { s with
        files := (s.files.names l).foldl (fun t name => t.vacateAll (name :: l)) s.files }
      if forced then return true else refuse .notADirectory
    else
      take

def rm : Tool := fun call =>
  call.withOptions "frR" 1 fun o =>
    if o.operands.isEmpty && !o.has 'f' then
      call.misuse 1 (Octets.ascii "missing operand")
    else
      Call.forEach o.operands (removeOne call o)

def keepingFault? (t : FileTree) (word : Octets) : Option FileFault :=
  let last := Octets.lastSegment word
  match t.find (Shell.path word) false with
  | .error fault => some fault
  | .ok (l, entry) =>
    if isSlashedLink t word then some (.other "Symbolic link not followed")
    else if last ≠ ['.'] && last ≠ ['.', '.'] && !t.mayChange l.tail then some .permissionDenied
    else if !entry.isDirectory then some .notADirectory
    else if last = ['.'] then some (.other "Invalid argument")
    else if last = ['.', '.'] || !isEmptyDirectory t l then some (.other "Directory not empty")
    else if l = [] then some .busy
    else none

def rmdir : Tool := fun call =>
  call.withOptions "" 1 fun o =>
    call.withOperands o fun first rest =>
      Call.forEach (first :: rest) fun word => do
        let t := (← get).files
        match keepingFault? t word, t.find (Shell.path word) false with
        | none, .ok (l, _) => do
          modify fun s => { s with files := s.files.vacate l }
          return true
        | some fault, _ => do
          call.complainOf (phrase "failed to remove " (Octets.inQuotes word)) fault
          return false
        | none, _ => return false

end Tool

end Script

end DartBundle
