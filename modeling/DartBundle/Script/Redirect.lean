import DartBundle.Script.Shell
/-!
This module contains redirections: where a descriptor leads to when a command runs.
-/

namespace DartBundle

namespace Script

def describeFault : FileFault → String
  | .notFound => "No such file or directory"
  | .alreadyExists => "File exists"
  | .notADirectory => "Not a directory"
  | .isADirectory => "Is a directory"
  | .permissionDenied => "Permission denied"
  | .tooManyLinks => "Too many levels of symbolic links"
  | .busy => "Device or resource busy"
  | .notExecutable => "Exec format error"
  | .nameTooLong => "File name too long"
  | .notText => "Invalid or incomplete multibyte or wide character"
  | .other text => text
  | fault => fault.message

namespace Shell

def shellFault (nowhere : String) (fault : FileFault) : Octets :=
  Octets.ofText <| match fault with
    | .notFound => nowhere
    | .notADirectory => nowhere
    | fault => describeFault fault

def connectNew (descriptor : Nat) (channel : Channel) : Act Unit := do
  connect descriptor (← openChannel channel)

def duplicate (descriptor : Nat) (other : Option Nat) : Act Unit := do
  match other with
  | none => modify fun s => { s with descriptors := s.descriptors.erase descriptor }
  | some other =>
    match (← get).descriptors.lookup other with
    | some number => connect descriptor number
    | none =>
      if other ≠ descriptor then
        fault (Octets.ofNat other ++ Octets.ascii ": Bad file descriptor")

def describedBy? (path : Octets) : Option Nat :=
  match String.ofList path with
  | "/dev/stdin" => some 0
  | "/dev/stdout" => some 1
  | "/dev/stderr" => some 2
  | _ =>
    if (Octets.ascii "/dev/fd/").isPrefixOf path then Octets.toNat? (path.drop 8)
    else if (Octets.ascii "/proc/self/fd/").isPrefixOf path then Octets.toNat? (path.drop 14)
    else none

def described? (s : Shell) (path : Octets) : Option (Option Channel) :=
  (describedBy? path).map fun descriptor =>
    (s.descriptors.lookup descriptor).bind fun number => s.channels[number]?

def nullDevice : Location :=
  ["null", "dev"]

def openForReading (word : Octets) : Act (Except FileFault Channel) := do
  match (← get).files.find (path word) true with
  | .ok (l, e) =>
    if !e.isReadable then
      return .error .permissionDenied
    else if e.isDirectory then
      return .ok .directory
    else
      return .ok (if l = nullDevice then .nothing else .file e.number .reading 0)
  | .error fault => return .error fault

def openFile (wanted : Nat) (word : Octets) : Act (Except FileFault (Location × Entry)) := do
  let mask := (← get).mask
  onFiles (Disk.openFile (wanted &&& (0o777 - mask)) (path word))

def openForWriting (access : Access) (emptied guarded : Bool) (word : Octets) :
    Act (Except FileFault Channel) := do
  let t := (← get).files
  let found := (t.find (path word) true).toOption.map (·.1)
  if guarded && t.isFile (path word) && found ≠ nullDevice then
    return .error .alreadyExists
  match ← openFile 0o666 word with
  | .error fault => return .error fault
  | .ok (l, e) =>
    if l = nullDevice then
      return .ok .nothing
    else
      if emptied then
        let _ ← onFiles (Disk.modifyFile e.number fun _ => .empty)
      return .ok (.file e.number access 0)

def redirect (descriptor : Nat) (redirect : Redirect) (word : Octets) : Act Unit := do
  let lead (channel : Except FileFault Channel) (start nowhere : String) : Act Unit := do
    match channel with
    | .ok channel => connectNew descriptor channel
    | .error reason =>
      fault (Octets.ascii start ++ word ++ [':', ' '] ++ shellFault nowhere reason)
  let create (access : Access) (emptied guarded : Bool) : Act Unit := do
    match describedBy? word with
    | some other => duplicate descriptor (some other)
    | none =>
      lead (← openForWriting access emptied guarded word) "cannot create " "Directory nonexistent"
  match redirect with
  | .document => connectNew descriptor (.source word)
  | .duplicate _ => duplicate descriptor (Octets.toNat? word)
  | .read =>
    match describedBy? word with
    | some other => duplicate descriptor (some other)
    | none => lead (← openForReading word) "cannot open " "No such file"
  | .write => create .writing true ((← get).options.contains 'C')
  | .overwrite => create .writing true false
  | .append => create .appending false false
  | .both => create .both false false

def redirecting (redirections : List (Nat × Redirect × Octets)) (lasting : Bool) (body : Act Unit) :
    Act Bool := do
  if redirections.isEmpty then
    body
    return true
  else
    let outer ← get
    let putBack (table : Table Nat Nat) (descriptor : Nat) : Table Nat Nat :=
      match outer.descriptors.lookup descriptor with
      | some number => table.insert descriptor number
      | none => table.erase descriptor
    let restore (s : Shell) : Shell :=
      if lasting then
        s
      else
        dropChannels outer.channels.length { s with
          descriptors := (redirections.map (·.1)).foldl putBack s.descriptors }
    ensuring (do
      match ← stopping (redirections.forM fun (descriptor, kind, word) =>
          redirect descriptor kind word) with
      | none =>
        body
        return true
      | some .fault => return false
      | some stop => throw stop) restore

end Shell

end Script

end DartBundle
