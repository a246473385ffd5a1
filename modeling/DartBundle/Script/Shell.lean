import DartBundle.FileTree.Operations
import DartBundle.Script.Program
import DartBundle.Table
/-!
This module contains the state of a running script: its parameters and functions, the file tree it
works on, the channels that its descriptors lead to, and the processes it consists of. What belongs
to one process is a `Process`; what all of them share is added by `Shell`.
-/

namespace DartBundle

namespace Script

inductive Access
  | reading
  | writing
  | appending
  | both
  deriving DecidableEq

inductive Channel
  | source (rest : Octets)
  | sink (written : List Octets) (room : Option Nat)
  | file (number : Nat) (access : Access) (position : Nat)
  | directory
  | nothing

def Channel.written : Channel → Octets
  | .sink written _ => written.reverse.flatten
  | _ => []

structure Variable where
  value : Option Octets := none
  exported : Bool := false
  readOnly : Bool := false

inductive Kept
  | setting (name : Octets) (before : Option Variable)
  | options (before : Octets)

structure Process where
  number : Nat
  shell : Nat
  above : List Nat := []
  name : Octets
  command : Option Octets := none
  arguments : List Octets := []
  settings : Table Octets Variable := .empty
  functions : Table Octets Program := .empty
  found : Table Octets Octets := .empty
  /-- What is to be run for a signal, or, under 0, at the end; nothing if it is to be ignored. -/
  traps : Table Nat Octets := .empty
  pending : List Nat := []
  options : Octets := []
  descriptors : Table Nat Nat := .empty
  status : Nat := 0
  substituted : Nat := 0
  line : Nat := 1
  loops : Nat := 0
  kept : List (List Kept) := []
  optionIndex : Nat := 1
  optionOffset : Option Nat := none
  lastJob : Option Nat := none
  directory : Octets := ['/']
  tracing : Bool := false
  depth : Nat := 0
  interrupted : Option Nat := none

inductive Ending
  | exited (status : Nat)
  | killed (signal : Nat)

def Ending.status : Ending → Nat
  | .exited status => status
  | .killed signal => 128 + signal

structure Job where
  process : Process
  owner : Nat
  seat : Seat
  body : Program
  start : Nat
  ending : Ending := .exited 0
  finish : Option Nat := none
  awaited : Bool := false

structure Shell extends Process where
  files : FileTree
  channels : List Channel := []
  jobs : List Job := []
  posted : List (Nat × Nat) := []
  nextNumber : Nat

inductive Stop
  | exit
  | fault
  | signal (number : Nat)
  | leave (loops : Nat)
  | next (loops : Nat)
  | returned
  | exhausted
  deriving DecidableEq

abbrev Act := EStateM Stop Shell

namespace Shell

def mask (_ : Shell) : Nat := 0o022

def setStatus (status : Nat) : Act Unit :=
  modify fun s => { s with status }

def openChannel (channel : Channel) : Act Nat := do
  let s ← get
  set { s with channels := s.channels ++ [channel] }
  return s.channels.length

def channel? (s : Shell) (descriptor : Nat) : Option Channel :=
  (s.descriptors.lookup descriptor).bind fun number => s.channels[number]?

def setChannel (descriptor : Nat) (channel : Channel) : Act Unit :=
  modify fun s =>
    match s.descriptors.lookup descriptor with
    | some number => { s with channels := s.channels.set number channel }
    | none => s

def connect (descriptor number : Nat) : Act Unit :=
  modify fun s => { s with descriptors := s.descriptors.insert descriptor number }

def idleSignals : List Nat :=
  [0, 17, 18, 19, 20, 21, 22, 23, 28]

def deliver (signal : Nat) : Act Unit := do
  match (← get).traps.lookup signal, decide (signal = 9) with
  | some [], false => pure ()
  | some _, false => modify fun s => { s with pending := s.pending ++ [signal] }
  | _, _ =>
    if !idleSignals.contains signal then
      throw (.signal signal)

def contentFrom (t : FileTree) (number position : Nat) : ByteArray :=
  match t.entry? number with
  | some { kind := .file content, .. } => content.extract position content.size
  | _ => .empty

def overwriteAt (position : Nat) (octets content : ByteArray) : ByteArray :=
  let gap : ByteArray := ⟨Array.replicate (position - content.size) 0⟩
  content.extract 0 position ++ gap ++ octets ++
    content.extract (position + octets.size) content.size

def onFiles (operation : Disk α) : Act (Except FileFault α) := do
  let s ← get
  match operation s.files with
  | .ok a files => do
    set { s with files }
    return .ok a
  | .error fault files => do
    set { s with files }
    return .error fault

def writeChannel (number : Nat) (octets : Octets) : Act Bool := do
  let s ← get
  let put (channel : Channel) : Act Unit :=
    modify fun s => { s with channels := s.channels.set number channel }
  match s.channels[number]? with
  | some (.sink written none) =>
    put (.sink (octets :: written) none)
    return true
  | some (.sink written (some room)) =>
    put (.sink (octets.take room :: written) (some (room - octets.length)))
    if room < octets.length then
      deliver 13
      return false
    else
      return true
  | some (.file _ .reading _) => return false
  | some (.file file access position) =>
    let bytes := octets.toBytes
    let _ ← onFiles (Disk.modifyFile file fun content =>
      if access = .appending then content ++ bytes else overwriteAt position bytes content)
    put (.file file access (position + bytes.size))
    return true
  | some .nothing => return true
  | _ => return false

def write (descriptor : Nat) (octets : Octets) : Act Bool := do
  match (← get).descriptors.lookup descriptor with
  | some number => writeChannel number octets
  | none => return false

def print (octets : Octets) : Act Bool :=
  if octets.isEmpty then return true else write 1 octets

def complain (text : Octets) : Act Unit := do
  let _ ← write 2 (text ++ ['\n'])

def complainHere (text : Octets) : Act Unit := do
  let s ← get
  let command := match s.command with
    | some command => command ++ [':', ' ']
    | none => []
  complain (s.name ++ [':', ' '] ++ Octets.ofNat s.line ++ [':', ' '] ++ command ++ text)

def fault (text : Octets) : Act α := do
  complainHere text
  setStatus 2
  throw .fault

def available (descriptor : Nat) : Act (Option Octets) := do
  let s ← get
  match s.channel? descriptor with
  | some (.source rest) => return some rest
  | some .nothing => return some []
  | some (.file file access position) =>
    if access = .reading || access = .both then
      return some (Octets.ofBytes (contentFrom s.files file position))
    else
      return none
  | _ => return none

def skip (descriptor count : Nat) : Act Unit := do
  match (← get).channel? descriptor with
  | some (.source rest) => setChannel descriptor (.source (rest.drop count))
  | some (.file file access position) =>
    setChannel descriptor (.file file access (position + count))
  | _ => pure ()

def readAll (descriptor : Nat) : Act (Option Octets) := do
  match ← available descriptor with
  | some octets =>
    skip descriptor octets.length
    return some octets
  | none => return none

def readLine (descriptor : Nat) : Act (Octets × Bool) := do
  let s ← get
  let cut (octets : Octets) : Act (Octets × Bool) := do
    let (line, behind) := octets.cutLine
    skip descriptor (line.length + if behind.isSome then 1 else 0)
    return (line, behind.isSome)
  match s.channel? descriptor with
  | some (.file file _ position) =>
    let content := contentFrom s.files file position
    match content.data.findIdx? (· = 10) with
    | some n => cut (Octets.ofBytes (content.extract 0 (n + 1)))
    | none => cut (Octets.ofBytes content)
  | _ => do
    match ← available descriptor with
    | some octets => cut octets
    | none => return ([], false)

def setting (s : Shell) (name : Octets) : Variable :=
  (s.settings.lookup name).getD {}

def setting? (s : Shell) (name : String) : Option Octets :=
  (s.settings.lookup name.toList).bind (·.value)

def putVariable (name : Octets) (changed : Variable) : Act Unit :=
  modify fun s => { s with settings := s.settings.insert name changed }

def restartOptions (index : Nat) : Act Unit :=
  modify fun s => { s with optionIndex := max index 1, optionOffset := none }

def natural (word : Octets) : Act Nat := do
  let illegal {α : Type} : Act α := fault (Octets.ascii "Illegal number: " ++ word)
  match Octets.takeInt? (some 10) word with
  | some (n, rest) =>
    if rest.all Octets.isSpace && 0 ≤ n && n < (Nat.pow 2 31 : Nat) then return n.toNat
    else illegal
  | none => illegal

def setVariable (name value : Octets) : Act Unit := do
  let s ← get
  let before := s.setting name
  if before.readOnly then
    fault (name ++ Octets.ascii ": is read only")
  if name = Octets.ascii "OPTIND" then
    restartOptions (← natural value)
  if name = Octets.ascii "PATH" then
    modify fun s => { s with found := .empty }
  putVariable name
    { before with value := some value, exported := before.exported || s.options.contains 'a' }

def unsetVariable (name : Octets) : Act Unit := do
  let s ← get
  if (s.setting name).readOnly then
    fault (name ++ Octets.ascii ": is read only")
  set { s with settings := s.settings.erase name }

def separators (s : Shell) : Octets :=
  (s.setting? "IFS").getD [' ', '\t', '\n']

def value? (s : Shell) (name : Octets) : Option Octets :=
  match name with
  | ['#'] => some (Octets.ofNat s.arguments.length)
  | ['?'] => some (Octets.ofNat s.status)
  | ['$'] => some (Octets.ofNat s.shell)
  | ['!'] => s.lastJob.map Octets.ofNat
  | ['-'] => some s.options
  | name =>
    match Octets.toNat? name with
    | some 0 => some s.name
    | some n => s.arguments[n - 1]?
    | none => (s.settings.lookup name).bind (·.value)

def path (octets : Octets) : String :=
  octets.toText

def ensuring (body : Act α) (finish : Shell → Shell) : Act α := fun s =>
  match body s with
  | .ok a s => .ok a (finish s)
  | .error stop s => .error stop (finish s)

def stopping (body : Act Unit) : Act (Option Stop) := fun s =>
  match body s with
  | .ok _ s => .ok none s
  | .error .exhausted s => .error .exhausted s
  | .error stop s => .ok (some stop) s

def collect : Act Unit := do
  let s ← get
  if !s.posted.isEmpty then
    let (mine, others) := s.posted.partition fun (number, _) => number = s.number
    set { s with posted := others }
    mine.reverse.forM fun (_, signal) => deliver signal

def dropChannels (count : Nat) (s : Shell) : Shell :=
  let needed :=
    s.descriptors.entries.foldl (fun count (_, number) => max count (number + 1)) count
  if s.jobs.all fun job => job.finish.isSome then
    { s with channels := s.channels.take needed }
  else
    s

/--
Runs something in a process of its own. What it does to files and channels stays, all else is as
before when it has ended.
-/
def inProcess (body : Act Unit) : Act Ending := do
  let outer ← get
  set { outer with
    number := outer.nextNumber, nextNumber := outer.nextNumber + 1
    above := outer.number :: outer.above, pending := [] }
  let stop ← stopping body
  let inner ← get
  set { inner with
    toProcess := outer.toProcess
    files := inner.files.seatedAt outer.files.seat }
  modify (dropChannels outer.channels.length)
  collect
  match stop with
  | some (.signal number) => return .killed number
  | _ => return .exited (inner.status % 256)

def capturing (room : Option Nat) (body : Act Unit) : Act (Octets × Ending) := do
  let outer ← get
  let number ← openChannel (.sink [] room)
  let ending ← inProcess do
    connect 1 number
    body
  let s ← get
  let printed := (s.channels[number]?.map Channel.written).getD []
  set (dropChannels outer.channels.length s)
  return (printed, ending)

end Shell

end Script

end DartBundle
