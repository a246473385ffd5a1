import DartBundle.Script.Tool.Mode
import DartBundle.Script.Tool.Removal
/-!
This module contains the programs that tell what lies in the file tree: `ls`, `find` and `stat`.
-/

namespace DartBundle

namespace Script

namespace Tool

structure Listed where
  name : Octets
  location : Location
  entry : Entry

def entrySize (e : Entry) : Nat :=
  match e.kind with
  | .directory => 4096
  | .file content => content.size
  | .link target => target.utf8ByteSize

def roomSize (e : Entry) : Nat :=
  if e.isLink then 0 else (entrySize e + 4095) / 4096 * 4096

def kindLetter (l : Location) (e : Entry) : Char :=
  match e.kind with
  | .directory => 'd'
  | .file _ => if l = Shell.nullDevice then 'c' else '-'
  | .link _ => 'l'

def linkCount (t : FileTree) (l : Location) (e : Entry) : Nat :=
  if e.isDirectory then
    2 + ((t.names l).filter fun name => t.kind? (name :: l) = some .directory).length
  else
    (t.numbered e.number).length

def inListOrder (listed : List Listed) : List Listed :=
  listed.mergeSort fun a b => !Text.before b.name a.name

def monthAndDay (number : Nat) : Nat × Nat :=
  let ofEra := (number + 719468) % 146097
  let year := (ofEra - ofEra / 1460 + ofEra / 36524 - ofEra / 146096) / 365
  let ofYear := ofEra - (365 * year + year / 4 - year / 100)
  let month := (5 * ofYear + 2) / 153
  ((month + 2) % 12, ofYear - (153 * month + 2) / 5 + 1)

def monthNames : List String :=
  ["Jan", "Feb", "Mar", "Apr", "May", "Jun", "Jul", "Aug", "Sep", "Oct", "Nov", "Dec"]

def listedTime (time : Nat) : Octets :=
  let seconds := time / 1000
  let (month, day) := monthAndDay (seconds / 86400)
  let two (n : Nat) : Octets := (Octets.ofNat (100 + n % 100)).drop 1
  Octets.ascii (monthNames[month]?.getD "") ++ ' ' :: Octets.padLeft 2 (Octets.ofNat day) ++
    ' ' :: two (seconds / 3600 % 24) ++ ':' :: two (seconds / 60 % 60)

def listingText (t : FileTree) (long : Bool) (listed : List Listed) : Octets :=
  let column (f : Listed → Nat) (e : Listed) : Octets :=
    let texts := listed.map fun e => Octets.ofNat (f e)
    Octets.padLeft ((texts.map List.length).foldl max 0) (Octets.ofNat (f e)) ++ [' ']
  listed.flatMap fun e =>
    if long then
      let behind := match e.entry.kind with
        | .link target => e.name ++ Octets.ascii " -> " ++ Octets.ofText target
        | _ => e.name
      kindLetter e.location e.entry :: modeText e.entry.mode ++ ' ' ::
        column (fun e => linkCount t e.location e.entry) e ++ Octets.ascii "root root " ++
        column (fun e => entrySize e.entry) e ++ listedTime (t.changeTime e.entry) ++
        ' ' :: behind ++ ['\n']
    else
      e.name ++ ['\n']

def entriesOf (t : FileTree) (l : Location) : List Listed :=
  inListOrder <| (t.names l).filterMap fun name =>
    (t.get? (name :: l)).map fun entry => ⟨Octets.ofText name, name :: l, entry⟩

def directoryEntries (t : FileTree) (o : Options) (l : Location) : List Listed :=
  if o.has 'a' then
    let dots : List Listed := [(['.'], l), (['.', '.'], l.drop 1)].filterMap fun (name, l) =>
      (t.get? l).map fun entry => ⟨name, l, entry⟩
    inListOrder (dots ++ entriesOf t l)
  else
    (entriesOf t l).filter fun e => e.name.head? ≠ some '.'

def listDirectories (call : Call) (o : Options) (headed : Bool) : Bool → List Listed → Act Nat
  | _, [] => return 0
  | started, directory :: rest => do
    let t := (← get).files
    if !directory.entry.isReadable then
      call.complainOf (phrase "cannot open directory " (Octets.inQuotes directory.name))
        .permissionDenied
      return max 2 (← listDirectories call o headed started rest)
    let listed := directoryEntries t o directory.location
    let heading :=
      if headed then (if started then ['\n'] else []) ++ directory.name ++ [':', '\n'] else []
    let room := (listed.map fun e => roomSize e.entry).foldl (· + ·) 0
    let total := if o.has 'l' then phrase "total " (Octets.ofNat (room / 1024)) "\n" else []
    let _ ← Shell.print (heading ++ total ++ listingText t (o.has 'l') listed)
    listDirectories call o headed true rest

def ls : Tool := fun call =>
  call.withOptions "al" 2 fun o => do
    let t := (← get).files
    let words := if o.operands.isEmpty then [['.']] else o.operands
    let mut listed : List Listed := []
    let mut status := 0
    for word in words do
      let found := t.find (Shell.path word) (!o.has 'l')
      match found.toOption.or (t.find (Shell.path word) false).toOption, found with
      | some (l, entry), _ => listed := listed ++ [⟨word, l, entry⟩]
      | none, .error fault =>
        let what := if o.operands.isEmpty then "cannot open directory " else "cannot access "
        call.complainOf (phrase what (Octets.inQuotes word)) fault
        status := 2
      | none, .ok _ => pure ()
    let (directories, files) := (inListOrder listed).partition (·.entry.isDirectory)
    let _ ← Shell.print (listingText t (o.has 'l') files)
    let listedStatus ← listDirectories call o (1 < words.length) (!files.isEmpty) directories
    return max status listedStatus

def visit (call : Call) (kinds : Octets) : Nat → Listed → Act Bool
  | 0, _ => return false
  | n + 1, e => do
    let shown := e.entry.isFile && kinds.contains 'f' || e.entry.isLink && kinds.contains 'l' ||
      e.entry.isDirectory && kinds.contains 'd'
    if shown then
      let _ ← Shell.print (e.name ++ ['\n'])
    if e.entry.isDirectory && !e.entry.isReadable then
      call.complainOf (Octets.inMarks e.name) .permissionDenied
      return false
    let t := (← get).files
    let mut succeeded := true
    for inner in if e.entry.isDirectory then entriesOf t e.location else [] do
      let visited ← visit call kinds n { inner with name := Octets.inDirectory e.name inner.name }
      succeeded := succeeded && visited
    return succeeded

def find : Tool := fun call => do
  let (paths, test) := call.arguments.span fun word => word.head? ≠ some '-'
  let search (kinds : Octets) : Act Nat :=
    Call.forEach (if paths.isEmpty then [['.']] else paths) fun path => do
      match (← get).files.find (Shell.path path) false with
      | .ok (l, entry) => visit call kinds maxDepth ⟨path, l, entry⟩
      | .error fault => do
        call.complainOf (Octets.inMarks path) fault
        return false
  match test with
  | [] => search ['d', 'f', 'l']
  | [['-', 't', 'y', 'p', 'e'], kinds] => search (List.splitOn ',' kinds).flatten
  | word :: _ => call.fail 1 (phrase "unknown predicate `" word "'")

def statText (t : FileTree) (e : Listed) : Octets → Octets
  | [] => []
  | '%' :: c :: rest =>
    let field := match c with
      | 'n' => e.name
      | 's' => Octets.ofNat (entrySize e.entry)
      | 'a' => Nat.toDigits 8 e.entry.mode
      | 'A' => kindLetter e.location e.entry :: modeText e.entry.mode
      | 'h' => Octets.ofNat (linkCount t e.location e.entry)
      | '%' => ['%']
      | _ => ['?']
    field ++ statText t e rest
  | c :: rest => c :: statText t e rest

def stat : Tool := fun call =>
  call.withOptions "c:" 1 fun o =>
    call.withOperands o fun first rest => do
      let t := (← get).files
      match o.value? 'c' with
      | none => call.misuse 1 (Octets.ascii "missing format")
      | some format =>
        Call.forEach (first :: rest) fun word => do
          match t.find (Shell.path word) false with
          | .ok (l, entry) => Shell.print (statText t ⟨word, l, entry⟩ format ++ ['\n'])
          | .error fault => do
            call.complainOf (phrase "cannot statx " (Octets.inQuotes word)) fault
            return false

end Tool

end Script

end DartBundle
