import DartBundle.Script.Tool.Naming
/-!
This module contains the programs that read lines and pass on some of them or count them: `cat`,
`head`, `tail`, `wc`, `cut`, `sort`, `uniq` and `cmp`.
-/

namespace DartBundle

namespace Script

namespace Tool

def isOutput (word : Octets) : Act Bool := do
  let s ← get
  let place : Option (Nat × Nat) := if word = ['-'] then
      match s.channel? 0 with
      | some (.file number _ position) => some (number, position)
      | _ => none
    else
      match s.files.find (Shell.path word) true with
      | .ok (_, e) => if e.isFile then some (e.number, 0) else none
      | .error _ => none
  match place, s.channel? 1 with
  | some (number, position), some (.file other access written) =>
    let written := if access = .appending then (Shell.contentFrom s.files other 0).size else written
    return number = other && position < written
  | _, _ => return false

def cat : Tool := fun call =>
  call.withOptions "" 1 fun o =>
    Call.forEach (Call.orInput o.operands) fun word => do
      if ← isOutput word then
        call.complain (phrase "" (Call.shown word) ": input file is output file")
        return false
      match ← Call.read word with
      | .ok octets => do
        let _ ← Shell.print octets
        return true
      | .error fault => do
        call.complainOf (Call.shown word) fault
        return false

inductive Part
  | first (count : Nat)
  | allButLast (count : Nat)
  | last (count : Nat)
  | onward (start : Nat)

def Part.of (part : Part) (row : List α) : List α :=
  match part with
  | .first count => row.take count
  | .allButLast count => row.take (row.length - count)
  | .last count => row.drop (row.length - count)
  | .onward start => row.drop (start - 1)

def blockSize : Nat := 8192

/--
Goes past what a program has taken from its standard input. What has come through a pipe is taken in
blocks.
-/
def skipTaken (byOctet : Bool) (taken : Nat) : Act Unit := do
  match (← get).channel? 0 with
  | some (.source _) =>
    Shell.skip 0 (if byOctet then taken else (taken + blockSize - 1) / blockSize * blockSize)
  | _ => Shell.skip 0 taken

def printParts (call : Call) (part : Part) (byOctet : Bool) (words : List Octets) : Act Nat := do
  let mut status := 0
  let mut started := false
  for word in Call.orInput words do
    let name := if word = ['-'] then Octets.ascii "standard input" else word
    let heading := if 1 < words.length then
        (if started then ['\n'] else []) ++ phrase "==> " name " <==\n"
      else
        []
    let content ← match word, ← Shell.available 0 with
      | ['-'], some octets => pure (.ok octets)
      | word, _ => Call.read word
    match content with
    | .ok octets =>
      let wanted := if byOctet then part.of octets else (part.of octets.records).flatten
      let _ ← Shell.print heading
      started := true
      if word = ['-'] then
        match part with
        | .first _ => skipTaken byOctet wanted.length
        | _ => Shell.skip 0 octets.length
      let _ ← Shell.print wanted
    | .error .isADirectory =>
      let _ ← Shell.print heading
      started := true
      status ← call.fail 1 (phrase "error reading " (Octets.inQuotes name) ": Is a directory")
    | .error fault =>
      call.complainOf (phrase "cannot open " (Octets.inQuotes word) " for reading") fault
      status := 1
  return status

def takeParts (call : Call) (default : Part) (part? : Octets → Option Part) : Act Nat :=
  call.withOptions "c:n:" 1 fun o => do
    let byOctet := o.has 'c'
    match o.value? (if byOctet then 'c' else 'n') with
    | none => printParts call default byOctet o.operands
    | some word =>
      match part? word with
      | some part => printParts call part byOctet o.operands
      | none =>
        let unit := if byOctet then "bytes" else "lines"
        call.fail 1 (phrase s!"invalid number of {unit}: " (Octets.inMarks word))

def head : Tool := fun call =>
  takeParts call (.first 10) fun word =>
    match word with
    | '-' :: digits => (Octets.toNat? digits).map .allButLast
    | digits => (Octets.toNat? digits).map .first

def tail : Tool := fun call =>
  takeParts call (.last 10) fun word =>
    match word with
    | '+' :: digits => (Octets.toNat? digits).map .onward
    | digits => (Octets.toNat? digits).map .last

def counts (octets : Octets) : List Nat :=
  let runs := octets.splitBy fun a b => Octets.isSpace a = Octets.isSpace b
  let words := runs.filter fun word =>
    word.any fun c => !Octets.isSpace c && Octets.isPrintable c
  [octets.count '\n', words.length, octets.length]

def size? (word : Octets) : Act (Option (Option Nat)) := do
  let s ← get
  if word = ['-'] then
    return match s.channel? 0 with
      | some (.file number ..) => some (some (Shell.contentFrom s.files number 0).size)
      | some _ => some none
      | none => none
  else
    return match s.files.find (Shell.path word) true with
      | .ok (l, { kind := .file content, .. }) =>
        some (if l = Shell.nullDevice then none else some content.size)
      | .ok _ => some none
      | .error _ => none

def figureWidth (figures : Nat) (words : List Octets) : Act Nat := do
  let sizes := (← words.mapM size?).filterMap id
  let total := (sizes.filterMap id).foldl (· + ·) 0
  let least := if sizes.any (·.isNone) then 7 else 1
  if words.length = 1 && (sizes.isEmpty || figures = 1) then
    return 1
  else
    return max least (Octets.ofNat total).length

def wc : Tool := fun call =>
  call.withOptions "lwc" 1 fun o => do
    let words := Call.orInput o.operands
    let wanted (counts : List Nat) : List Nat :=
      (['l', 'w', 'c'].zip counts).filterMap fun (letter, n) =>
        if o.given.isEmpty || o.has letter then some n else none
    let width ← figureWidth (wanted [0, 0, 0]).length words
    let row (counts : List Nat) (name : Octets) : Act Unit := do
      let texts := (wanted counts).map fun n => Octets.padLeft width (Octets.ofNat n)
      let _ ← Shell.print ([' '].intercalate texts ++ name ++ ['\n'])
    let mut total := [0, 0, 0]
    let mut status := 0
    for word in words do
      let name := if o.operands.isEmpty then [] else ' ' :: word
      match ← Call.read word with
      | .ok octets =>
        row (counts octets) name
        total := total.zipWith (· + ·) (counts octets)
      | .error fault =>
        call.complainOf (Call.shown word) fault
        if fault = .isADirectory then
          row [0, 0, 0] name
        status := 1
    if 1 < words.length then
      row total (Octets.ascii " total")
    return status

def range? (text : Octets) : Option (Nat × Option Nat) := do
  match List.splitOn '-' text with
  | [n] => do
    let n ← Octets.toNat? n
    if n = 0 then none else some (n, some n)
  | [first, last] => do
    let first ← if first.isEmpty then some 1 else Octets.toNat? first
    if last.isEmpty then
      some (first, none)
    else
      let last ← Octets.toNat? last
      if first = 0 || last < first then none else some (first, some last)
  | _ => none

def cut : Tool := fun call =>
  call.withOptions "c:" 1 fun o =>
    let list := (o.value? 'c').getD []
    match (List.splitOn ',' list).mapM range? with
    | none => call.misuse 1 (phrase "invalid byte/character position " (Octets.inMarks list))
    | some ranges =>
      let chosen (line : Octets) : Octets :=
        (line.zipIdx 1).filterMap fun (c, n) =>
          if ranges.any fun (first, last) => first ≤ n && last.all fun last => n ≤ last then some c
          else none
      call.forEachInput o.operands fun _ octets => do
        let _ ← Shell.print (octets.lines.flatMap fun line => chosen line ++ ['\n'])

def sort : Tool := fun call =>
  call.withOptions "" 2 fun o => do
    let mut lines := []
    for word in Call.orInput o.operands do
      match ← Call.read word with
      | .ok octets => lines := lines ++ octets.lines
      | .error fault =>
        let front := if fault = .isADirectory then "read failed: " else "cannot read: "
        call.complainOf (phrase front (Call.shown word)) fault
        return 2
    let sorted := lines.mergeSort fun a b => !Text.before b a
    let _ ← Shell.print (sorted.flatMap fun line => line ++ ['\n'])
    return 0

def uniq : Tool := fun call =>
  call.withOptions "c" 1 fun o =>
    match o.operands with
    | _ :: word :: _ => call.extra word
    | words => do
      let source := words.head?.getD ['-']
      match ← Call.read source with
      | .error .isADirectory =>
        call.fail 1 (phrase "error reading " (Octets.inQuotes source) ": Is a directory")
      | .error fault => do
        call.complainOf (Call.shown source) fault
        return 1
      | .ok text => do
        let groups := text.lines.splitBy fun a b => a = b
        let _ ← Shell.print <| groups.flatMap fun group =>
          let count := Octets.padLeft 7 (Octets.ofNat group.length) ++ [' ']
          (if o.has 'c' then count else []) ++ group.head?.getD [] ++ ['\n']
        return 0

def commonLength : Octets → Octets → Nat
  | a :: as, b :: bs => if a = b then commonLength as bs + 1 else 0
  | _, _ => 0

def cmp : Tool := fun call =>
  call.withOptions "s" 2 fun o => do
    let tell (act : Act Unit) : Act Unit := if o.has 's' then pure () else act
    match o.operands with
    | [] => call.misuse 2 (Octets.ascii "missing operand after '" ++ call.name ++ ['\''])
    | first :: others =>
      let second := others.head?.getD ['-']
      match ← Call.read first, ← Call.read second with
      | .ok a, .ok b =>
        if a = b then
          return 0
        let common := commonLength a b
        let shorter := min a.length b.length
        let lines := (a.take common).count '\n'
        if common < shorter then
          let place := Octets.ofNat (common + 1) ++ Octets.ascii ", line " ++ Octets.ofNat (lines + 1)
          tell <| discard <| Shell.print
            (first ++ ' ' :: second ++ Octets.ascii " differ: char " ++ place ++ ['\n'])
        else
          let name := if a.length < b.length then first else second
          let complete := (a.take shorter).getLast? = some '\n'
          let place := if complete then Octets.ascii ", line " ++ Octets.ofNat lines
            else Octets.ascii ", in line " ++ Octets.ofNat (lines + 1)
          tell <| if shorter = 0 then call.complain (phrase "EOF on " name " which is empty")
            else call.complain (phrase "EOF on " name " after byte " ++ Octets.ofNat shorter ++ place)
        return 1
      | .error fault, _ => do
        tell (call.complainOf first fault)
        return 2
      | .ok _, .error fault => do
        tell (call.complainOf second fault)
        return 2

end Tool

end Script

end DartBundle
