import DartBundle.Script.Command.Options
import DartBundle.Script.Field
/-!
This module contains the commands that work on variables, arguments and options.
-/

namespace DartBundle

namespace Script

namespace Shell

def splitAssignment (word : Octets) : Octets × Option Octets :=
  match word.span (· ≠ '=') with
  | (name, []) => (name, none)
  | (name, _ :: value) => (name, some value)

def checkName (name : Octets) : Act Unit := do
  if !isName name then
    fault (name ++ Octets.ascii ": bad variable name")

def listVariables (front : String) (test : Variable → Bool) : Act Nat := do
  let listed := (← get).settings.entries.filter fun (_, v) => test v
  let sorted := listed.mergeSort fun a b => !Text.before b.1 a.1
  put (sorted.flatMap fun (name, v) =>
    let value := match v.value with
      | some value => '=' :: quoted value
      | none => []
    front.toList ++ name ++ value ++ ['\n'])

def markVariables (command : String) (test : Variable → Bool) (mark : Variable → Variable)
    (words : List Octets) : Act Nat := do
  let (options, names) ← takeOptions "p" words
  if !options.isEmpty || names.isEmpty then
    listVariables (command ++ " ") test
  else
    for word in names do
      let (name, value) := splitAssignment word
      checkName name
      match value with
      | some value => setVariable name value
      | none => pure ()
      putVariable name (mark ((← get).setting name))
    return 0

def exportVariables : List Octets → Act Nat :=
  markVariables "export" Variable.exported fun v => { v with exported := true }

def protectVariables : List Octets → Act Nat :=
  markVariables "readonly" Variable.readOnly fun v => { v with readOnly := true }

def unsetNames (words : List Octets) : Act Nat := do
  let (options, names) ← takeOptions "vf" words
  for name in names do
    if options.getLast?.any fun (c, _) => c = 'f' then
      modify fun s => { s with functions := s.functions.erase name }
    else
      checkName name
      unsetVariable name
  return 0

def keep (kept : Kept) : Act Unit :=
  modify fun s => { s with
    kept := match s.kept with
      | [] => []
      | inner :: outer => (kept :: inner) :: outer }

def makeOwn (exported : Bool) (word : Octets) : Act Unit := do
  if word = ['-'] then
    keep (.options (← get).options)
  else
    let (name, value) := splitAssignment word
    keep (.setting name ((← get).settings.lookup name))
    match value with
    | some value => setVariable name value
    | none => pure ()
    let v := (← get).setting name
    putVariable name { v with exported := v.exported || exported }

def makeLocal (words : List Octets) : Act Nat := do
  if (← get).kept.isEmpty then
    fault (Octets.ascii "not in a function")
  words.forM (makeOwn false)
  return 0

def giveBack (s : Shell) : Shell :=
  match s.kept with
  | [] => s
  | inner :: outer =>
    inner.foldl (fun s kept => match kept with
      | .options options => { s with options }
      | .setting name (some before) => { s with settings := s.settings.insert name before }
      | .setting name none => { s with settings := s.settings.erase name }) { s with kept := outer }

def optionNames : List (Char × String) :=
  [('e', "errexit"), ('f', "noglob"), ('I', "ignoreeof"), ('i', "interactive"), ('m', "monitor"),
    ('n', "noexec"), ('s', "stdin"), ('x', "xtrace"), ('v', "verbose"), ('V', "vi"), ('E', "emacs"),
    ('C', "noclobber"), ('a', "allexport"), ('b', "notify"), ('u', "nounset"), ('p', "privileged"),
    ('\x00', "nolog"), ('\x01', "debug")]

def switchOption (on : Bool) (letter : Char) : Act Unit :=
  modify fun s =>
    let isOn (c : Char) : Bool := if c = letter then on else s.options.contains c
    { s with options := ((optionNames.map (·.1)).filter isOn).reverse }

def illegalOption (letter : Char) : Act α :=
  fault (Octets.ascii "Illegal option -" ++ [letter])

def switchLetter (on : Bool) (letter : Char) : Act Unit := do
  if letter.toNat ≥ 2 && optionNames.any fun (c, _) => c = letter then
    switchOption on letter
  else
    illegalOption letter

def listOptions (on : Bool) : Act Unit := do
  let s ← get
  let line (c : Char) (name : String) : String :=
    if on then
      name ++ String.ofList (List.replicate (16 - name.length) ' ') ++
        (if s.options.contains c then "on" else "off")
    else
      (if s.options.contains c then "set -o " else "set +o ") ++ name
  let lines := optionNames.map fun (c, name) => line c name
  let all := if on then "Current option settings" :: lines else lines
  let _ ← put (all.flatMap fun line => line.toList ++ ['\n'])

def switchNamed (on : Bool) (name : Octets) : Act Unit := do
  match optionNames.find? fun (_, other) => other.toList = name with
  | some (letter, _) => switchOption on letter
  | none => fault (Octets.ascii "Illegal option -o " ++ name)

def switchOptions (starting : Bool) : List Octets → Act (Octets × List Octets)
  | [] => return ([], [])
  | ['-'] :: rest => do
    if !starting then
      switchOption false 'x'
      switchOption false 'v'
    return ([], rest)
  | ['-', '-'] :: rest => do
    if !starting && rest.isEmpty then
      modify fun s => { s with arguments := [] }
    return ([], rest)
  | (sign :: letters) :: rest => do
    if sign ≠ '-' && sign ≠ '+' then
      return ([], (sign :: letters) :: rest)
    let on := sign = '-'
    let own (c : Char) : Bool := starting && (c = 'c' || c = 'l')
    for letter in letters.filter fun c => !own c && c ≠ 'o' do
      switchLetter on letter
    let more (found : Octets × List Octets) := (letters.filter own ++ found.1, found.2)
    if letters.contains 'o' then
      match rest with
      | [] => do
        listOptions on
        return (letters.filter own, [])
      | name :: rest => do
        switchNamed on name
        return more (← switchOptions starting rest)
    else
      return more (← switchOptions starting rest)
  | rest => return ([], rest)

def setArguments (words : List Octets) : Act Nat := do
  if words.isEmpty then
    listVariables "" fun v => v.value.isSome
  else
    let (_, arguments) ← switchOptions false words
    if !arguments.isEmpty then
      modify fun s => { s with arguments }
      restartOptions 1
    return 0

def shiftArguments (words : List Octets) : Act Nat := do
  let n ← match words with
    | [] => pure 1
    | word :: _ => natural word
  let s ← get
  if s.arguments.length < n then
    fault (Octets.ascii "can't shift that many")
  set { s with arguments := s.arguments.drop n }
  restartOptions 1
  return 0

structure FoundOption where
  letter : Char
  value : Option Octets := none
  complaint : Option String := none
  index : Nat
  offset : Option Nat := none

/--
Finds the next option of some arguments. If the known letters start with a colon, nothing is
complained about.
-/
def nextOption (known : Octets) (arguments : List Octets) (index : Nat) (offset : Option Nat) :
    Option FoundOption × Nat :=
  let silent := known.head? = some ':'
  let current := (arguments[index - 2]?).getD []
  let left : Octets := match offset with
    | some offset => if 1 < index then current.drop offset else []
    | none => []
  let next := arguments[index - 1]?
  let start : Option (Octets × Nat) :=
    if !left.isEmpty then some (left, index)
    else match next with
      | some ('-' :: c :: letters) =>
        if c = '-' && letters.isEmpty then none else some (c :: letters, index + 1)
      | _ => none
  match start with
  | none => (none, if next = some ['-', '-'] && left.isEmpty then index + 1 else index)
  | some ([], index) => (none, index)
  | some (c :: rest, index) =>
    let wrong (letter : Char) (complaint : String) (index : Nat) : FoundOption :=
      if silent then { letter, value := some [c], index }
      else { letter := '?', complaint := some complaint, index }
    let length := ((arguments[index - 2]?).getD []).length
    let behind : Option Nat := some (length - rest.length)
    match letter? known c with
    | none =>
      (some { wrong '?' s!"Illegal option -{c}" index with offset := behind }, index)
    | some false => (some { letter := c, value := some [], index, offset := behind }, index)
    | some true =>
      if rest.isEmpty then
        match arguments[index - 1]? with
        | some value => (some { letter := c, value := some value, index := index + 1 }, index)
        | none => (some (wrong ':' s!"No arg for -{c} option" index), index)
      else
        (some { letter := c, value := some rest, index }, index)

def findOption (words : List Octets) : Act Nat := do
  match words with
  | known :: name :: rest => do
    let s ← get
    let arguments := if rest.isEmpty then s.arguments else rest
    let (found, index) := nextOption known arguments s.optionIndex s.optionOffset
    let index := match found with
      | some found => found.index
      | none => index
    match found with
    | none => pure ()
    | some found => do
      match found.complaint with
      | some complaint => complain (Octets.ascii complaint)
      | none => pure ()
      match found.value with
      | some value => setVariable (Octets.ascii "OPTARG") value
      | none => unsetVariable (Octets.ascii "OPTARG")
    setVariable (Octets.ascii "OPTIND") (Octets.ofNat index)
    checkName name
    setVariable name [(found.map (·.letter)).getD '?']
    modify fun s => { s with optionIndex := index, optionOffset := found.bind (·.offset) }
    return if found.isSome then 0 else 1
  | _ => fault (Octets.ascii "Usage: getopts optstring var [arg...]")

def readMarks (raw : Bool) : Nat → Act (List Mark × Bool)
  | 0 => return ([], false)
  | n + 1 => do
    let (line, ended) ← readLine 0
    if raw then
      return (line.map fun c => ⟨c, false⟩, ended)
    else
      let (marks, isOpen) := unescape line
      if isOpen && ended then
        let (more, ended) ← readMarks raw n
        return (marks ++ more, ended)
      else
        return (marks, ended)
where
  unescape : Octets → List Mark × Bool
    | [] => ([], false)
    | ['\\'] => ([], true)
    | '\\' :: c :: rest =>
      let (marks, isOpen) := unescape rest
      (⟨c, true⟩ :: marks, isOpen)
    | c :: rest =>
      let (marks, isOpen) := unescape rest
      (⟨c, false⟩ :: marks, isOpen)

/--
Gives each name a word of a line, and the last name all that is left.
-/
def assignWords (separators : Octets) : List Octets → List Mark → Act Unit
  | [], _ => pure ()
  | name :: names, marks => do
    let isSeparator (m : Mark) : Bool := !m.quoted && separators.contains m.octet
    let isSpace (m : Mark) : Bool := isSeparator m && Splitting.isBlankSeparator m.octet
    let marks := marks.dropWhile isSpace
    let (word, behind) := marks.span fun m => !isSeparator m
    let rest := behind.dropWhile isSpace
    let rest := match rest with
      | m :: others => if isSeparator m then others.dropWhile isSpace else rest
      | [] => []
    let octets (marks : List Mark) : Octets := marks.map Mark.octet
    checkName name
    if names.isEmpty && !rest.isEmpty then
      setVariable name (octets (marks.reverse.dropWhile isSpace).reverse)
    else
      setVariable name (octets word)
      assignWords separators names rest

def readVariables (words : List Octets) : Act Nat := do
  let (options, names) ← takeOptions "p:r" words
  if names.isEmpty then
    fault (Octets.ascii "arg count")
  let raw := options.any fun (c, _) => c = 'r'
  let (marks, ended) ← readMarks raw 1000000
  assignWords (← get).separators names (marks.filter fun m => m.octet ≠ '\x00')
  return if ended then 0 else 1

end Shell

end Script

end DartBundle
