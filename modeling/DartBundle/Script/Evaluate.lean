import DartBundle.Script.Command
import DartBundle.Script.Expand
import DartBundle.Script.Tool
/-!
This module contains the running of scripts. A run is given some number of turns, and a script that
has not ended by then is stopped.
-/

namespace DartBundle

namespace Script

open Shell

inductive Round
  | done
  | next
  | leave

def round (body : Act Unit) : Act Round := fun s =>
  match body s with
  | .ok _ s => .ok .done s
  | .error (.leave loops) s => if loops ≤ 1 then .ok .leave s else .error (.leave (loops - 1)) s
  | .error (.next loops) s => if loops ≤ 1 then .ok .next s else .error (.next (loops - 1)) s
  | .error stop s => .error stop s

def inLoop (body : Act Unit) : Act Unit := do
  let loops := (← get).loops
  modify fun s => { s with loops := loops + 1 }
  ensuring body fun s => { s with loops }

def returning (body : Act Unit) : Act Unit := fun s =>
  match body s with
  | .error .returned s => .ok () s
  | result => result

def asCommand (special : Bool) (name : Octets) (body : Act Unit) : Act Unit := do
  let command := (← get).command
  modify fun s => { s with command := some name }
  let restore (s : Shell) : Shell := { s with command }
  fun s =>
    match body s with
    | .ok _ s => .ok () (restore s)
    | .error .fault s => if special then .error .fault (restore s) else .ok () (restore s)
    | .error stop s => .error stop (restore s)

def checkStatus (tested : Bool) : Act Unit := do
  let s ← get
  if s.status ≠ 0 && !tested && s.options.contains 'e' then
    throw .exit

def startProcess : Act Unit :=
  modify fun s => { s with
    traps := s.traps.entries.foldr
      (fun (signal, action) table =>
        if action.isEmpty && signal ≠ 0 then table.insert signal action else table) .empty }

def standardPath : Octets :=
  Octets.ascii "/usr/local/sbin:/usr/local/bin:/usr/sbin:/usr/bin:/sbin:/bin"

def startSettings (s : Shell) : Table Octets Variable :=
  let exported : Table Octets Variable :=
    (s.settings.entries.filter fun (_, v) => v.exported).foldr
      (fun (name, v) table => table.insert name { v with readOnly := false }) .empty
  let own : List (String × Octets) :=
    [("IFS", [' ', '\t', '\n']), ("OPTIND", ['1']), ("PPID", Octets.ofNat (s.above.head?.getD 1)),
      ("PS1", Octets.ascii "# "), ("PS2", Octets.ascii "> ")] ++
    (if (s.setting (Octets.ascii "PS4")).exported then [] else [("PS4", Octets.ascii "+ ")]) ++
    (if (s.setting (Octets.ascii "PATH")).exported then [] else [("PATH", standardPath)])
  let table := own.foldl
    (fun (table : Table Octets Variable) (name, value) =>
      table.insert name.toList { value := some value }) exported
  table.insert (Octets.ascii "PWD") { value := some s.directory, exported := true }

def startShell (name : Octets) : Act Unit :=
  modify fun s => { s with
    toProcess := {
      number := s.number
      shell := s.number
      above := s.above
      name
      line := 0
      settings := startSettings s
      traps := s.traps
      descriptors := s.descriptors
      directory := s.directory
    } }

/--
A command as far as its words have been expanded: the words that are written out when it runs, those
of the command itself, and the words that are still to be expanded.
-/
structure Chosen where
  shown : List Octets
  fields : List Octets
  rest : List Word
  functions : Bool := true
  standard : Bool := false

def Chosen.meaning (c : Chosen) (s : Shell) : Meaning :=
  s.meaning c.functions (if c.standard then standardPath else s.searchPath)
    (c.fields.head?.getD [])

def declares (name : Octets) : Bool :=
  ["export", "local", "readonly"].contains (String.ofList name)

def describedBy (words : List Octets) : Act Nat := do
  let (options, names) ← takeOptions "pvV" words
  let telling := (options.filter fun (c, _) => c ≠ 'p').getLast?
  match telling, names with
  | some (c, _), name :: _ =>
    let searched := if options.any fun (c, _) => c = 'p' then some standardPath else none
    describe (c = 'V') searched name
  | _, _ => return 0

def sourceFile (name : Octets) : Act Octets := do
  let s ← get
  if name.contains '/' then
    return name
  else
    match (Executable.candidates s.searchPath name).find? fun file =>
        s.files.isFile (path file) with
    | some file => return file
    | none => fault (name ++ Octets.ascii ": not found")

def faultStatus (reason : FileFault) : Nat :=
  match reason with
  | .notFound => 127
  | .notADirectory => 127
  | .tooManyLinks => 127
  | .nameTooLong => 127
  | _ => 126

def pipeRoom : Nat :=
  1048576

structure Purpose where
  inner : Bool := false
  split : Bool := false

mutual

def expand : Nat → Purpose → List Part → Act (List Piece)
  | 0, _, _ => throw .exhausted
  | _, _, [] => return []
  | n + 1, purpose, part :: rest => do
    let pieces ← expandPart n purpose part
    return pieces ++ (← expand n purpose rest)

def expandPart : Nat → Purpose → Part → Act (List Piece)
  | 0, _, _ => throw .exhausted
  | n + 1, purpose, part => do
    match part with
    | .text quoted octets =>
      return if purpose.inner && !quoted then Piece.ofValue false octets
        else Piece.ofText quoted octets
    | .parameter quoted name => parameterPieces quoted name
    | .length quoted name => return Piece.ofValue quoted (Octets.ofNat (← wanted name).length)
    | .choice quoted name orEmpty instead word => do
      let word : Act (List Piece) := do
        let pieces ← expand n { purpose with inner := true } (← tilded .inValue word)
        return if quoted && pieces.isEmpty then [.nothing] else pieces
      match instead, (← get).present? name orEmpty with
      | .onlyIfSet, some _ => word
      | .onlyIfSet, none => return Piece.ofValue quoted []
      | _, some _ => parameterPieces quoted name
      | .use, none => word
      | .assign, none => do
        let value ← whole (← word)
        checkName name
        setVariable name value
        return Piece.ofValue quoted value
      | .complain, none => do
        let text ← whole (← word)
        fault (name ++ Octets.ascii ": " ++
          if !text.isEmpty then text
          else Octets.ascii (if orEmpty then "parameter not set or null" else "parameter not set"))
    | .trimmed quoted name cut word => do
      let value ← wanted name
      let s ← get
      let arguments := if purpose.split && areArguments quoted name then s.arguments else []
      let pieces ← expand n {} (← tilded .atStart word)
      let pattern := Pattern.read (Piece.marks (← get).joint pieces)
      return trimmedPieces quoted value arguments cut pattern
    | .output quoted body => do
      let (printed, ending) ← capturing none (subshell n false body)
      let status := (← get).status
      settle ending
      modify fun s => { s with substituted := s.status, status }
      return Piece.ofValue quoted (trimOutput printed)
    | .arithmetic quoted expression => do
      let octets ← whole (← expand n {} expression)
      return Piece.ofValue quoted (Octets.ofInt (← calculate octets))
    | .senseless => fault (Octets.ascii "Bad substitution")

def expandWhole : Nat → Tildes → Word → Act Octets
  | 0, _, _ => throw .exhausted
  | n + 1, mode, word => do whole (← expand n {} (← tilded mode word))

def expandWord : Nat → Word → Act (List Octets)
  | 0, _ => throw .exhausted
  | n + 1, word => do
    fields (← expand n { split := true } (← tilded .atStart word))

def expandWords : Nat → Bool → List Word → Act (List Octets)
  | 0, _, _ => throw .exhausted
  | _, _, [] => return []
  | n + 1, declaring, word :: rest => do
    let first ←
      if declaring && (assignment? word).isSome then do
        let value ← expandWhole n .inAssignment word
        pure [value]
      else
        expandWord n word
    return first ++ (← expandWords n declaring rest)

def expandFirst : Nat → List Word → Act (List Octets × List Word)
  | 0, _ => throw .exhausted
  | _, [] => return ([], [])
  | n + 1, word :: rest => do
    match ← expandWord n word with
    | [] => expandFirst n rest
    | first => return (first, rest)

def choose : Nat → Chosen → Act Chosen
  | 0, _ => throw .exhausted
  | n + 1, c => do
    let passing : Bool := match c.meaning (← get) with
      | .regular => c.fields.head? = some (Octets.ascii "command")
      | _ => false
    if passing then
      skipOptions n c { c with fields := c.fields.drop 1, functions := false }
    else
      return c

def skipOptions : Nat → Chosen → Chosen → Act Chosen
  | 0, _, _ => throw .exhausted
  | n + 1, itself, c => do
    match c.fields with
    | [] => do
      match ← expandFirst n c.rest with
      | ([], _) => return itself
      | (more, rest) =>
        skipOptions n
          { itself with fields := itself.fields ++ more, shown := itself.shown ++ more, rest }
          { c with fields := more, shown := c.shown ++ more, rest }
    | ('-' :: letter :: letters) :: rest =>
      if letter = '-' && letters.isEmpty then do
        match rest with
        | [] => do
          match ← expandFirst n c.rest with
          | ([], _) => return itself
          | (more, rest) =>
            choose n { c with fields := more, shown := c.shown ++ more, rest }
        | rest => choose n { c with fields := rest }
      else if (letter :: letters).all (· = 'p') then
        skipOptions n itself { c with fields := rest, standard := true }
      else
        return itself
    | _ => choose n c

def expandRedirections : Nat → List Redirection → Act (List (Nat × Redirect × Octets))
  | 0, _ => throw .exhausted
  | _, [] => return []
  | n + 1, .mk descriptor redirect word :: rest => do
    let octets ← expandWhole n (if redirect = .document then .nowhere else .atStart) word
    let duplicating := match redirect with
      | .duplicate _ => true
      | _ => false
    if duplicating && octets ≠ ['-'] && !(octets.length = 1 && octets.all Octets.isDigit) then
      fault (Octets.ascii "Syntax error: Bad fd number")
    return (descriptor, redirect, octets) :: (← expandRedirections n rest)

def assignAll : Nat → Bool → Bool → List (Octets × Word) → Act (List Octets)
  | 0, _, _, _ => throw .exhausted
  | _, _, _, [] => return []
  | n + 1, own, exported, (name, word) :: rest => do
    let value ← expandWhole n .inValue word
    let assignment := name ++ '=' :: value
    if own then
      makeOwn true assignment
    else
      setVariable name value
      if exported then
        putVariable name { (← get).setting name with exported := true }
    return assignment :: (← assignAll n own exported rest)

def trace : Nat → Option Nat → List Octets → Act Unit
  | 0, _, _ => throw .exhausted
  | n + 1, channel, words => do
    let s ← get
    if s.options.contains 'x' && !s.tracing then
      let text := (s.setting? "PS4").getD []
      modify fun s => { s with tracing := true }
      let front ← match parseDocument text with
        | .ok word => expandWhole n .nowhere word
        | .error _ => pure text
      modify fun s => { s with tracing := false }
      match channel with
      | some number => let _ ← writeChannel number (front ++ [' '].intercalate words ++ ['\n'])
      | none => pure ()

def runLines : Nat → Bool → Bool → Bool → Nat → Octets → Act Bool
  | 0, _, _, _, _, _ => throw .exhausted
  | n + 1, tested, inFile, ran, line, text => do
    let s ← get
    let parsed := parseLine line text
    if inFile && s.options.contains 'v' then
      let _ ← write 2 (parsed.read text)
    match parsed.program with
    | .error reason =>
      modify fun s => { s with line := reason.line }
      fault (Octets.ofText reason.text)
    | .ok none => return ran
    | .ok (some program) => do
      evaluate n tested program
      let isEmpty := match program with
        | .empty => true
        | _ => false
      runLines n tested inFile (ran || !isEmpty) parsed.line parsed.rest

def runText : Nat → Bool → Bool → Octets → Act Unit
  | 0, _, _, _ => throw .exhausted
  | n + 1, tested, inFile, text => do
    if !(← runLines n tested inFile false 1 text) then
      setStatus 0

def runTraps : Nat → Act Unit
  | 0 => throw .exhausted
  | n + 1 => do
    let s ← get
    match s.pending with
    | [] => pure ()
    | first :: rest => do
      let signal := rest.foldl min first
      set { s with
        pending := s.pending.filter (· ≠ signal)
        interrupted := some (s.interrupted.getD s.status) }
      let action := (s.traps.lookup signal).getD []
      ensuring (runText n false false action) fun later =>
        { later with interrupted := s.interrupted }
      setStatus s.status
      runTraps n

def finishing : Nat → Act Unit → Act Unit
  | 0, _ => throw .exhausted
  | n + 1, body => do
    match ← stopping body with
    | some (.signal number) => throw (.signal number)
    | _ => pure ()
    let s ← get
    match s.traps.lookup 0 with
    | some action =>
      set { s with
        traps := s.traps.erase 0, interrupted := some s.status, command := none, loops := 0 }
      match ← stopping (runText n false false action) with
      | none => setStatus s.status
      | some (.signal number) => throw (.signal number)
      | some _ => pure ()
    | none => pure ()
    runJobs n (← get).jobs.length

def subshell : Nat → Bool → Program → Act Unit
  | 0, _, _ => throw .exhausted
  | n + 1, tested, body => do
    startProcess
    finishing n (evaluate n tested body)

def runJobs : Nat → Nat → Act Unit
  | 0, _ => throw .exhausted
  | _, 0 => pure ()
  | n + 1, count + 1 => do
    runJobs n count
    let outer ← get
    match outer.jobs[count]? with
    | some job =>
      if job.finish.isNone then
        set { outer with
          toProcess := job.process
          files := { outer.files.seatedAt job.seat with now := job.start }
          jobs := outer.jobs.set count { job with finish := some outer.files.now } }
        let stop ← stopping (subshell n false job.body)
        let inner ← get
        let ending := match stop with
          | some (.signal signal) => .killed signal
          | _ => .exited (inner.status % 256)
        set { inner with
          toProcess := outer.toProcess
          files := { inner.files.seatedAt outer.files.seat with now := outer.files.now }
          jobs := inner.jobs.set count { job with ending, finish := some inner.files.now } }
        collect
    | none => pure ()

def wait : Nat → List Octets → Act Nat
  | 0, _ => throw .exhausted
  | n + 1, words => do
    let (_, words) ← takeOptions "" words
    runJobs n (← get).jobs.length
    let s ← get
    let own := s.jobs.filter fun job => job.owner = s.number
    let pass (jobs : List Job) : Act Unit :=
      modify fun s => { s with
        files := { s.files with
          now := jobs.foldl (fun time job => max time (job.finish.getD time)) s.files.now }
        jobs := s.jobs.map fun (other : Job) =>
          if jobs.any fun job => job.process.number = other.process.number then
            { other with awaited := true }
          else
            other }
    match words with
    | [] => do
      pass own
      return 0
    | words => do
      let mut status := 0
      for word in words do
        let found ← match word with
          | '%' :: digits => pure (own[(Octets.toNat? digits).getD 1 - 1]?)
          | word => do
            let number ← natural word
            pure (own.find? fun job => job.process.number = number)
        if let some job := found then
          if !job.awaited && decide (s.files.now ≤ job.finish.getD 0) then
            report job.ending
        pass found.toList
        status := (found.map (·.ending.status)).getD 127
      return status

def evaluate : Nat → Bool → Program → Act Unit
  | 0, _, _ => throw .exhausted
  | n + 1, tested, program => do
    let s ← get
    if s.options.contains 'n' then
      return
    if !s.pending.isEmpty then
      runTraps n
    match program with
    | .empty => pure ()
    | .simple line assignments words redirections => do
      modify fun s => { s with line, substituted := 0 }
      runSimple n tested assignments words redirections
      checkStatus tested
    | .redirected line (.subshell _ body) redirections => do
      modify fun s => { s with line }
      settle (← inProcess do
        startProcess
        finishing n do
          let redirections ← expandRedirections n redirections
          if !(← redirecting redirections true (evaluate n tested body)) then
            throw .fault)
      checkStatus tested
    | .redirected line body redirections => do
      modify fun s => { s with line }
      let redirections ← expandRedirections n redirections
      if !(← redirecting redirections false (evaluate n tested body)) then
        setStatus 2
        checkStatus tested
    | .pipeline stages => do
      runStages n tested none stages
      checkStatus tested
    | .negation body => do
      match ← stopping (evaluate n true body) with
      | none => modify fun s => { s with status := if s.status = 0 then 1 else 0 }
      | some .returned => do
        modify fun s => { s with status := if s.status = 0 then 1 else 0 }
        throw .returned
      | some stop => throw stop
    | .sequence first second => do
      evaluate n tested first
      evaluate n tested second
    | .conjunction first second => do
      evaluate n true first
      if (← get).status = 0 then
        evaluate n tested second
    | .disjunction first second => do
      evaluate n true first
      if (← get).status ≠ 0 then
        evaluate n tested second
    | .subshell line body => do
      modify fun s => { s with line }
      settle (← inProcess (subshell n tested body))
      checkStatus tested
    | .background body => startJob n body
    | .conditional condition consequence alternative => do
      evaluate n true condition
      if (← get).status = 0 then
        evaluate n tested consequence
      else
        match alternative with
        | .empty => setStatus 0
        | alternative => evaluate n tested alternative
    | .loop expected condition body => inLoop (runLoop n tested expected condition body 0)
    | .each line name words body => do
      modify fun s => { s with line }
      let values ← match words with
        | some words => expandWords n false words
        | none => do pure (← get).arguments
      inLoop (runEach n tested name body 0 values)
    | .choose line word clauses => do
      modify fun s => { s with line }
      let value ← expandWhole n .atStart word
      runClauses n tested value clauses
    | .definition line name body => do
      modify fun s => { s with line, functions := s.functions.insert name body, status := 0 }
    if !(← get).pending.isEmpty then
      runTraps n

def startJob : Nat → Program → Act Unit
  | 0, _ => throw .exhausted
  | _, body => do
    let nothing ← openChannel .nothing
    let s ← get
    let process : Process := { s.toProcess with
      number := s.nextNumber
      above := []
      pending := []
      descriptors := s.descriptors.insert 0 nothing }
    let job : Job :=
      { process, owner := s.number, seat := s.files.seat, body, start := s.files.now }
    set { s with
      nextNumber := s.nextNumber + 1
      lastJob := some s.nextNumber
      status := 0
      jobs := s.jobs ++ [job] }

def runStages : Nat → Bool → Option Octets → List Program → Act Unit
  | 0, _, _, _ => throw .exhausted
  | _, _, _, [] => pure ()
  | n + 1, tested, read, stage :: rest => do
    let stage : Act Unit := do
      match read with
      | some read => connectNew 0 (.source read)
      | none => pure ()
      subshell n tested stage
    if rest.isEmpty then
      settle (← inProcess stage)
    else
      let (printed, ending) ← capturing (some pipeRoom) stage
      settle ending
      runStages n tested (some printed) rest

def runLoop : Nat → Bool → Bool → Program → Program → Nat → Act Unit
  | 0, _, _, _, _, _ => throw .exhausted
  | n + 1, tested, expected, condition, body, status => do
    match ← round (evaluate n true condition) with
    | .leave => setStatus status
    | .next => runLoop n tested expected condition body status
    | .done =>
      if ((← get).status = 0) = expected then
        match ← round (evaluate n tested body) with
        | .leave => pure ()
        | _ => runLoop n tested expected condition body (← get).status
      else
        setStatus status

def runEach : Nat → Bool → Octets → Program → Nat → List Octets → Act Unit
  | 0, _, _, _, _, _ => throw .exhausted
  | _, _, _, _, status, [] => setStatus status
  | n + 1, tested, name, body, _, value :: rest => do
    setVariable name value
    match ← round (evaluate n tested body) with
    | .leave => pure ()
    | _ => runEach n tested name body (← get).status rest

def runClauses : Nat → Bool → Octets → List (List Word × Program) → Act Unit
  | 0, _, _, _ => throw .exhausted
  | _, _, _, [] => setStatus 0
  | n + 1, tested, value, (patterns, body) :: rest => do
    if ← fitsAny n value patterns then
      match body with
      | .empty => setStatus 0
      | body => evaluate n tested body
    else
      runClauses n tested value rest

def fitsAny : Nat → Octets → List Word → Act Bool
  | 0, _, _ => throw .exhausted
  | _, _, [] => return false
  | n + 1, value, word :: rest => do
    let pieces ← expand n {} (← tilded .atStart word)
    if Pattern.fits (Pattern.read (Piece.marks (← get).joint pieces)) value then
      return true
    else
      fitsAny n value rest

/--
Runs a simple command: its words are expanded first, then come the redirections and the assignments,
which last only as long as the command if there is one that is not special.
-/
def runSimple : Nat → Bool → List (Octets × Word) → List Word → List Redirection → Act Unit
  | 0, _, _, _, _ => throw .exhausted
  | n + 1, tested, assignments, words, redirections => do
    let (first, rest) ← expandFirst n words
    let c ← if first.isEmpty then pure { shown := [], fields := [], rest := [] }
      else choose n { shown := first, fields := first, rest }
    let name := c.fields.head?.getD []
    let more ← expandWords n (declares name) c.rest
    let arguments := c.fields.drop 1 ++ more
    let special := specialCommands.contains (String.ofList name) &&
      !(c.functions && (← get).functions.contains name)
    let own := !first.isEmpty && !(special && c.functions)
    let executing := special && name = Octets.ascii "exec"
    if own then
      modify fun s => { s with kept := [] :: s.kept }
    let body : Act Unit := do
      let tracer := (← get).descriptors.lookup 2
      let expanded ← expandRedirections n redirections
      let succeeded ← redirecting expanded executing do
        let assigned ← assignAll n own (executing && !arguments.isEmpty) assignments
        let shown := assigned ++ c.shown ++ more
        if !shown.isEmpty then
          trace n tracer shown
        if first.isEmpty then
          setStatus (← get).substituted
        else
          runCommand n tested { c with fields := name :: arguments }
      if !succeeded then
        setStatus 2
        if special && c.functions then
          throw .fault
    ensuring body fun s => if own then giveBack s else s

def runCommand : Nat → Bool → Chosen → Act Unit
  | 0, _, _ => throw .exhausted
  | n + 1, tested, c => do
    let name := c.fields.head?.getD []
    let arguments := c.fields.drop 1
    match c.meaning (← get) with
    | .function body => runFunction n tested body arguments
    | .special => asCommand c.functions name (runSpecial n tested name arguments)
    | .regular => asCommand false name (runSpecial n tested name arguments)
    | .file file => do
      noteFound name file
      settle (← inProcess do
        startProcess
        execute n name file arguments)
    | .missing reason => do
      complainHere (name ++ [':', ' '] ++ shellFault "not found" reason)
      setStatus 127

def runSpecial : Nat → Bool → Octets → List Octets → Act Unit
  | 0, _, _, _ => throw .exhausted
  | n + 1, tested, name, arguments => do
    match String.ofList name with
    | "eval" =>
      if arguments.isEmpty then
        setStatus 0
      else
        runText n tested false ([' '].intercalate arguments)
    | "exec" =>
      match arguments with
      | [] => setStatus 0
      | name :: arguments => do
        let s ← get
        let file := if name.contains '/' then .ok name
          else Executable.search s.files s.searchPath name
        match file with
        | .ok file => do
          startProcess
          execute n name file arguments
        | .error reason => do
          complainHere (name ++ [':', ' '] ++ shellFault "not found" reason)
          setStatus (faultStatus reason)
        throw .exit
    | "." =>
      match (← takeOptions "" arguments).2 with
      | [] => setStatus 0
      | name :: _ => do
        let file ← sourceFile name
        match (← get).files.read (path file) with
        | .ok content => do
          modify fun s => { s with command := some file }
          returning (runText n false true (Octets.ofBytes content))
        | .error .isADirectory => setStatus 0
        | .error reason =>
          fault (Octets.ascii "cannot open " ++ file ++ [':', ' '] ++
            shellFault "No such file" reason)
    | "command" => do setStatus (← describedBy arguments)
    | "wait" => do setStatus (← wait n arguments)
    | _ =>
      match command? name with
      | some command => do setStatus (← command arguments)
      | none => setStatus 0

def runFunction : Nat → Bool → Program → List Octets → Act Unit
  | 0, _, _, _ => throw .exhausted
  | n + 1, tested, body, arguments => do
    let outer ← get
    if 1000 ≤ outer.depth then
      fault (Octets.ascii "Maximum function recursion depth (1000) reached")
    set { outer with
      arguments, loops := 0, optionIndex := 1, optionOffset := none, depth := outer.depth + 1 }
    ensuring (returning (evaluate n tested body)) fun s => { s with
      arguments := outer.arguments
      loops := outer.loops
      optionIndex := outer.optionIndex
      optionOffset := outer.optionOffset
      depth := outer.depth }

def execute : Nat → Octets → Octets → List Octets → Act Unit
  | 0, _, _, _ => throw .exhausted
  | n + 1, name, file, arguments => do
    match Executable.load (← get).files Executable.maxInterpreters file arguments with
    | .ok image =>
      runImage n (if image.name = file then { image with name } else image)
    | .error .notExecutable =>
      runImage n ⟨"sh", Octets.ascii "/bin/sh", file :: arguments⟩
    | .error reason => do
      complainHere (name ++ [':', ' '] ++ shellFault "not found" reason)
      setStatus (faultStatus reason)

def runImage : Nat → Executable.Image → Act Unit
  | 0, _ => throw .exhausted
  | n + 1, image => do
    modify fun s => { s with files := s.files.later 1 }
    if image.program = "sh" then
      runShell n image.name image.arguments
    else
      match tool? image.program with
      | some tool => do
        if image.program = "sleep" then
          runJobs n (← get).jobs.length
        setStatus (← tool ⟨image.name, image.arguments⟩)
      | none => setStatus 127

def runShell : Nat → Octets → List Octets → Act Unit
  | 0, _, _ => throw .exhausted
  | n + 1, name, words => do
    startShell name
    finishing n do
      let (letters, operands) ← switchOptions true words
      if letters.contains 'c' then
        match operands with
        | [] => fault (Octets.ascii "-c requires an argument")
        | script :: rest => do
          modify fun s => { s with
            name := rest.head?.getD s.name, arguments := rest.drop 1, line := 1 }
          runText n false false script
      else
        match if (← get).options.contains 's' then none else operands.head? with
        | none => do
          switchOption true 's'
          modify fun s => { s with arguments := operands, line := 1 }
          runText n false true ((← readAll 0).getD [])
        | some file =>
          match (← get).files.read (path file) with
          | .ok content => do
            modify fun s => { s with name := file, arguments := operands.drop 1, line := 1 }
            runText n false true (Octets.ofBytes content)
          | .error .isADirectory => setStatus 0
          | .error reason =>
            fault (Octets.ascii "cannot open " ++ file ++ [':', ' '] ++
              shellFault "No such file" reason)

end

end Script

end DartBundle
