import DartBundle.Text.Basic
/-!
This module contains the arguments of the program: the commands, the options that each has, and the
reading of an argument list. The first argument that cannot be taken decides what the reading ends
in.
-/

namespace DartBundle

namespace CommandLine

inductive Request
  | build (entry graph : String) (packages : List String) (stagingDirectory : Option String)
      (outputDirectory : String) (sdk : Option String) (compilerArguments : List String)
  | closure (entry graph : String)
  | arguments (entry stagingDirectory : String) (sdk : Option String)
    (compilerArguments : List String)
  deriving DecidableEq

inductive Reading
  | request (request : Request) (verbose : Bool)
  | help
  | version
  | misuse
  deriving DecidableEq

structure ValueOption where
  name : String
  letter : Option Char := none
  repeatable : Bool := false
  greedy : Bool := false
  deriving DecidableEq

def ValueOption.isPath (o : ValueOption) : Bool :=
  !o.repeatable

inductive CommandName
  | build
  | closure
  | arguments
  deriving DecidableEq

def CommandName.read? : String → Option CommandName
  | "build" => some .build
  | "closure" => some .closure
  | "args" => some .arguments
  | _ => none

def graphOption : ValueOption := { name := "graph" }
def packageOption : ValueOption := { name := "package", letter := some 'p', repeatable := true }
def stagingOption : ValueOption := { name := "staging-dir" }
def outputOption : ValueOption := { name := "output-dir", letter := some 'o' }
def sdkOption : ValueOption := { name := "sdk" }
def compilerOption : ValueOption := { name := "arg", repeatable := true, greedy := true }

def CommandName.options : CommandName → List ValueOption
  | .build => [graphOption, packageOption, stagingOption, outputOption, sdkOption, compilerOption]
  | .closure => [graphOption]
  | .arguments => [stagingOption, sdkOption, compilerOption]

structure Draft where
  command : CommandName
  entry : Option String := none
  values : List (String × String) := []
  verbose : Bool := false

namespace Draft

def value? (d : Draft) (name : String) : Option String :=
  (d.values.find? fun (other, _) => decide (other = name)).map (·.2)

def all (d : Draft) (name : String) : List String :=
  ((d.values.filter fun (other, _) => decide (other = name)).map (·.2)).reverse

def addValue (d : Draft) (o : ValueOption) (value : String) : Option Draft :=
  if (o.isPath && value.isEmpty) || (!o.repeatable && (d.value? o.name).isSome) then
    none
  else
    some { d with values := (o.name, value) :: d.values }

def addEntry (d : Draft) (entry : String) : Option Draft :=
  match d.entry with
  | some _ => none
  | none => some { d with entry := some entry }

def setVerbose (d : Draft) : Option Draft :=
  if d.verbose then none else some { d with verbose := true }

def request? (d : Draft) : Option Request := do
  let entry ← d.entry
  match d.command with
  | .build =>
    return .build entry (← d.value? "graph") (d.all "package") (d.value? "staging-dir")
      (← d.value? "output-dir") (d.value? "sdk") (d.all "arg")
  | .closure => return .closure entry (← d.value? "graph")
  | .arguments => return .arguments entry (← d.value? "staging-dir") (d.value? "sdk") (d.all "arg")

end Draft

inductive Taken
  | value (value : String) (rest : List String)
  | missing

def takeValue (o : ValueOption) : List String → Taken
  | [] => .missing
  | argument :: rest =>
    match argument.toList with
    -- a single dash is a value like any other
    | '-' :: _ :: _ => if o.greedy then .value argument rest else .missing
    | _ => .value argument rest

inductive Next
  | goOn (draft : Draft) (rest : List String)
  | stop (reading : Reading)

def Next.ofValue (d : Draft) (o : ValueOption) : Taken → Next
  | .missing => .stop .misuse
  | .value value rest =>
    match d.addValue o value with
    | some d => .goOn d rest
    | none => .stop .misuse

def readLong (d : Draft) (name : String) (value : Option String) (rest : List String) : Next :=
  if name = "help" && value.isNone then
    .stop .help
  else if name = "verbose" && value.isNone then
    match d.setVerbose with
    | some d => .goOn d rest
    | none => .stop .misuse
  else
    match d.command.options.find? fun o => decide (o.name = name) with
    | none => .stop .misuse
    | some o =>
      match value with
      | some value => .ofValue d o (.value value rest)
      | none => .ofValue d o (takeValue o rest)

/--
Reads the letters of short options. The first option that takes a value ends the letters: what is
left of them is the value, behind an equals sign if there is one.
-/
def readLetters (d : Draft) (rest : List String) : List Char → Next
  | [] => .goOn d rest
  | letter :: letters =>
    if letter = 'h' then
      .stop .help
    else if letter = 'v' then
      match d.setVerbose with
      | some d => readLetters d rest letters
      | none => .stop .misuse
    else
      match d.command.options.find? fun o => decide (o.letter = some letter) with
      | none => .stop .misuse
      | some o =>
        match letters with
        | [] => .ofValue d o (takeValue o rest)
        | '=' :: value => .ofValue d o (.value (String.ofList value) rest)
        | value => .ofValue d o (.value (String.ofList value) rest)

def splitLong (argument : List Char) : String × Option String :=
  match Text.cut? '=' argument with
  | some (name, value) => (String.ofList name, some (String.ofList value))
  | none => (String.ofList argument, none)

def readOne (d : Draft) (argument : String) (rest : List String) : Next :=
  match argument.toList with
  | '-' :: '-' :: name =>
    let (name, value) := splitLong name
    readLong d name value rest
  | '-' :: letter :: letters => readLetters d rest (letter :: letters)
  | _ =>
    match d.addEntry argument with
    | some d => .goOn d rest
    | none => .stop .misuse

def Draft.finish (d : Draft) : Reading :=
  match d.request? with
  | some request => .request request d.verbose
  | none => .misuse

def readEntries (d : Draft) : List String → Reading
  | [] => d.finish
  | argument :: rest =>
    match d.addEntry argument with
    | some d => readEntries d rest
    | none => .misuse

def readCommand : Nat → Draft → List String → Reading
  | _, d, [] => d.finish
  | 0, _, _ => .misuse
  | n + 1, d, argument :: rest =>
    if argument = "--" then
      readEntries d rest
    else
      match readOne d argument rest with
      | .goOn d rest => readCommand n d rest
      | .stop reading => reading

inductive Leading
  | verbose
  | stop (reading : Reading)

def readFlags (verbose : Bool) : List Char → Leading
  | [] => .verbose
  | 'v' :: letters => if verbose then .stop .misuse else readFlags true letters
  | 'h' :: _ => .stop .help
  | 'V' :: _ => .stop .version
  | _ => .stop .misuse

def read (verbose : Bool) : List String → Reading
  | [] => .misuse
  | argument :: rest =>
    match CommandName.read? argument with
    | some command =>
      match readCommand rest.length { command } rest with
      | .request request inner => .request request (verbose || inner)
      | reading => reading
    | none =>
      if argument = "help" then
        match rest with
        | [] => .help
        | [name] => if (CommandName.read? name).isSome || name = "help" then .help else .misuse
        | _ => .misuse
      else if argument = "--help" then
        .help
      else if argument = "--version" then
        .version
      else if argument = "--verbose" then
        if verbose then .misuse else read true rest
      else
        match argument.toList with
        | '-' :: letter :: letters =>
          match readFlags verbose (letter :: letters) with
          | .verbose => read true rest
          | .stop reading => reading
        | _ => .misuse

end CommandLine

end DartBundle
