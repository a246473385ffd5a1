import DartBundle.Script.Tool.Expression
import DartBundle.Script.Tool.Naming
/-!
This module contains the programs that work on the lines an expression matches: `grep` and `sed`.
-/

namespace DartBundle

namespace Script

namespace Tool

def grep : Tool := fun call =>
  call.withOptions "cqv" 2 fun o =>
    match o.operands with
    | [] => do
      Shell.complain (phrase "Usage: " call.name " [OPTION]... PATTERNS [FILE]...")
      call.advise
      return 2
    | pattern :: words => do
      let e := Expression.read pattern
      let mut found := false
      let mut failed := false
      for word in Call.orInput words do
        match ← Call.read word with
        | .error fault =>
          call.complainOf word fault
          failed := true
        | .ok octets =>
          let lines := octets.lines.filter fun line => (e.search? true line).isSome != o.has 'v'
          let front := if 1 < words.length then word ++ [':'] else []
          let shown := if o.has 'c' then [Octets.ofNat lines.length] else lines
          if !o.has 'q' then
            let _ ← Shell.print (shown.flatMap fun line => front ++ line ++ ['\n'])
          found := found || !lines.isEmpty
      return if failed then 2 else if found then 0 else 1

inductive Address
  | all
  | line (number : Nat)
  | last
  | fitting (expression : Expression)

inductive Edit
  | print
  | delete
  | substitute (expression : Expression) (written : Octets) (everywhere printed : Bool)

namespace Edit

def takeUntil (delimiter : Char) : Octets → Option (Octets × Octets)
  | [] => none
  | '\\' :: c :: rest => do
    let (text, behind) ← takeUntil delimiter rest
    some (if c = delimiter then c :: text else '\\' :: c :: text, behind)
  | c :: rest =>
    if c = delimiter then
      some ([], rest)
    else do
      let (text, behind) ← takeUntil delimiter rest
      some (c :: text, behind)

def takeAddress (text : Octets) : Option (Address × Octets) :=
  match text with
  | '$' :: rest => some (.last, rest)
  | '/' :: rest => do
    let (pattern, behind) ← takeUntil '/' rest
    some (.fitting (Expression.read pattern), behind)
  | text =>
    match text.span Octets.isDigit with
    | ([], rest) => some (.all, rest)
    | (digits, rest) => some (.line (Octets.value 10 digits), rest)

def read (text : Octets) : Option (Address × Edit) := do
  let (address, rest) ← takeAddress text
  match rest with
  | ['p'] => some (address, .print)
  | ['d'] => some (address, .delete)
  | 's' :: delimiter :: rest => do
    let (pattern, rest) ← takeUntil delimiter rest
    let (written, flags) ← takeUntil delimiter rest
    if flags.all fun c => c = 'g' || c = 'p' then
      some (address, .substitute (Expression.read pattern) written (flags.contains 'g')
        (flags.contains 'p'))
    else
      none
  | _ => none

def writtenFor (matched : Octets) : Octets → Octets
  | [] => []
  | '\\' :: 'n' :: rest => '\n' :: writtenFor matched rest
  | '\\' :: c :: rest => c :: writtenFor matched rest
  | '&' :: rest => matched ++ writtenFor matched rest
  | c :: rest => c :: writtenFor matched rest

def apply (edit : Edit) (quiet : Bool) (line : Octets) : List Octets :=
  let kept (line : Octets) : List Octets := if quiet then [] else [line]
  match edit with
  | .print => line :: kept line
  | .delete => []
  | .substitute e written everywhere printed =>
    match e.replace (writtenFor · written) everywhere (line.length + 2) true false line with
    | none => kept line
    | some changed => if printed then changed :: kept changed else kept changed

end Edit

def sed : Tool := fun call =>
  call.withOptions "n" 1 fun o =>
    match o.operands with
    | [] => call.misuse 1 (Octets.ascii "no script")
    | script :: words =>
      match Edit.read script with
      | none => call.fail 1 (phrase "-e expression #1: unknown command: " (Octets.inMarks script))
      | some (address, edit) => do
        let mut octets : Octets := []
        let mut status := 0
        for word in Call.orInput words do
          match ← Call.read word with
          | .ok more => octets := octets ++ more
          | .error fault =>
            call.complainOf (phrase "can't read " word) fault
            status := 2
        let lines := octets.lines
        let addressed (number : Nat) (line : Octets) : Bool := match address with
          | .all => true
          | .line n => number = n
          | .last => number = lines.length
          | .fitting e => (e.search? true line).isSome
        let printed := (lines.zipIdx 1).map fun (line, number) =>
          if addressed number line then edit.apply (o.has 'n') line
          else if o.has 'n' then [] else [line]
        let text := printed.flatten.flatMap fun line => line ++ ['\n']
        let open? := octets.getLast?.any (· ≠ '\n') && printed.getLast?.any fun last => !last.isEmpty
        let _ ← Shell.print (if open? then text.dropLast else text)
        return status

end Tool

end Script

end DartBundle
