import DartBundle.Script.Program
import DartBundle.Table
/-!
This module contains the text of a script as it is read: octet by octet, with the line that has been
reached and the token that has been looked at.
-/

namespace DartBundle

namespace Script

inductive Token
  | endOfText
  | newline
  | operator (spelling : Octets)
  | redirection (descriptor : Nat) (redirect : Redirect)
  | document (descriptor : Nat) (word : Word)
  | word (word : Word)
  | keyword (name : String)

def keywords : List String :=
  ["!", "case", "do", "done", "elif", "else", "esac", "fi", "for", "if", "in", "then", "until",
    "while", "\x7b", "\x7d"]

def Token.isOperator (token : Token) (spelling : Octets) : Bool :=
  match token with
  | .operator other => decide (other = spelling)
  | _ => false

def Token.isKeyword (token : Token) (name : String) : Bool :=
  match token with
  | .keyword other => decide (other = name)
  | _ => false

def Token.isCloser : Token → Bool
  | .endOfText => true
  | .operator spelling => spelling = [')'] || spelling = [';', ';']
  | .keyword name =>
    ["do", "done", "elif", "else", "esac", "fi", "then", "\x7d"].contains name
  | _ => false

def Token.describe : Token → String
  | .endOfText => "end of file"
  | .newline => "newline"
  | .operator spelling => "\"" ++ Octets.toText spelling ++ "\""
  | .redirection .. => "redirection"
  | .document .. => "redirection"
  | .word _ => "word"
  | .keyword name => "\"" ++ name ++ "\""

structure ScriptFault where
  line : Nat
  text : String

structure Delimiter where
  line : Octets
  stripped : Bool
  quoted : Bool

/--
What is still to be read of a script. The lines of a document follow those of the command that it
belongs to, so when the command has been read, the document is not known yet. Documents are told
apart by the order in which they are met.
-/
structure Source where
  rest : Octets
  line : Nat := 1
  pushed : Option Token := none
  met : Nat := 0
  awaited : List (Nat × Delimiter) := []
  documents : Table Nat Word := .empty
  known : Table Nat Word := .empty
  /-- What ends the document that is being read. -/
  closing : Option Delimiter := none
  behind : Octets := []

abbrev Reading := EStateM ScriptFault Source

namespace Source

def fail (text : String) : Reading α := do
  throw ⟨(← get).line, "Syntax error: " ++ text⟩

def joinLines : Octets → Nat → Octets × Nat
  | '\\' :: '\n' :: rest, count => joinLines rest (count + 1)
  | rest, count => (rest, count)

def peek : Reading (Option Char) := do
  let s ← get
  match s.rest with
  | '\\' :: '\n' :: _ =>
    let (rest, count) := joinLines s.rest 0
    set { s with rest, line := s.line + count }
    return rest.head?
  | rest => return rest.head?

def advance (octets : Octets) : Reading Unit :=
  modify fun s =>
    let breaks := octets.countP (· = '\n')
    { s with
      rest := s.rest.drop octets.length
      line := s.line + breaks }

def next : Reading (Option Char) := do
  match ← peek with
  | some c =>
    advance [c]
    return some c
  | none => return none

def accept (c : Char) : Reading Bool := do
  if (← peek) = some c then
    advance [c]
    return true
  else
    return false

def takeWhile (test : Char → Bool) : Reading Octets := do
  let octets := (← get).rest.takeWhile test
  advance octets
  return octets

def takeUpTo (close : Char) (complaint : String) : Reading Octets := do
  let octets ← takeWhile (· ≠ close)
  match (← get).rest with
  | [] => fail complaint
  | c :: _ =>
    advance [c]
    return octets

def takeName : Nat → (Char → Bool) → Reading Octets
  | 0, _ => return []
  | n + 1, test => do
    match ← peek with
    | some c =>
      if test c then
        advance [c]
        return c :: (← takeName n test)
      else
        return []
    | none => return []

def startLine : Reading Unit := do
  match (← get).closing with
  | none => return
  | some delimiter =>
    if delimiter.stripped then
      let _ ← takeWhile (· = '\t')
    let rest := (← get).rest
    let line := rest.takeWhile (· ≠ '\n')
    if line = delimiter.line then
      advance (rest.take (line.length + 1))
      modify fun s => { s with rest := [], behind := s.rest }

def takeLines : Nat → Reading Octets
  | 0 => return []
  | n + 1 => do
    startLine
    let rest := (← get).rest
    let line := rest.take ((rest.takeWhile (· ≠ '\n')).length + 1)
    advance line
    if line.isEmpty then return [] else return line ++ (← takeLines n)

def knowing (reading : Reading α) : Reading α := do
  let start ← get
  let found ← reading
  let documents := (← get).documents
  if documents.isEmpty then
    return found
  else
    set { start with known := documents }
    reading

def apart (script : Octets) (reading : Reading α) : Reading α := do
  let s ← get
  set { rest := script : Source }
  let found ← knowing reading
  set s
  return found

def within (delimiter : Delimiter) (reading : Reading α) : Reading α := do
  let s ← get
  set { s with
    met := 0
    documents := .empty
    known := .empty
    closing := some delimiter
    behind := [] }
  let found ← knowing reading
  modify fun inner => { s with rest := inner.behind, line := inner.line }
  return found

end Source

end Script

end DartBundle
