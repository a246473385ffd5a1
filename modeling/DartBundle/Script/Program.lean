import DartBundle.Script.Octets
/-!
This module contains the programs of the shell language: words, which are expanded before a command
sees them, and commands.
-/

namespace DartBundle

namespace Script

inductive Cut
  | shortestFront
  | longestFront
  | shortestBack
  | longestBack
  deriving DecidableEq

inductive Instead
  | use
  | assign
  | complain
  | onlyIfSet
  deriving DecidableEq

inductive Redirect
  | read
  | write
  | overwrite
  | append
  | both
  | duplicate (reading : Bool)
  | document
  deriving DecidableEq

mutual

inductive Part
  | text (quoted : Bool) (octets : Octets)
  | parameter (quoted : Bool) (name : Octets)
  | length (quoted : Bool) (name : Octets)
  | choice (quoted : Bool) (name : Octets) (orEmpty : Bool) (instead : Instead) (word : List Part)
  | trimmed (quoted : Bool) (name : Octets) (cut : Cut) (pattern : List Part)
  | output (quoted : Bool) (body : Program)
  | arithmetic (quoted : Bool) (expression : List Part)
  | senseless

inductive Redirection
  | mk (descriptor : Nat) (redirect : Redirect) (word : List Part)

inductive Program
  | empty
  | simple (line : Nat) (assignments : List (Octets × List Part)) (words : List (List Part))
      (redirections : List Redirection)
  | redirected (line : Nat) (body : Program) (redirections : List Redirection)
  | pipeline (stages : List Program)
  | negation (body : Program)
  | sequence (first second : Program)
  | conjunction (first second : Program)
  | disjunction (first second : Program)
  | subshell (line : Nat) (body : Program)
  | background (body : Program)
  | conditional (condition consequence alternative : Program)
  | loop (expected : Bool) (condition body : Program)
  | each (line : Nat) (name : Octets) (words : Option (List (List Part))) (body : Program)
  | choose (line : Nat) (word : List Part) (clauses : List (List (List Part) × Program))
  | definition (line : Nat) (name : Octets) (body : Program)

end

instance : Inhabited Program := ⟨.empty⟩

abbrev Word := List Part

def plain? : Word → Option Octets
  | [.text false octets] => some octets
  | _ => none

def isNameStart (c : Char) : Bool :=
  Octets.isLetter c || c = '_'

def isNameRest (c : Char) : Bool :=
  isNameStart c || Octets.isDigit c

def isName : Octets → Bool
  | [] => false
  | c :: rest => isNameStart c && rest.all isNameRest

def assignment? : Word → Option (Octets × Word)
  | .text false octets :: rest =>
    match octets.span (· ≠ '=') with
    | (_, []) => none
    | (name, _ :: value) =>
      if isName name then
        some (name, if value.isEmpty then rest else .text false value :: rest)
      else
        none
  | _ => none

end Script

end DartBundle
