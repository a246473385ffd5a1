import DartBundle.Script.Command.Options
import DartBundle.Script.Tool.Basic
/-!
This module contains how a program of the machine takes its options out of its arguments. An option
is a letter behind a dash, and may take an argument.
-/

namespace DartBundle

namespace Script

structure Options where
  given : List (Char × Octets) := []
  operands : List Octets := []

namespace Options

def has (o : Options) (letter : Char) : Bool :=
  o.given.any fun (other, _) => other = letter

def value? (o : Options) (letter : Char) : Option Octets :=
  o.given.reverse.lookup letter

def add (o : Options) (letter : Char) (value : Octets) : Options :=
  { o with given := (letter, value) :: o.given }

/--
Takes the letters behind a dash, the last of which may take the next argument.
-/
def takeLetters (letters : Octets) : Octets → List Octets → Except Octets (Options × List Octets)
  | [], rest => .ok ({}, rest)
  | c :: others, rest =>
    match Shell.letter? letters c with
    | none => .error (phrase "invalid option -- '" [c] "'")
    | some false => do
      let (options, rest) ← takeLetters letters others rest
      .ok (options.add c [], rest)
    | some true =>
      match others, rest with
      | [], [] => .error (phrase "option requires an argument -- '" [c] "'")
      | [], argument :: rest => .ok (({} : Options).add c argument, rest)
      | argument, rest => .ok (({} : Options).add c argument, rest)

def parse (letters : Octets) : Nat → List Octets → Except Octets Options
  | _, [] => .ok {}
  | 0, words => .ok { operands := words }
  | n + 1, word :: rest =>
    match word with
    | ['-', '-'] => .ok { operands := rest }
    | '-' :: c :: others => do
      let (taken, rest) ← takeLetters letters (c :: others) rest
      let more ← parse letters n rest
      .ok { more with given := taken.given ++ more.given }
    | word => do
      let more ← parse letters n rest
      .ok { more with operands := word :: more.operands }

end Options

namespace Call

def withOptions (call : Call) (letters : String) (status : Nat) (body : Options → Act Nat) :
    Act Nat :=
  match Options.parse letters.toList call.arguments.length call.arguments with
  | .error complaint => call.misuse status complaint
  | .ok options => body options

def withOperands (call : Call) (options : Options) (body : Octets → List Octets → Act Nat) :
    Act Nat :=
  match options.operands with
  | [] => call.misuse 1 (Octets.ascii "missing operand")
  | first :: rest => body first rest

def extra (call : Call) (word : Octets) : Act Nat :=
  call.misuse 1 (phrase "extra operand " (Octets.inMarks word))

end Call

end Script

end DartBundle
