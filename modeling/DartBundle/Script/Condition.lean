import DartBundle.Script.Redirect
/-!
This module contains the conditions of the command `test`, which is also written with brackets. How
a word is understood depends on how many words there are and on what follows it.
-/

namespace DartBundle

namespace Script

namespace Condition

inductive Kind
  | oneOperand
  | twoOperands
  | conjunction
  | disjunction
  | negation
  | opening
  | closing
  deriving DecidableEq

def kind? (word : Octets) : Option Kind :=
  match String.ofList word with
  | "!" => some .negation
  | "(" => some .opening
  | ")" => some .closing
  | "-a" => some .conjunction
  | "-o" => some .disjunction
  | name =>
    if ["=", "!=", "<", ">", "-eq", "-ne", "-gt", "-ge", "-lt", "-le", "-nt", "-ot", "-ef"].contains
        name then
      some .twoOperands
    else if ["-r", "-w", "-x", "-e", "-f", "-d", "-c", "-b", "-p", "-u", "-g", "-k", "-s", "-t",
        "-z", "-n", "-h", "-L", "-O", "-G", "-S"].contains name then
      some .oneOperand
    else
      none

inductive Fault
  | notANumber (word : Octets)
  | unexpected (word : Octets)
  | argumentExpected (operator : Octets)
  | unclosed

def Fault.message : Fault → Octets
  | .notANumber word => Octets.ascii "Illegal number: " ++ word
  | .unexpected word =>
    (if word.isEmpty then [] else word ++ [':', ' ']) ++ Octets.ascii "unexpected operator"
  | .argumentExpected operator => operator ++ Octets.ascii ": argument expected"
  | .unclosed => Octets.ascii "closing paren expected"

inductive Subject
  | entry (e : Entry)
  | device
  | pipe

def subject? (s : Shell) (operand : Octets) : Option Subject :=
  match Shell.described? s operand with
  | some none => none
  | some (some .nothing) => some .device
  | some (some .directory) => some (.entry Entry.root)
  | some (some (.file number _ _)) => (s.files.entry? number).map .entry
  | some (some _) => some .pipe
  | none =>
    (s.files.find operand.toText true).toOption.map fun (l, e) =>
      if l = Shell.nullDevice then .device else .entry e

def ask (s : Shell) (operator operand : Octets) : Bool :=
  let subject? := subject? s operand
  let isEntry (test : Entry → Bool) : Bool := subject?.any fun
    | .entry e => test e
    | _ => false
  let isLink : Bool := match Shell.described? s operand with
    | some channel => channel.isSome
    | none => s.files.isLink operand.toText
  match String.ofList operator with
  | "-n" => !operand.isEmpty
  | "-z" => operand.isEmpty
  | "-c" => subject?.any fun
    | .device => true
    | _ => false
  | "-p" => subject?.any fun
    | .pipe => true
    | _ => false
  | "-f" => isEntry Entry.isFile
  | "-d" => isEntry Entry.isDirectory
  | "-r" => subject?.isSome && !isEntry fun e => !e.isReadable
  | "-w" => subject?.isSome && !isEntry fun e => !e.isWritable
  | "-x" => isEntry Entry.isExecutable
  | "-s" => isEntry fun e => match e.kind with
    | .file content => content.size > 0
    | _ => true
  | "-L" => isLink
  | "-h" => isLink
  | "-u" => isEntry fun e => e.mode &&& 0o4000 ≠ 0
  | "-g" => isEntry fun e => e.mode &&& 0o2000 ≠ 0
  | "-k" => isEntry fun e => e.mode &&& 0o1000 ≠ 0
  | operator => ["-e", "-O", "-G"].contains operator && subject?.isSome

def number (word : Octets) : Except Fault Int :=
  match Octets.takeInt? (some 10) word with
  | some (n, rest) =>
    if rest.all Octets.isSpace && n = Octets.saturate n then .ok n else .error (.notANumber word)
  | none => .error (.notANumber word)

def compare (s : Shell) (left operator right : Octets) : Except Fault Bool := do
  let find (word : Octets) := (s.files.find word.toText true).toOption.map (·.2)
  let newer (a b : Octets) : Bool :=
    match find a, find b with
    | some a, some b => decide (s.files.changeTime b < s.files.changeTime a)
    | _, _ => false
  match String.ofList operator with
  | "=" => return decide (left = right)
  | "!=" => return decide (left ≠ right)
  | "<" => return Text.before left right
  | ">" => return Text.before right left
  | "-nt" => return newer left right
  | "-ot" => return newer right left
  | "-ef" =>
    return match find left, find right with
      | some a, some b => decide (a.number = b.number)
      | _, _ => false
  | operator =>
    let a ← number left
    let b ← number right
    return match operator with
      | "-eq" => decide (a = b)
      | "-ne" => decide (a ≠ b)
      | "-gt" => decide (b < a)
      | "-ge" => decide (b ≤ a)
      | "-lt" => decide (a < b)
      | _ => decide (a ≤ b)

inductive Token
  | finish
  | operand
  | operator (kind : Kind)
  deriving DecidableEq

/--
What the first of some words is. An operator of one operand is itself an operand if nothing follows
it, or if an operator of two operands does.
-/
def token : List Octets → Token
  | [] => .finish
  | word :: rest =>
    match kind? word with
    | none => .operand
    | some .oneOperand =>
      match rest with
      | [] => .operand
      | [_] => .operator .oneOperand
      | next :: _ => if kind? next = some .twoOperands then .operand else .operator .oneOperand
    | some .opening => if rest.isEmpty then .operand else .operator .opening
    | some kind => .operator kind

mutual

def disjunction (s : Shell) : Nat → Token → List Octets → Except Fault (Bool × List Octets)
  | 0, _, words => .ok (false, words)
  | n + 1, first, words => do
    let (a, words) ← conjunction s n first words
    if token (words.drop 1) = .operator .disjunction then
      let (b, words) ← disjunction s n (token (words.drop 2)) (words.drop 2)
      return (a || b, words)
    else
      return (a, words)

def conjunction (s : Shell) : Nat → Token → List Octets → Except Fault (Bool × List Octets)
  | 0, _, words => .ok (false, words)
  | n + 1, first, words => do
    let (a, words) ← negation s n first words
    if token (words.drop 1) = .operator .conjunction then
      let (b, words) ← conjunction s n (token (words.drop 2)) (words.drop 2)
      return (a && b, words)
    else
      return (a, words)

def negation (s : Shell) : Nat → Token → List Octets → Except Fault (Bool × List Octets)
  | 0, _, words => .ok (false, words)
  | n + 1, first, words => do
    if first = .operator .negation then
      let next := token (words.drop 1)
      let (a, words) ← negation s n next (if next = .finish then words else words.drop 1)
      return (!a, words)
    else
      primary s n first words

def primary (s : Shell) : Nat → Token → List Octets → Except Fault (Bool × List Octets)
  | 0, _, words => .ok (false, words)
  | n + 1, first, words => do
    let word := words.head?.getD []
    match first with
    | .finish => return (false, words)
    | .operator .opening =>
      let inner := words.drop 1
      if token inner = .operator .closing then
        return (false, inner)
      let (a, words) ← disjunction s n (token inner) inner
      if token (words.drop 1) = .operator .closing then
        return (a, words.drop 1)
      else
        throw .unclosed
    | .operator .oneOperand =>
      match words.drop 1 with
      | [] => throw (.argumentExpected word)
      | operand :: rest => return (ask s word operand, operand :: rest)
    | _ =>
      if token (words.drop 1) = .operator .twoOperands then
        let operator := (words.drop 1).head?.getD []
        match words.drop 2 with
        | [] => throw (.argumentExpected operator)
        | operand :: rest => return (← compare s word operator operand, operand :: rest)
      else
        return (!word.isEmpty, words)

end

def plain (s : Shell) (first : Token) (words : List Octets) : Except Fault Bool := do
  let (a, behind) ← disjunction s (4 * words.length + 4) first words
  match behind with
  | word :: _ :: _ => throw (.unexpected word)
  | _ => return a

/--
The truth of a condition. Of three words an operator in the middle comes first, and of three or four
words parentheses around them. Of so many words the first one may negate the others, which then are
looked at alike, but negate nothing once more.
-/
def holds (s : Shell) (words : List Octets) : Except Fault Bool :=
  look false words
where
  look (negated : Bool) : List Octets → Except Fault Bool
    | [] => plain s .finish []
    | word :: others =>
      let result (answer : Except Fault Bool) := answer.map fun a => negated != a
      let words := word :: others
      let few := others.length = 2 || others.length = 3
      if others.length = 2 && (others.head?.bind kind?) = some .twoOperands then
        result (plain s .operand words)
      else if few && word = ['('] && others.getLast? = some [')'] then
        result (plain s (token others.dropLast) others.dropLast)
      else if few && word = ['!'] then
        look true others
      else
        result (plain s (token words) words)

end Condition

def testCondition (words : List Octets) : Act Nat := do
  if words.isEmpty then
    return 1
  match Condition.holds (← get) words with
  | .ok true => return 0
  | .ok false => return 1
  | .error fault => Shell.fault fault.message

def testBracket (words : List Octets) : Act Nat := do
  if words.getLast? = some [']'] then
    testCondition words.dropLast
  else
    Shell.fault (Octets.ascii "missing ]")

end Script

end DartBundle
