import DartBundle.Script.Program
/-!
This module contains arithmetic expressions: whole numbers of 64 bits and variables, joined by the
operators of C. An expression may assign variables.
-/

namespace DartBundle

namespace Script

namespace Arithmetic

inductive Token
  | number (n : Int)
  | name (name : Octets)
  | operator (spelling : String)
  | finish
  deriving DecidableEq

def operators (first : Char) : List String :=
  match first with
  | '<' => ["<<=", "<=", "<<", "<"]
  | '>' => [">>=", ">=", ">>", ">"]
  | '|' => ["||", "|=", "|"]
  | '&' => ["&&", "&=", "&"]
  | '=' => ["==", "="]
  | '!' => ["!=", "!"]
  | '+' => ["+=", "+"]
  | '-' => ["-=", "-"]
  | '*' => ["*=", "*"]
  | '/' => ["/=", "/"]
  | '%' => ["%=", "%"]
  | '^' => ["^=", "^"]
  | '~' => ["~"]
  | '(' => ["("]
  | ')' => [")"]
  | '?' => ["?"]
  | ':' => [":"]
  | _ => []

def token (octets : Octets) : Token × Octets :=
  match octets.dropWhile fun c => c = ' ' || c = '\t' || c = '\n' with
  | [] => (.finish, [])
  | c :: rest =>
    if Octets.isDigit c then
      match Octets.takeInt? none (c :: rest) with
      | some (n, rest) => (.number (Octets.saturate n), rest)
      | none => (.number 0, rest)
    else if isNameStart c then
      (.name (c :: rest.takeWhile isNameRest), rest.dropWhile isNameRest)
    else
      match (operators c).find? fun operator => operator.toList.isPrefixOf (c :: rest) with
      | some operator => (.operator operator, (c :: rest).drop operator.length)
      | none => (.operator "", c :: rest)

inductive Fault
  | expecting (what : String)
  | divisionByZero
  | notANumber (value : Octets)

structure State where
  token : Token
  rest : Octets
  lookup : Octets → Option Octets
  assigned : List (Octets × Int) := []

abbrev Evaluation := EStateM Fault State

def advance : Evaluation Unit :=
  modify fun s =>
    let (token, rest) := token s.rest
    { s with token, rest }

def variableValue (name : Octets) : Evaluation Int := do
  let s ← get
  match s.assigned.find? fun (other, _) => decide (other = name) with
  | some (_, value) => return value
  | none =>
    let value := (s.lookup name).getD []
    match Octets.takeInt? none value with
    | some (n, rest) =>
      if rest.all Octets.isSpace && n = Octets.saturate n then
        return n
      else
        throw (.notANumber value)
    | none => if value.all Octets.isSpace then return 0 else throw (.notANumber value)

def ofBool (b : Bool) : Int :=
  if b then 1 else 0

def bits (n : Int) : Nat :=
  (n % (Nat.pow 2 64 : Nat)).toNat

def ofBits (n : Nat) : Int :=
  Octets.wrap n

def apply (operator : String) (a b : Int) : Except Fault Int :=
  let places := bits b % 64
  match operator with
  | "==" => .ok (ofBool (a = b))
  | "!=" => .ok (ofBool (a ≠ b))
  | "<=" => .ok (ofBool (a ≤ b))
  | ">=" => .ok (ofBool (b ≤ a))
  | "<" => .ok (ofBool (a < b))
  | ">" => .ok (ofBool (b < a))
  | "+" => .ok (Octets.wrap (a + b))
  | "-" => .ok (Octets.wrap (a - b))
  | "*" => .ok (Octets.wrap (a * b))
  | "/" => if b = 0 then .error .divisionByZero else .ok (Octets.wrap (a.tdiv b))
  | "%" => if b = 0 then .error .divisionByZero else .ok (a.tmod b)
  | "<<" => .ok (Octets.wrap (a * (Nat.pow 2 places : Nat)))
  | ">>" => .ok (Int.fdiv a (Nat.pow 2 places : Nat))
  | "&" => .ok (ofBits (bits a &&& bits b))
  | "|" => .ok (ofBits (bits a ||| bits b))
  | _ => .ok (ofBits (Nat.xor (bits a) (bits b)))

def strength? : Token → Option (String × Nat)
  | .operator operator =>
    let levels : List (List String) := [["*", "/", "%"], ["+", "-"], ["<<", ">>"],
      ["<", "<=", ">", ">="], ["==", "!="], ["&"], ["^"], ["|"]]
    (levels.findIdx? fun level => level.contains operator).map fun n => (operator, n)
  | _ => none

def assigning? : Token → Option (Option String)
  | .operator "=" => some none
  | .operator operator =>
    if ["<<=", ">>=", "+=", "-=", "*=", "/=", "%=", "&=", "|=", "^="].contains operator then
      some (some (String.ofList operator.toList.dropLast))
    else
      none
  | _ => none

def applied (operator : String) (a b : Int) : Evaluation Int :=
  match apply operator a b with
  | .ok value => return value
  | .error fault => throw fault

mutual

def primary : Nat → Bool → Evaluation Int
  | 0, _ => return 0
  | n + 1, idle => do
    let token := (← get).token
    match token with
    | .number value =>
      advance
      return value
    | .name name =>
      advance
      if idle then return 0 else variableValue name
    | .operator "+" =>
      advance
      primary n idle
    | .operator "-" =>
      advance
      return Octets.wrap (-(← primary n idle))
    | .operator "!" =>
      advance
      return ofBool ((← primary n idle) = 0)
    | .operator "~" =>
      advance
      return -(← primary n idle) - 1
    | .operator "(" =>
      advance
      let value ← assignment n idle
      if (← get).token = .operator ")" then
        advance
        return value
      else
        throw (.expecting "')'")
    | _ => throw (.expecting "primary")

def joined : Nat → Bool → Nat → Evaluation Int
  | 0, _, _ => return 0
  | n + 1, idle, level => do joinedRest n idle level (← primary n idle)

def joinedRest : Nat → Bool → Nat → Int → Evaluation Int
  | 0, _, _, a => return a
  | n + 1, idle, level, a => do
    match strength? (← get).token with
    | none => return a
    | some (operator, strength) =>
      if level < strength then
        return a
      else
        advance
        let b ← primary n idle
        let b ← match strength with
          | 0 => pure b
          | stronger + 1 => joinedRest n idle stronger b
        let c ← if idle then pure b else applied operator a b
        joinedRest n idle level c

def conjunction : Nat → Bool → Evaluation Int
  | 0, _ => return 0
  | n + 1, idle => do
    let a ← joined n idle 7
    if (← get).token = .operator "&&" then
      advance
      let b ← conjunction n (idle || a = 0)
      return ofBool (a ≠ 0 && b ≠ 0)
    else
      return a

def disjunction : Nat → Bool → Evaluation Int
  | 0, _ => return 0
  | n + 1, idle => do
    let a ← conjunction n idle
    if (← get).token = .operator "||" then
      advance
      let b ← disjunction n (idle || a ≠ 0)
      return ofBool (a ≠ 0 || b ≠ 0)
    else
      return a

def conditional : Nat → Bool → Evaluation Int
  | 0, _ => return 0
  | n + 1, idle => do
    let a ← disjunction n idle
    if (← get).token = .operator "?" then
      advance
      let b ← assignment n (idle || a = 0)
      if (← get).token ≠ .operator ":" then
        throw (.expecting "':'")
      advance
      let c ← conditional n (idle || a ≠ 0)
      return if a ≠ 0 then b else c
    else
      return a

def assignment : Nat → Bool → Evaluation Int
  | 0, _ => return 0
  | n + 1, idle => do
    let s ← get
    match s.token, assigning? (token s.rest).1 with
    | .name name, some operator => do
      advance
      advance
      let value ← assignment n idle
      if idle then
        return value
      else
        let value ← match operator with
          | some operator => do applied operator (← variableValue name) value
          | none => pure value
        modify fun s => { s with assigned := (name, value) :: s.assigned }
        return value
    | _, _ => conditional n idle

end

def evaluate (lookup : Octets → Option Octets) (expression : Octets) :
    Except Fault Int × List (Octets × Int) :=
  let (token, rest) := token expression
  let run : Evaluation Int := do
    let value ← assignment (16 * expression.length + 16) false
    if (← get).token ≠ .finish then
      throw (.expecting "EOF")
    return value
  match run { token, rest, lookup } with
  | .ok value s => (.ok value, s.assigned.reverse)
  | .error fault s => (.error fault, s.assigned.reverse)

def Fault.message (fault : Fault) (expression : Octets) : Octets :=
  match fault with
  | .expecting what =>
    Octets.ascii s!"arithmetic expression: expecting {what}: \"" ++ expression ++ ['"']
  | .divisionByZero =>
    Octets.ascii "arithmetic expression: division by zero: \"" ++ expression ++ ['"']
  | .notANumber value => Octets.ascii "Illegal number: " ++ value

end Arithmetic

end Script

end DartBundle
