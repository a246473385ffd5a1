import DartBundle.Script.Tool.Naming
/-!
This module contains the permissions of files, and the program `chmod` that changes them. Three bits
each for the owner, the group and the others lie below three bits that concern all of them.
-/

namespace DartBundle

namespace Script

namespace Tool

def modeText (mode : Nat) : Octets :=
  (List.range 9).map fun n =>
    let isSet := mode / Nat.pow 2 (8 - n) % 2 = 1
    let isSpecial := n % 3 = 2 && mode / Nat.pow 2 (11 - n / 3) % 2 = 1
    let letter := if !isSpecial then (['r', 'w', 'x'][n % 3]?).getD '-'
      else if n = 8 then 't' else 's'
    if isSet then letter else if isSpecial then letter.toUpper else '-'

def isMode (word : Octets) : Bool :=
  if word.all Octets.isDigit then
    !word.isEmpty && (word.all fun c => (Octets.digit? 8 c).isSome) &&
      decide (Octets.value 8 word < 4096)
  else
    (List.splitOn ',' word).all fun part =>
      let rest := part.dropWhile fun c => "ugoa".contains c
      (rest.head?.any fun c => "+-=".contains c) && rest.all fun c => "+-=rwxXstugo".contains c

def permissionBits (directory : Bool) (mode : Nat) (c : Char) : Nat :=
  match c with
  | 'r' => 0o444
  | 'w' => 0o222
  | 'x' => 0o111
  | 'X' => if directory || mode &&& 0o111 ≠ 0 then 0o111 else 0
  | 's' => 0o6000
  | 't' => 0o1000
  | 'u' => (mode / 0o100 % 8) * 0o111
  | 'g' => (mode / 0o10 % 8) * 0o111
  | 'o' => (mode % 8) * 0o111
  | _ => 0

def userBits (mask : Nat) (users : Octets) : Nat :=
  if users.isEmpty then
    0o7777 &&& (0o7777 - mask)
  else
    users.foldl (fun bits c => bits ||| match c with
      | 'u' => 0o4700
      | 'g' => 0o2070
      | 'o' => 0o1007
      | _ => 0o7777) 0

def changeBits (directory : Bool) (users : Nat) : Nat → Octets → Nat → Nat
  | 0, _, mode => mode
  | n + 1, text, mode =>
    match text with
    | [] => mode
    | sign :: rest =>
      let (letters, rest) := rest.span fun c => !"+-=".contains c
      let bits := letters.foldl (fun bits c => bits ||| permissionBits directory mode c) 0 &&& users
      let changed := match sign with
        | '+' => mode ||| bits
        | '-' => mode &&& (0o7777 - bits)
        | _ =>
          let kept := if directory && !letters.contains 's' then 0o6000 else 0
          (mode &&& ((0o7777 - users) ||| kept)) ||| bits
      changeBits directory users n rest changed

def applyMode (mask : Nat) (directory : Bool) (word : Octets) (mode : Nat) : Nat :=
  if word.all Octets.isDigit then
    let kept := if directory && decide (word.length < 5) then mode &&& 0o6000 else 0
    Octets.value 8 word % 4096 ||| kept
  else
    (List.splitOn ',' word).foldl (fun mode part =>
      let (users, rest) := part.span fun c => "ugoa".contains c
      changeBits directory (userBits mask users) rest.length rest mode) mode

def takeDashedMode : List Octets → Option Octets × List Octets
  | [] => (none, [])
  | word :: rest =>
    match word with
    | '-' :: c :: _ =>
      if word = ['-', '-'] then
        (none, word :: rest)
      else if "rwxXstugo".contains c then
        (some word, rest)
      else
        let (mode, others) := takeDashedMode rest
        (mode, word :: others)
    | word =>
      let (mode, others) := takeDashedMode rest
      (mode, word :: others)

def changeMode (call : Call) (change : Bool → Nat → Nat) (word : Octets) : Act Bool := do
  let t := (← get).files
  match t.find (Shell.path word) true with
  | .error fault => do
    if t.isLink (Shell.path word) then
      call.complain (phrase "cannot operate on dangling symlink " (Octets.inQuotes word))
    else
      call.complainOf (phrase "cannot access " (Octets.inQuotes word)) fault
    return false
  | .ok (_, entry) => do
    modify fun s => { s with
      files := s.files.revise entry.number fun e =>
        { e with mode := change entry.isDirectory entry.mode } }
    return true

def chmod : Tool := fun call =>
  let (dashed, arguments) := takeDashedMode call.arguments
  { call with arguments }.withOptions "" 1 fun o => do
    let mask := (← get).mask
    let run (mode : Octets) (words : List Octets) : Act Nat :=
      Call.forEach words (changeMode call fun directory => applyMode mask directory mode)
    match dashed, o.operands with
    | some mode, words => run mode words
    | none, [] => call.misuse 1 (Octets.ascii "missing operand")
    | none, [mode] => call.misuse 1 (phrase "missing operand after " (Octets.inMarks mode))
    | none, mode :: words =>
      if isMode mode then run mode words
      else call.misuse 1 (phrase "invalid mode: " (Octets.inMarks mode))

end Tool

end Script

end DartBundle
