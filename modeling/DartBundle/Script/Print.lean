import DartBundle.Script.Command.Options
import DartBundle.Script.Floating
/-!
This module contains the commands `echo` and `printf`.
-/

namespace DartBundle

namespace Script

def takeOctal : Nat → Nat → Octets → Char × Octets
  | 0, value, rest => (Char.ofNat (value % 256), rest)
  | _, value, [] => (Char.ofNat (value % 256), [])
  | n + 1, value, c :: rest =>
    match Octets.digit? 8 c with
    | some digit => takeOctal n (8 * value + digit) rest
    | none => (Char.ofNat (value % 256), c :: rest)

def escaped? : Char → Option Char
  | '\\' => some '\\'
  | 'a' => some '\x07'
  | 'b' => some '\x08'
  | 'e' => some '\x1b'
  | 'f' => some '\x0c'
  | 'n' => some '\n'
  | 'r' => some '\r'
  | 't' => some '\t'
  | 'v' => some '\x0b'
  | _ => none

def unescapeOne (rest : Octets) : Char × Octets :=
  match rest with
  | [] => ('\\', [])
  | c :: behind =>
    if (Octets.digit? 8 c).isSome then
      takeOctal 3 0 (c :: behind)
    else
      match escaped? c with
      | some octet => (octet, behind)
      | none => ('\\', c :: behind)

def unescape : Nat → Octets → Octets × Bool
  | 0, _ => ([], false)
  | _, [] => ([], false)
  | n + 1, c :: rest =>
    let keep (octet : Char) (rest : Octets) :=
      let (octets, ended) := unescape n rest
      (octet :: octets, ended)
    if c = '\\' then
      match rest with
      | 'c' :: _ => ([], true)
      | '0' :: behind =>
        let (octet, behind) := takeOctal 3 0 behind
        keep octet behind
      | rest =>
        let (octet, behind) := unescapeOne rest
        keep octet behind
    else
      keep c rest

def echoText (arguments : List Octets) : Octets :=
  let (ended, arguments) := match arguments with
    | ['-', 'n'] :: rest => (true, rest)
    | arguments => (false, arguments)
  let joined := [' '].intercalate arguments
  let (octets, stopped) := unescape (joined.length + 1) joined
  if ended || stopped then octets else octets ++ ['\n']

structure Conversion where
  left : Bool := false
  zeros : Bool := false
  sign : Octets := []
  alternative : Bool := false
  width : Nat := 0
  precision : Option Nat := none

namespace Conversion

def pad (c : Conversion) (text : Octets) : Octets :=
  let fill := List.replicate (c.width - text.length) ' '
  if c.left then text ++ fill else fill ++ text

def padNumber (c : Conversion) (zeros : Bool) (front digits : Octets) : Octets :=
  if zeros && c.zeros && !c.left then
    front ++ List.replicate (c.width - front.length - digits.length) '0' ++ digits
  else
    c.pad (front ++ digits)

def whole (c : Conversion) (front : Octets) (base n : Nat) : Octets :=
  let digits := if n = 0 && c.precision = some 0 then [] else Nat.toDigits base n
  let digits := List.replicate (c.precision.getD 0 - digits.length) '0' ++ digits
  let digits :=
    if c.alternative && base = 8 && digits.head? ≠ some '0' then '0' :: digits else digits
  c.padNumber c.precision.isNone front digits

def floating (c : Conversion) (kind : Char) (x : Floating) : Octets :=
  let (num, den) := x.ratio
  let places := c.precision.getD 6
  c.padNumber true (if x.negative then ['-'] else c.sign)
    (if kind = 'e' then Floating.scientific places num den else Floating.fixed places num den)

end Conversion

inductive Flaw
  | notANumber
  | partlyANumber
  | outOfRange

inductive Halt
  | asked
  | unfinished
  | unknown (conversion : Octets)

structure Printing where
  octets : List Octets := []
  arguments : List Octets
  flaws : List (Octets × Flaw) := []
  stopped : Option Halt := none

namespace Printing

def add (p : Printing) (octets : Octets) : Printing :=
  { p with octets := octets :: p.octets }

def note (p : Printing) (argument : Octets) (flaw : Flaw) : Printing :=
  { p with flaws := (argument, flaw) :: p.flaws }

def stop (p : Printing) (halt : Halt) : Printing :=
  { p with stopped := some halt }

def argument (p : Printing) : Octets × Printing :=
  (p.arguments.head?.getD [], { p with arguments := p.arguments.drop 1 })

def check (p : Printing) (argument rest : Octets) (outOfRange : Bool) : Printing :=
  if !rest.isEmpty && rest = argument then
    p.note argument .notANumber
  else if !rest.isEmpty then
    p.note argument .partlyANumber
  else if outOfRange then
    p.note argument .outOfRange
  else
    p

def integer (signed : Bool) (p : Printing) : Int × Printing :=
  let (argument, p) := p.argument
  match argument with
  | '"' :: rest => ((rest.head?.map fun c => (c.toNat : Int)).getD 0, p)
  | '\'' :: rest => ((rest.head?.map fun c => (c.toNat : Int)).getD 0, p)
  | argument =>
    match Octets.takeInt? none argument with
    | none => (0, p.check argument argument false)
    | some (n, rest) =>
      let limit : Int := (Nat.pow 2 64 : Nat)
      let held := if signed then Octets.saturate n
        else if n.natAbs < limit.natAbs then n % limit else limit - 1
      (held, p.check argument rest (if signed then held ≠ n else n.natAbs ≥ limit.natAbs))

def floating (p : Printing) : Floating × Printing :=
  let (argument, p) := p.argument
  match Floating.take? argument with
  | none => ({}, p.check argument argument false)
  | some (x, rest) => (x, p.check argument rest false)

def size (p : Printing) (format : Octets) : Int × Octets × Printing :=
  match format with
  | '*' :: rest =>
    let (n, p) := p.integer true
    (n, rest, p)
  | format =>
    let digits := format.takeWhile Octets.isDigit
    ((Octets.toNat? digits).getD 0, format.drop digits.length, p)

def conversion (p : Printing) (format : Octets) : Conversion × Octets × Printing :=
  let isFlag (c : Char) := ['-', '0', '+', ' ', '#'].contains c
  let flags := format.takeWhile isFlag
  let (width, format, p) := p.size (format.drop flags.length)
  let (precision, format, p) := match format with
    | '.' :: format =>
      let (precision, format, p) := p.size format
      (if precision < 0 then none else some precision.toNat, format, p)
    | format => (none, format, p)
  ({
    left := flags.contains '-' || width < 0
    zeros := flags.contains '0'
    alternative := flags.contains '#'
    sign := if flags.contains '+' then ['+'] else if flags.contains ' ' then [' '] else []
    width := width.natAbs
    precision
  }, format, p)

def convert (p : Printing) (c : Conversion) (kind : Char) (spelling : Octets) : Printing :=
  let shorten (text : Octets) := match c.precision with
    | some precision => text.take precision
    | none => text
  let unsigned (base : Nat) (front : Octets) : Printing :=
    let (n, p) := p.integer false
    p.add (c.whole (if c.alternative && n ≠ 0 then front else []) base n.toNat)
  match kind with
  | 's' =>
    let (argument, p) := p.argument
    p.add (c.pad (shorten argument))
  | 'c' =>
    let (argument, p) := p.argument
    p.add (c.pad [argument.head?.getD '\x00'])
  | 'b' =>
    let (argument, p) := p.argument
    let (octets, stopped) := unescape (argument.length + 1) argument
    { p.add (c.pad (shorten octets)) with stopped := if stopped then some .asked else none }
  | 'u' => unsigned 10 []
  | 'o' => unsigned 8 []
  | 'x' => unsigned 16 ['0', 'x']
  | 'X' =>
    let (n, p) := p.integer false
    let written := c.whole (if c.alternative && n ≠ 0 then ['0', 'x'] else []) 16 n.toNat
    p.add (written.map Octets.toUpper)
  | kind =>
    if kind = 'd' || kind = 'i' then
      let (n, p) := p.integer true
      p.add (c.whole (if n < 0 then ['-'] else c.sign) 10 n.natAbs)
    else if kind = 'e' || kind = 'f' then
      let (x, p) := p.floating
      p.add (c.floating kind x)
    else
      p.stop (.unknown spelling)

def once : Nat → Printing → Octets → Printing
  | 0, p, _ => p
  | n + 1, p, format =>
    if p.stopped.isSome then
      p
    else
      match format with
      | [] => p
      | '%' :: '%' :: rest => once n (p.add ['%']) rest
      | '%' :: rest =>
        let (c, behind, p) := p.conversion rest
        match behind with
        | [] => p.stop .unfinished
        | kind :: behind =>
          let spelling := '%' :: rest.take (rest.length - behind.length)
          once n (p.convert c kind spelling) behind
      | '\\' :: rest =>
        let (octet, rest) := unescapeOne rest
        once n (p.add [octet]) rest
      | format =>
        let plain := format.takeWhile fun c => c ≠ '%' && c ≠ '\\'
        once n (p.add plain) (format.drop plain.length)

/--
Prints a format once, and again as long as it takes arguments and some are left.
-/
def repeated : Nat → Printing → Octets → Printing
  | 0, p, _ => p
  | n + 1, p, format =>
    let next := p.once (format.length + 1) format
    if next.stopped.isSome || next.arguments.isEmpty ||
        next.arguments.length = p.arguments.length then
      next
    else
      next.repeated n format

end Printing

def printFormat (arguments : List Octets) : Act Nat := do
  let arguments ← match arguments with
    | ['-', '-'] :: rest => pure rest
    | ('-' :: c :: _) :: _ => Shell.fault (Octets.ascii "Illegal option -" ++ [c])
    | arguments => pure arguments
  match arguments with
  | [] => Shell.fault (Octets.ascii "usage: printf format [arg ...]")
  | format :: arguments =>
    let p := ({ arguments } : Printing).repeated (arguments.length + 1) format
    p.flaws.reverse.forM fun (argument, flaw) =>
      Shell.complainHere (argument ++ Octets.ascii (": " ++ match flaw with
        | .notANumber => "expected numeric value"
        | .partlyANumber => "not completely converted"
        | .outOfRange => "Numerical result out of range"))
    let complaint? : Option Octets := match p.stopped with
      | none => none
      | some .asked => none
      | some .unfinished => some (Octets.ascii "missing format character")
      | some (.unknown conversion) => some (conversion ++ Octets.ascii ": invalid directive")
    complaint?.forM Shell.complainHere
    let status ← Shell.put p.octets.reverse.flatten
    if complaint?.isSome then
      Shell.setStatus 2
      throw .fault
    return if p.flaws.isEmpty then status else 1

end Script

end DartBundle
