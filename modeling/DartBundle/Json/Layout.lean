import DartBundle.Json.Value
/-!
This module contains the writing of JSON: values as tokens, and tokens as text on one line or with
one item a line.
-/

namespace DartBundle

namespace Json

mutual

def tokens : Json → List Token
  | .null => [.null]
  | .boolean value => [.boolean value]
  | .number numeral => [.number numeral]
  | .text content => [.text content]
  | .array items => .openArray :: itemTokens items ++ [.closeArray]
  | .object fields => .openObject :: fieldTokens fields ++ [.closeObject]
  | .broken => [.malformed]

def itemTokens : List Json → List Token
  | [] => []
  | [item] => tokens item
  | item :: rest => tokens item ++ .comma :: itemTokens rest

def fieldTokens : List (Option String × Json) → List Token
  | [] => []
  | [(key, value)] => .text key :: .colon :: tokens value
  | (key, value) :: rest => .text key :: .colon :: tokens value ++ .comma :: fieldTokens rest

end

def hexDigit (n : Nat) : Char :=
  if n < 10 then Char.ofNat (48 + n) else Char.ofNat (87 + n)

def escape (c : Char) : List Char :=
  match c with
  | '"' => ['\\', '"']
  | '\\' => ['\\', '\\']
  | '\x08' => ['\\', 'b']
  | '\x0c' => ['\\', 'f']
  | '\n' => ['\\', 'n']
  | '\r' => ['\\', 'r']
  | '\t' => ['\\', 't']
  | c =>
    if c.toNat < 0x20 then
      ['\\', 'u', '0', '0', hexDigit (c.toNat / 16), hexDigit (c.toNat % 16)]
    else
      [c]

def Numeral.spelling (n : Numeral) : List Char :=
  (if n.negative then ['-'] else []) ++ n.whole ++
    (match n.fraction with
      | some digits => '.' :: digits
      | none => []) ++
    (match n.exponent with
      | some (negative, digits) => 'e' :: (if negative then ['-'] else []) ++ digits
      | none => [])

def Token.spelling : Token → List Char
  | .openArray => ['[']
  | .closeArray => [']']
  | .openObject => ['\x7b']
  | .closeObject => ['\x7d']
  | .comma => [',']
  | .colon => [':']
  | .null => ['n', 'u', 'l', 'l']
  | .boolean true => ['t', 'r', 'u', 'e']
  | .boolean false => ['f', 'a', 'l', 's', 'e']
  | .number numeral => numeral.spelling
  | .text content => '"' :: (content.getD "").toList.flatMap escape ++ ['"']
  | .malformed => ['?']

def compact (ts : List Token) : List Char :=
  ts.flatMap Token.spelling

def newline (depth : Nat) : List Char :=
  '\n' :: List.replicate (2 * depth) ' '

def pretty : Nat → List Token → List Char
  | _, [] => []
  | depth, .openArray :: .closeArray :: rest => '[' :: ']' :: pretty depth rest
  | depth, .openObject :: .closeObject :: rest => '\x7b' :: '\x7d' :: pretty depth rest
  | depth, .openArray :: rest => '[' :: newline (depth + 1) ++ pretty (depth + 1) rest
  | depth, .openObject :: rest => '\x7b' :: newline (depth + 1) ++ pretty (depth + 1) rest
  | depth, .closeArray :: rest => newline (depth - 1) ++ ']' :: pretty (depth - 1) rest
  | depth, .closeObject :: rest => newline (depth - 1) ++ '\x7d' :: pretty (depth - 1) rest
  | depth, .comma :: rest => ',' :: newline depth ++ pretty depth rest
  | depth, .colon :: rest => ':' :: ' ' :: pretty depth rest
  | depth, token :: rest => token.spelling ++ pretty depth rest

def writeCompact (value : Json) : String :=
  String.ofList (compact value.tokens)

def writePretty (value : Json) : String :=
  String.ofList (pretty 0 value.tokens)

end Json

end DartBundle
