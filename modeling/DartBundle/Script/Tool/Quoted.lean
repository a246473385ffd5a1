import DartBundle.Script.Octets
/-!
This module contains how the programs of the machine write the names of files and other words into
their complaints, so that it can be seen where a word starts and ends.
-/

namespace DartBundle

namespace Octets

def isHarmless (c : Char) : Bool :=
  isLetter c || isDigit c || "%+,-./:]_ \x7b\x7d#~'".contains c

def isPrintable (c : Char) : Bool :=
  decide (32 ≤ c.toNat) && decide (c.toNat < 127)

def wantsQuotes (atStart : Bool) : Octets → Bool
  | [] => false
  | c :: _ =>
    !isPrintable c || " !\"$&()*;<=>[^`|?'\\".contains c || (atStart && (c = '#' || c = '~'))

def escapeText (c : Char) : Octets :=
  match c with
  | '\x07' => ['\\', 'a']
  | '\x08' => ['\\', 'b']
  | '\x0c' => ['\\', 'f']
  | '\n' => ['\\', 'n']
  | '\r' => ['\\', 'r']
  | '\t' => ['\\', 't']
  | '\x0b' => ['\\', 'v']
  | c =>
    let n := c.toNat
    '\\' :: [n / 64, n / 8 % 8, n % 8].map Nat.digitChar

def insideQuotes : Bool → Octets → Octets
  | _, [] => []
  | escaping, c :: rest =>
    if !isPrintable c then
      (if escaping then [] else ['\'', '$', '\'']) ++ escapeText c ++ insideQuotes true rest
    else if c = '\'' then
      ['\'', '\\', '\'', '\''] ++ insideQuotes false rest
    else
      (if escaping then ['\'', '\''] else []) ++ c :: insideQuotes false rest

def inQuotes (word : Octets) : Octets :=
  if word.contains '\'' && word.all isHarmless then
    '"' :: word ++ ['"']
  else
    '\'' :: insideQuotes false word ++ ['\'']

def orInQuotes (colon : Bool) (word : Octets) : Octets :=
  let odd := wantsQuotes true word || (word.drop 1).any fun c => wantsQuotes false [c]
  if word.isEmpty || odd || (colon && word.contains ':') || word = ['\x7b'] || word = ['\x7d'] then
    inQuotes word
  else
    word

def inMarks (word : Octets) : Octets :=
  let written := word.flatMap fun c =>
    if c = '\'' || c = '\\' then ['\\', c] else if isPrintable c then [c] else escapeText c
  '\'' :: written ++ ['\'']

end Octets

end DartBundle
