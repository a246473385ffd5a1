import DartBundle.Script.Shell
/-!
This module contains what the commands of the shell have in common: option letters, numbers and
quoted values.
-/

namespace DartBundle

namespace Script

namespace Shell

def put (octets : Octets) : Act Nat := do
  if ← print octets then
    return 0
  else
    complainHere ((← get).command.getD [] ++ Octets.ascii ": I/O error")
    return 1

def letter? (known : Octets) (c : Char) : Option Bool :=
  match known with
  | [] => none
  | other :: rest =>
    if other = c && c ≠ ':' then some (rest.head? = some ':') else letter? rest c

def takeLetters (known : Octets) :
    Octets → List Octets → Act (List (Char × Octets) × List Octets)
  | [], rest => return ([], rest)
  | c :: letters, rest => do
    match letter? known c with
    | none => fault (Octets.ascii "Illegal option -" ++ [c])
    | some false =>
      let (others, rest) ← takeLetters known letters rest
      return ((c, []) :: others, rest)
    | some true =>
      match letters, rest with
      | [], argument :: rest => return ([(c, argument)], rest)
      | [], [] => fault (Octets.ascii "No arg for -" ++ c :: Octets.ascii " option")
      | argument, rest => return ([(c, argument)], rest)

def takeOptions (known : String) (words : List Octets) :
    Act (List (Char × Octets) × List Octets) :=
  go words.length words
where
  go : Nat → List Octets → Act (List (Char × Octets) × List Octets)
    | 0, words => return ([], words)
    | n + 1, words => do
      match words with
      | ['-', '-'] :: rest => return ([], rest)
      | ('-' :: c :: letters) :: rest =>
        let (first, rest) ← takeLetters known.toList (c :: letters) rest
        let (others, rest) ← go n rest
        return (first ++ others, rest)
      | words => return ([], words)

def quoted (octets : Octets) : Octets :=
  go octets.length octets
where
  go : Nat → Octets → Octets
    | 0, _ => ['\'', '\'']
    | n + 1, octets =>
      let (plain, rest) := octets.span (· ≠ '\'')
      let front := '\'' :: (plain ++ ['\''])
      match rest with
      | [] => front
      | rest =>
        let (quotes, rest) := rest.span (· = '\'')
        front ++ '"' :: (quotes ++ '"' :: if rest.isEmpty then [] else go n rest)

end Shell

end Script

end DartBundle
