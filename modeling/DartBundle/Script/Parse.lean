import DartBundle.Script.Source
/-!
This module contains the parsing of scripts. A script is parsed line by line as it runs, so what
stands before a fault is run all the same.
-/

namespace DartBundle

namespace Script

open Source

inductive Enclosure
  | bare
  | quotes
  | braces (quoted inner : Bool)
  | arithmetic (depth : Nat)
  | document
  deriving DecidableEq

def Enclosure.quoted : Enclosure → Bool
  | .bare => false
  | .braces quoted _ => quoted
  | _ => true

def Enclosure.inside (e : Enclosure) : Enclosure :=
  .braces e.quoted false

def Enclosure.escapes (e : Enclosure) (c : Char) : Bool :=
  ['$', '`', '\\'].contains c || (c = '"' && e ≠ .document) ||
    (c = '}' && match e with
      | .braces .. => true
      | _ => false)

def Enclosure.missing? (inDocument : Bool) : Enclosure → Option String
  | .bare => none
  | .document => none
  | .quotes => some "Unterminated quoted string"
  | .braces quoted _ =>
    some (if quoted && !inDocument then "Unterminated quoted string" else "Missing '\x7d'")
  | .arithmetic _ => some "Missing '))'"

def isMeta (c : Char) : Bool :=
  [' ', '\t', '\n', ';', '&', '|', '(', ')', '<', '>'].contains c

def Enclosure.isSpecial (e : Enclosure) (c : Char) : Bool :=
  ['\\', '\'', '"', '`', '$', '}'].contains c ||
    match e with
    | .bare => isMeta c
    | .arithmetic _ => c = '(' || c = ')'
    | _ => false

def specialParameters : List Char :=
  ['@', '*', '#', '?', '-', '$', '!']

def isSpecialParameter (c : Char) : Bool :=
  specialParameters.contains c || Octets.isDigit c

def addText (quoted : Bool) (octets : Octets) : List Part → List Part
  | .text other more :: parts =>
    if other = quoted && !more.isEmpty then
      .text quoted (octets ++ more) :: parts
    else
      .text quoted octets :: .text other more :: parts
  | parts => .text quoted octets :: parts

def takeBackquoted (quoted : Bool) : Octets → Option (Octets × Octets)
  | [] => none
  | '`' :: rest => some ([], rest)
  | '\\' :: '\n' :: rest => takeBackquoted quoted rest
  | '\\' :: c :: rest =>
    let kept := if ['\\', '`', '$'].contains c || (quoted && c = '"') then [c] else ['\\', c]
    (takeBackquoted quoted rest).map fun (taken, rest) => (kept ++ taken, rest)
  | c :: rest => (takeBackquoted quoted rest).map fun (taken, rest) => (c :: taken, rest)

def takeDelimiter (quote : Option Char) : Octets → Octets × Bool × Octets
  | [] => ([], false, [])
  | c :: rest =>
    let keep (octet : Char) (rest : Octets × Bool × Octets) := (octet :: rest.1, rest.2)
    let quoting (rest : Octets × Bool × Octets) := (rest.1, true, rest.2.2)
    if quote = some c then
      quoting (takeDelimiter none rest)
    else if quote = none && isMeta c then
      ([], false, c :: rest)
    else if quote = none && (c = '"' || c = '\'') then
      quoting (takeDelimiter (some c) rest)
    else if c = '\\' && quote ≠ some '\'' then
      match rest with
      | '\n' :: rest => takeDelimiter quote rest
      | d :: rest => quoting (keep d (takeDelimiter quote rest))
      | [] => ([c], true, [])
    else
      keep c (takeDelimiter quote rest)

def specialCommands : List String :=
  [":", ".", "break", "continue", "eval", "exec", "exit", "export", "local", "readonly", "return",
    "set", "shift", "trap", "unset"]

namespace Reading

structure Expecting where
  acrossLines : Bool := false
  keywords : Bool := false

def atCommand : Expecting := ⟨true, true⟩

def onLine : Expecting := ⟨false, true⟩

def atWord : Expecting := {}

inductive Listing
  | line
  | body
  | clause
  deriving DecidableEq

def pushBack (token : Token) : Reading Unit :=
  modify fun s => { s with pushed := some token }

def unexpected (token : Token) (wanted : Option Token) : Reading α :=
  let expecting := match wanted with
    | some wanted => s!" (expecting {wanted.describe})"
    | none => ""
  fail s!"{token.describe} unexpected{expecting}"

mutual

def parts : Nat → Enclosure → Reading (List Part)
  | 0, _ => return []
  | n + 1, e => do
    let text (quoted : Bool) (octets : Octets) (e : Enclosure) : Reading (List Part) := do
      return addText quoted octets (← parts n e)
    match ← peek with
    | none =>
      match e.missing? (← get).closing.isSome with
      | some complaint => fail complaint
      | none => return []
    | some c =>
      if e = .bare && isMeta c then
        return []
      else
        match c, e with
        | '\\', _ =>
          advance [c]
          match (← get).rest with
          | [] => return [.text true ['\\']]
          | d :: _ =>
            advance [d]
            text true (if !e.quoted || e.escapes d then [d] else ['\\', d]) e
        | '"', .quotes =>
          advance [c]
          return []
        | '}', .braces _ false =>
          advance [c]
          return []
        | '(', .arithmetic depth =>
          advance [c]
          text true [c] (.arithmetic (depth + 1))
        | ')', .arithmetic (depth + 1) =>
          advance [c]
          text true [c] (.arithmetic depth)
        | ')', .arithmetic 0 =>
          advance [c]
          if ← accept ')' then return [] else text true [c] e
        | '"', .braces true inner =>
          advance [c]
          parts n (.braces true !inner)
        | '`', _ =>
          advance [c]
          let first ← backquoted n e.quoted
          return first :: (← parts n e)
        | '$', _ =>
          advance [c]
          let first ← dollar n e
          return first :: (← parts n e)
        | _, _ =>
          if c = '\'' && !e.quoted then
            advance [c]
            let octets ← takeUpTo '\'' "Unterminated quoted string"
            text true octets e
          else if c = '"' && !e.quoted then
            advance [c]
            let inner ← parts n .quotes
            return (if inner.isEmpty then [.text true []] else inner) ++ (← parts n e)
          else
            let octets ← takeWhile fun d => !e.isSpecial d && d ≠ '\n'
            if octets.isEmpty then
              advance [c]
              if c = '\n' then
                startLine
              text e.quoted [c] e
            else
              text e.quoted octets e

def dollar : Nat → Enclosure → Reading Part
  | 0, _ => return .senseless
  | n + 1, e => do
    match ← peek with
    | none => return .text e.quoted ['$']
    | some c =>
      if c = '(' then
        advance [c]
        if ← accept '(' then
          return .arithmetic e.quoted (← parts n (.arithmetic 0))
        else
          return .output e.quoted (← substituted n)
      else if c = '{' then
        advance [c]
        inBraces n e
      else if isNameStart c then
        return .parameter e.quoted (← takeName (← get).rest.length isNameRest)
      else if isSpecialParameter c then
        advance [c]
        return .parameter e.quoted [c]
      else
        return .text e.quoted ['$']

def substituted : Nat → Reading Program
  | 0 => return .empty
  | n + 1 => do
    let outer ← get
    set { outer with awaited := [], closing := none }
    let body ← list n .clause
    let token ← readToken n atWord
    if token.isOperator [')'] then
      modify fun s => { s with awaited := outer.awaited, closing := outer.closing }
      return body
    else
      unexpected token (some (.operator [')']))

def backquoted : Nat → Bool → Reading Part
  | 0, _ => return .senseless
  | n + 1, quoted => do
    let s ← get
    match takeBackquoted quoted s.rest with
    | none => fail "EOF in backquote substitution"
    | some (script, rest) =>
      advance (s.rest.take (s.rest.length - rest.length))
      return .output quoted (← apart script (list n .clause))

def inBraces : Nat → Enclosure → Reading Part
  | 0, _ => return .senseless
  | n + 1, e => do
    let senseless : Reading Part := do
      let _ ← parts n e.inside
      return .senseless
    let fuel := (← get).rest.length
    match ← peek with
    | none => senseless
    | some c =>
      if isNameStart c then
        used n e (← takeName fuel isNameRest)
      else if Octets.isDigit c then
        used n e (← takeName fuel Octets.isDigit)
      else if c = '#' then
        advance [c]
        match ← peek with
        | none => senseless
        | some d =>
          if isNameRest d then
            let name ← takeName fuel (if Octets.isDigit d then Octets.isDigit else isNameRest)
            if ← accept '}' then return .length e.quoted name else senseless
          else if isSpecialParameter d && (← get).rest[1]? = some '}' then
            advance [d, '}']
            return .length e.quoted [d]
          else
            used n e ['#']
      else if isSpecialParameter c then
        advance [c]
        used n e [c]
      else
        senseless

def used : Nat → Enclosure → Octets → Reading Part
  | 0, _, _ => return .senseless
  | n + 1, e, name => do
    let trimmed (shortest longest : Cut) (c : Char) : Reading Part := do
      let cut := if ← accept c then longest else shortest
      return .trimmed e.quoted name cut (← parts n (.braces false false))
    if ← accept '}' then
      return .parameter e.quoted name
    else if ← accept '#' then
      trimmed .shortestFront .longestFront '#'
    else if ← accept '%' then
      trimmed .shortestBack .longestBack '%'
    else
      let orEmpty ← accept ':'
      let instead : Option Instead := match ← peek with
        | some '-' => some .use
        | some '=' => some .assign
        | some '?' => some .complain
        | some '+' => some .onlyIfSet
        | _ => none
      match instead with
      | none =>
        let _ ← parts n e.inside
        return .senseless
      | some instead =>
        let _ ← next
        return .choice e.quoted name orEmpty instead (← parts n e.inside)

def documentWord : Nat → Delimiter → Reading Word
  | 0, _ => return []
  | n + 1, delimiter =>
    within delimiter do
      if delimiter.quoted then
        return [.text true (← takeLines ((← get).rest.length + 1))]
      else
        startLine
        parts n .document

def fetch : Nat → Reading Unit
  | 0 => return
  | n + 1 => do
    match (← get).awaited with
    | [] => return
    | (key, delimiter) :: others =>
      modify fun s => { s with awaited := others }
      let word ← documentWord n delimiter
      modify fun s => { s with documents := s.documents.insert key word }
      fetch n

def document : Nat → Nat → Reading Token
  | 0, _ => return .endOfText
  | n + 1, descriptor => do
    let stripped ← accept '-'
    let _ ← takeWhile fun c => c = ' ' || c = '\t'
    let s ← get
    match takeDelimiter none s.rest with
    | ([], false, _) => do
      let token ← readToken n atWord
      unexpected token none
    | (line, quoted, rest) =>
      advance (s.rest.take (s.rest.length - rest.length))
      modify fun s => { s with
        met := s.met + 1
        awaited := s.awaited ++ [(s.met, { line, stripped, quoted })] }
      return .document descriptor ((s.known.lookup s.met).getD [])

def redirection : Nat → Option Nat → Reading Token
  | 0, _ => return .endOfText
  | n + 1, descriptor => do
    if ← accept '>' then
      let descriptor := descriptor.getD 1
      if ← accept '>' then
        return .redirection descriptor .append
      else if ← accept '|' then
        return .redirection descriptor .overwrite
      else if ← accept '&' then
        return .redirection descriptor (.duplicate false)
      else
        return .redirection descriptor .write
    else
      let _ ← next
      let descriptor := descriptor.getD 0
      if ← accept '<' then
        document n descriptor
      else if ← accept '&' then
        return .redirection descriptor (.duplicate true)
      else if ← accept '>' then
        return .redirection descriptor .both
      else
        return .redirection descriptor .read

def rawToken : Nat → Reading Token
  | 0 => return .endOfText
  | n + 1 => do
    let one (c : Char) : Reading Token := do
      advance [c]
      return .operator [c]
    let doubled (c : Char) : Reading Token := do
      advance [c]
      if ← accept c then return .operator [c, c] else return .operator [c]
    match ← peek with
    | none => return .endOfText
    | some ' ' =>
      advance [' ']
      rawToken n
    | some '\t' =>
      advance ['\t']
      rawToken n
    | some '#' =>
      let _ ← takeWhile (· ≠ '\n')
      rawToken n
    | some '\n' =>
      advance ['\n']
      return .newline
    | some '&' => doubled '&'
    | some '|' => doubled '|'
    | some ';' => doubled ';'
    | some '(' => one '('
    | some ')' => one ')'
    | some _ =>
      let word ← parts n .bare
      let redirected := match ← peek with
        | some c => c = '<' || c = '>'
        | none => false
      match redirected, word with
      | true, [] => redirection n none
      | true, [.text false [d]] =>
        match Octets.digit? 10 d with
        | some descriptor => redirection n (some descriptor)
        | none => return .word word
      | _, word => return .word word

def readToken : Nat → Expecting → Reading Token
  | 0, _ => return .endOfText
  | n + 1, expecting => do
    let s ← get
    let token ← match s.pushed with
      | some token => do
        set { s with pushed := none }
        pure token
      | none => rawToken n
    match token with
    | .newline =>
      if expecting.acrossLines then
        fetch n
        readToken n expecting
      else
        return .newline
    | .word word =>
      let name := (plain? word).map String.ofList
      if expecting.keywords && name.any keywords.contains then
        return .keyword (name.getD "")
      else
        return token
    | token => return token

def expect : Nat → Expecting → String → Reading Unit
  | 0, _, _ => return
  | n + 1, expecting, name => do
    let token ← readToken n expecting
    if !token.isKeyword name then
      unexpected token (some (.keyword name))

def redirectionWord : Nat → Nat → Redirect → Reading Redirection
  | 0, _, _ => return .mk 0 .read []
  | n + 1, descriptor, redirect => do
    match ← readToken n atWord with
    | .word word => return .mk descriptor redirect word
    | token => unexpected token none

def redirections : Nat → Reading (List Redirection)
  | 0 => return []
  | n + 1 => do
    match ← readToken n onLine with
    | .redirection descriptor redirect =>
      let first ← redirectionWord n descriptor redirect
      return first :: (← redirections n)
    | .document descriptor word => return .mk descriptor .document word :: (← redirections n)
    | token =>
      pushBack token
      return []

def list : Nat → Listing → Reading Program
  | 0, _ => return .empty
  | n + 1, kind => listRest n kind (kind = .clause) none

def listRest : Nat → Listing → Bool → Option Program → Reading Program
  | 0, _, _, done => return done.getD .empty
  | n + 1, kind, mayEnd, done => do
    let token ← readToken n (if kind = .line then onLine else atCommand)
    match token with
    | .newline =>
      fetch n
      return done.getD .empty
    | .endOfText =>
      pushBack token
      if kind = .line || mayEnd || done.isSome then
        return done.getD .empty
      else
        return .empty
    | _ => do
      pushBack token
      if kind ≠ .line && mayEnd && token.isCloser then
        return done.getD .empty
      let first ← andOr n
      let separator ← readToken n atWord
      let first := if separator.isOperator ['&'] then .background first else first
      let all := match done with
        | none => first
        | some before => .sequence before first
      match separator with
      | .endOfText =>
        pushBack separator
        return all
      | .newline =>
        pushBack separator
        listRest n kind true (some all)
      | separator =>
        if separator.isOperator ['&'] || separator.isOperator [';'] then
          listRest n kind true (some all)
        else if kind = .line then
          unexpected separator none
        else
          pushBack separator
          return all

def andOr : Nat → Reading Program
  | 0 => return .empty
  | n + 1 => do andOrRest n (← pipeline n onLine)

def andOrRest : Nat → Program → Reading Program
  | 0, first => return first
  | n + 1, first => do
    let token ← readToken n atWord
    if token.isOperator ['&', '&'] then
      andOrRest n (.conjunction first (← pipeline n atCommand))
    else if token.isOperator ['|', '|'] then
      andOrRest n (.disjunction first (← pipeline n atCommand))
    else
      pushBack token
      return first

def pipeline : Nat → Expecting → Reading Program
  | 0, _ => return .empty
  | n + 1, expecting => do
    let token ← readToken n expecting
    if token.isKeyword "!" then
      return .negation (← pipelineStages n)
    else
      pushBack token
      pipelineStages n

def pipelineStages : Nat → Reading Program
  | 0 => return .empty
  | n + 1 => do
    let first ← command n onLine
    match ← furtherStages n with
    | [] => return first
    | others => return .pipeline (first :: others)

def furtherStages : Nat → Reading (List Program)
  | 0 => return []
  | n + 1 => do
    let token ← readToken n atWord
    if token.isOperator ['|'] then
      let stage ← command n atCommand
      return stage :: (← furtherStages n)
    else
      pushBack token
      return []

def command : Nat → Expecting → Reading Program
  | 0, _ => return .empty
  | n + 1, expecting => do
    let token ← readToken n expecting
    let line := (← get).line
    let redirected (body : Program) : Reading Program := do
      match ← redirections n with
      | [] => return body
      | redirections => return .redirected line body redirections
    match token with
    | .keyword "if" => redirected (← conditional n)
    | .keyword "while" => redirected (← loop n true)
    | .keyword "until" => redirected (← loop n false)
    | .keyword "for" => redirected (← each n line)
    | .keyword "case" => redirected (← choose n line)
    | .keyword "\x7b" => do
      let body ← list n .body
      expect n atWord "\x7d"
      redirected body
    | .operator ['('] => do
      let body ← list n .body
      let close ← readToken n atWord
      if close.isOperator [')'] then
        redirected (.subshell line body)
      else
        unexpected close (some (.operator [')']))
    | .word _ => do
      pushBack token
      simple n line
    | .redirection .. => do
      pushBack token
      simple n line
    | .document .. => do
      pushBack token
      simple n line
    | token => unexpected token none

def simple : Nat → Nat → Reading Program
  | 0, _ => return .empty
  | n + 1, line => do
    let (assignments, words, redirections) ← simpleRest n true
    match assignments, words, redirections with
    | [], [word], [] =>
      let token ← readToken n atWord
      if token.isOperator ['('] then
        let close ← readToken n atWord
        if !close.isOperator [')'] then
          unexpected close (some (.operator [')']))
        let name := (plain? word).getD []
        if !isName name || specialCommands.contains (String.ofList name) then
          fail "Bad function name"
        let definitionLine := (← get).line
        return .definition definitionLine name (← command n atCommand)
      else
        pushBack token
        return .simple line assignments words redirections
    | _, _, _ => return .simple line assignments words redirections

def simpleRest : Nat → Bool →
    Reading (List (Octets × Word) × List Word × List Redirection)
  | 0, _ => return ([], [], [])
  | n + 1, assigning => do
    match ← readToken n (if assigning then atWord else atWord) with
    | .redirection descriptor redirect =>
      let first ← redirectionWord n descriptor redirect
      let (assignments, words, others) ← simpleRest n assigning
      return (assignments, words, first :: others)
    | .document descriptor word =>
      let (assignments, words, others) ← simpleRest n assigning
      return (assignments, words, .mk descriptor .document word :: others)
    | .word word =>
      match if assigning then assignment? word else none with
      | some assignment =>
        let (assignments, words, others) ← simpleRest n true
        return (assignment :: assignments, words, others)
      | none =>
        let (assignments, words, others) ← simpleRest n false
        return (assignments, word :: words, others)
    | token =>
      pushBack token
      return ([], [], [])

def conditional : Nat → Reading Program
  | 0 => return .empty
  | n + 1 => do
    let condition ← list n .body
    expect n atWord "then"
    let consequence ← list n .body
    let token ← readToken n atWord
    if token.isKeyword "elif" then
      return .conditional condition consequence (← conditional n)
    else if token.isKeyword "else" then
      let alternative ← list n .body
      expect n atWord "fi"
      return .conditional condition consequence alternative
    else
      pushBack token
      expect n atWord "fi"
      return .conditional condition consequence .empty

def loop : Nat → Bool → Reading Program
  | 0, _ => return .empty
  | n + 1, expected => do
    let condition ← list n .body
    expect n atWord "do"
    let body ← list n .body
    expect n atWord "done"
    return .loop expected condition body

def each : Nat → Nat → Reading Program
  | 0, _ => return .empty
  | n + 1, line => do
    let name := match ← readToken n atWord with
      | .word word => (plain? word).getD []
      | _ => []
    if !isName name then
      fail "Bad for loop variable"
    let token ← readToken n atCommand
    let words ←
      if token.isKeyword "in" then do
        let words ← eachWords n
        pure (some words)
      else do
        if !token.isOperator [';'] then
          pushBack token
        pure none
    expect n atCommand "do"
    let body ← list n .body
    expect n atWord "done"
    return .each line name words body

def eachWords : Nat → Reading (List Word)
  | 0 => return []
  | n + 1 => do
    match ← readToken n atWord with
    | .word word => return word :: (← eachWords n)
    | .newline => return []
    | token => if token.isOperator [';'] then return [] else unexpected token none

def choose : Nat → Nat → Reading Program
  | 0, _ => return .empty
  | n + 1, line => do
    match ← readToken n atWord with
    | .word word => do
      expect n atCommand "in"
      return .choose line word (← clauses n)
    | token => unexpected token (some (.word []))

def clauses : Nat → Reading (List (List Word × Program))
  | 0 => return []
  | n + 1 => do
    let token ← readToken n atCommand
    if token.isKeyword "esac" then
      return []
    else
      let first ← if token.isOperator ['('] then readToken n atWord else pure token
      let patterns ← patterns n first
      let body ← list n .clause
      let close ← readToken n atCommand
      if close.isKeyword "esac" then
        return [(patterns, body)]
      else if close.isOperator [';', ';'] then
        return (patterns, body) :: (← clauses n)
      else
        unexpected close (some (.operator [';', ';']))

def patterns : Nat → Token → Reading (List Word)
  | 0, _ => return []
  | n + 1, first => do
    let word : Word := match first with
      | .word word => word
      | .keyword name => [.text false (Octets.ascii name)]
      | _ => []
    let token ← readToken n atWord
    if token.isOperator ['|'] then
      return word :: (← patterns n (← readToken n atWord))
    else if token.isOperator [')'] then
      return [word]
    else
      unexpected token (some (.operator [')']))

end

end Reading

structure ParsedLine where
  program : Except ScriptFault (Option Program)
  rest : Octets
  line : Nat

def ParsedLine.read (p : ParsedLine) (text : Octets) : Octets :=
  let front := text.take (text.length - p.rest.length)
  if front.isEmpty || front.getLast? = some '\n' then
    front
  else
    front ++ p.rest.take ((p.rest.takeWhile (· ≠ '\n')).length + 1)

def parseLine (line : Nat) (text : Octets) : ParsedLine :=
  let start : Source := { rest := text, line }
  let fuel := 24 * text.length + 64
  match (Source.knowing do
    let token ← Reading.rawToken fuel
    match token with
    | .endOfText => return none
    | .newline => return some .empty
    | token =>
      Reading.pushBack token
      return some (← Reading.list fuel .line) : Reading (Option Program)) start with
  | .ok program s => ⟨.ok program, s.rest, s.line⟩
  | .error fault s => ⟨.error fault, s.rest, s.line⟩

def parseDocument (text : Octets) : Except ScriptFault Word :=
  match Reading.parts (4 * text.length + 16) .document { rest := text } with
  | .ok word _ => .ok word
  | .error fault _ => .error fault

end Script

end DartBundle
