import BenchSweep.Shell.Parser.Basic

/-! Words: plain and quoted text, parameters, outputs of scripts and numbers. `nested` reads the scripts
in them up to what closes them. -/
set_option autoImplicit false

namespace BenchSweep.Shell.Parser

/-- Where a part of a word stands, which decides what ends it and what needs no quotes. -/
inductive Mode where
  | bare
  /-- The mark of a document, in which nothing is expanded. -/
  | closing
  | doubleQuoted (inBraces : Bool)
  /-- Between the braces of an expansion, itself in double quotes or not. -/
  | braced (quoted inDocument : Bool)
  /-- In a document within the script, up to this line. -/
  | document (closing : List Char) (keepTabs : Bool)
  /-- In an arithmetic expression with so many parentheses open. -/
  | arithmetic (depth : Nat)
deriving DecidableEq

namespace Mode

def isQuoted : Mode → Bool
  | bare => false
  | closing => false
  | doubleQuoted _ => true
  | braced quoted _ => quoted
  | document .. => true
  | arithmetic _ => true

/-- Whether a bare character ends the part. -/
def ends (m : Mode) (c : Char) : Bool :=
  match m with
  | bare => endsWord c
  | closing => endsWord c
  | doubleQuoted _ => c == '"'
  | braced .. => c == '\x7d'
  | document .. => false
  | arithmetic _ => false

/-- Whether double quotes open a quotation. -/
def hasQuotes : Mode → Bool
  | bare => true
  | closing => true
  | braced .. => true
  | _ => false

def isDocument : Mode → Bool
  | document .. => true
  | _ => false

/-- Whether a backslash before this character in quotes is taken off. -/
def escapes (m : Mode) (c : Char) : Bool :=
  c == '$' || c == '\x60' || c == '\\' || (c == '"' && !m.isDocument) ||
    (c == '\x7d' && (m matches .braced .. || m = .doubleQuoted true))

/-- Whether a character starts something else than plain text. -/
def opensPart (m : Mode) (c : Char) : Bool :=
  c == '\\' || ((c == '$' || c == '\x60') && m ≠ closing) || (c == '"' && m.hasQuotes) ||
    (c == '\'' && !m.isQuoted) || (c == '\n' && m.isDocument) ||
    ((c == '(' || c == ')') && m matches arithmetic _)

/-- Plain text as a part. -/
def text (m : Mode) (cs : List Char) : Part := if m.isQuoted then .quoted cs else .plain cs

/-- What is wrong with a text that ends in the middle of the part. -/
def unfinished : Mode → Option String
  | bare => none
  | closing => none
  | document .. => none
  | doubleQuoted _ => some "Unterminated quoted string"
  | braced true false => some "Unterminated quoted string"
  | braced .. => some "Missing '\x7d'"
  | arithmetic _ => some "Missing '))'"

end Mode

/-- The text between backquotes without its own backslashes, and how long it is as it stands. -/
def backquoted (quoted : Bool) : List Char → Option (List Char × Nat)
  | '\x60' :: _ => some ([], 0)
  | '\\' :: c :: cs =>
    (backquoted quoted cs).map fun (inner, n) =>
      (if c == '\n' then inner
       else if c == '\x60' || c == '\\' || c == '$' || (quoted && c == '"') then c :: inner
       else '\\' :: c :: inner, n + 2)
  | c :: cs => (backquoted quoted cs).map fun (inner, n) => (c :: inner, n + 1)
  | [] => none

/-- Reads a script that stands in the text `cs` alone; what does not belong to it is left out. -/
def within (nested : Parser Script) (cs : List Char) : Parser Script := do
  let outer ← get
  set { outer with rest := cs, line := 1, spread := [], awaited := [] }
  let script ← nested
  modify fun s =>
    { s with rest := outer.rest, line := outer.line, spread := outer.spread, held := false,
             awaited := outer.awaited }
  return script

/-! ## Parameters -/

/-- The operator behind the name in an expansion between braces. -/
def change : Parser (Option Change) := do
  match ← peek with
  | some ':' =>
    advance 1
    match ← peek with
    | none => return some .unknown
    | some c =>
      advance 1
      return valued true c
  | some '#' => cut Change.cutStart '#'
  | some '%' => cut Change.cutEnd '%'
  | some c =>
    -- A character that is no operator does not belong to the word behind it.
    modify fun s => { s with rest := s.rest.drop 1 }
    return valued false c
  | none => return some .unknown
where
  valued (whenEmpty : Bool) (c : Char) : Option Change :=
    match c with
    | '\x7d' => none
    | '-' => some (.fallback whenEmpty)
    | '+' => some (.alternative whenEmpty)
    | '?' => some (.demand whenEmpty)
    | '=' => some (.assign whenEmpty)
    | _ => some .unknown
  cut (make : Bool → Change) (c : Char) : Parser (Option Change) := do
    advance 1
    if (← peek) = some c then
      advance 1
      return some (make true)
    else return some (make false)

/-- The name between braces and what is made of its value; nothing is made of it if the closing brace
was taken too. -/
def bracedHead : Parser (String × Option Change) := do
  match ← peek with
  | none => return ("", some .unknown)
  | some c =>
    if isNameStart c || c.isDigit then named
    else if c == '\x7d' then return ("", some .unknown)
    else
      advance 1
      if c == '#' then
        match ← peek with
        | none => return ("#", some .unknown)
        | some d =>
          if isNameChar d then
            let (name, _) ← plainName
            return (name, some (if (← peek) = some '\x7d' then .length else .unknown))
          else
            let outer ← get
            advance 1
            if d ≠ '\x7d' && (← peek) = some '\x7d' then
              return (d.toString, some (if isSpecial d then .length else .unknown))
            else
              set outer
              return ("#", ← change)
      else if isSpecial c then return (c.toString, ← change)
      else return ("", some .unknown)
where
  /-- A name or a number. -/
  plainName : Parser (String × Unit) := do
    let isDigits := ((← peek).map Char.isDigit).getD false
    let size := (← rest).length + 1
    return (String.ofList (← takeWhile (if isDigits then Char.isDigit else isNameChar) size), ())
  named : Parser (String × Option Change) := do
    let (name, _) ← plainName
    return (name, ← change)

/-! ## Parts -/

/-- Ends the line of a document: takes the next line too if it closes the document, and tells whether
it does. -/
def closesDocument (closing : List Char) (keepTabs : Bool) : Parser Bool := do
  if !keepTabs then advance ((← rest).takeWhile (· == '\t')).length
  let line := (← rest).takeWhile (· ≠ '\n')
  if line = closing then
    advance (line.length + 1)
    return true
  else return false

/-- A quotation as parts of a word. All parameters in double quotes make no field where there are
none. -/
def quotation : Word → Word
  | [.parameter "@" none q] => [.parameter "@" none q]
  | parts => .quoted [] :: parts

/-- The parts up to where the mode ends, which is left to the caller but for a document, whose last
line is taken. -/
def parts (nested : Parser Script) : Nat → Mode → Parser Word
  | 0, _ => fail "word too long"
  | n + 1, mode => do
    match ← rest with
    | [] =>
      match mode.unfinished with
      | none => return []
      | some message => fail message
    | '\\' :: '\n' :: _ =>
      advance 2
      parts nested n mode
    | c :: cs =>
      if mode.ends c then return []
      else if c == '\\' then
        match cs with
        | [] => advance 1; return [.quoted ['\\']]
        | d :: _ =>
          advance 2
          let here : Part :=
            if mode.isQuoted && !mode.escapes d then .quoted ['\\', d] else .quoted [d]
          return here :: (← parts nested n mode)
      else if c == '\'' && !mode.isQuoted then
        let inner := cs.takeWhile (· ≠ '\'')
        advance (inner.length + 1)
        if (← rest).isEmpty then
          fail (if mode = .braced false true then "Missing '\x7d'" else "Unterminated quoted string")
        advance 1
        return .quoted inner :: (← parts nested n mode)
      else if c == '"' && mode.hasQuotes then
        advance 1
        let inBraces := mode matches .braced ..
        let inner ← parts nested n (.doubleQuoted inBraces)
        advance 1
        return quotation inner ++ (← parts nested n mode)
      else if c == '\x60' && mode ≠ .closing then
        advance 1
        match backquoted mode.isQuoted cs with
        | none =>
          advance cs.length
          fail "EOF in backquote substitution"
        | some (inner, width) =>
          let script ← within nested inner
          advance (width + 1)
          return .output script mode.isQuoted :: (← parts nested n mode)
      else if c == '$' && mode ≠ .closing then
        advance 1
        let here ← dollar n mode
        return here ++ (← parts nested n mode)
      else
        match mode with
        | .document closing keepTabs =>
          if c == '\n' then
            advance 1
            if ← closesDocument closing keepTabs then return [.quoted ['\n']]
            return .quoted ['\n'] :: (← parts nested n mode)
          else plain n mode c cs
        | .arithmetic depth =>
          if c == '(' then
            advance 1
            return .quoted ['('] :: (← parts nested n (.arithmetic (depth + 1)))
          else if c == ')' then
            advance 1
            match depth with
            | d + 1 => return .quoted [')'] :: (← parts nested n (.arithmetic d))
            | 0 =>
              if (← peek) = some ')' then
                advance 1
                return []
              else return .quoted [')'] :: (← parts nested n mode)
          else plain n mode c cs
        | _ => plain n mode c cs
where
  /-- A run of plain text. -/
  plain (n : Nat) (mode : Mode) (c : Char) (cs : List Char) : Parser Word := do
    let run := c :: cs.takeWhile fun d => !mode.ends d && !mode.opensPart d
    advance run.length
    return mode.text run :: (← parts nested n mode)
  /-- What a dollar sign starts. -/
  dollar (n : Nat) (mode : Mode) : Parser Word := do
    let quoted := mode.isQuoted
    match ← peek with
    | some '(' =>
      advance 1
      if (← peek) = some '(' then
        advance 1
        return [.number (← parts nested n (.arithmetic 0)) quoted]
      else
        let outer := (← get).awaited
        modify fun s => { s with awaited := [] }
        let script ← nested
        if !(← get).last.isOperator ")" then missing "\")\""
        -- Documents that were not given before the parenthesis are empty.
        modify fun s => { s with held := false, awaited := outer }
        return [.output script quoted]
    | some '\x7b' =>
      advance 1
      match ← bracedHead with
      | (name, none) => return [.parameter name none quoted]
      | (name, some change) =>
        let cut := match change with
          | .cutStart _ => true
          | .cutEnd _ => true
          | _ => false
        let inDocument := match mode with
          | .document .. => true
          | .braced _ inDocument => inDocument
          | _ => false
        let word ← parts nested n (.braced (quoted && !cut) inDocument)
        advance 1
        return [.parameter name (some (change, word)) quoted]
    | some c =>
      if isNameStart c then
        return [.parameter (String.ofList (← takeName)) none quoted]
      else if c.isDigit || isSpecial c then
        advance 1
        return [.parameter c.toString none quoted]
      else return [mode.text ['$']]
    | none => return [mode.text ['$']]

end BenchSweep.Shell.Parser
