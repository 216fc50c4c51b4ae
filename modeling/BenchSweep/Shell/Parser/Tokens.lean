import BenchSweep.Shell.Parser.Words

/-! Tokens read from the text. Aliases are put into the text where their names stand, and the
documents of a line are read behind it. -/
set_option autoImplicit false

namespace BenchSweep.Shell.Parser

/-! ## Redirections -/

/-- The operator of a redirection; `digits` stand before it. -/
def redirection (digits : List Char) : Parser Token := do
  let descriptor (default : Nat) : Nat := (digits.head?.map fun c => c.toNat - 48).getD default
  let first ← peek
  advance 1
  let second ← peek
  let (default, direction) ← if first = some '>' then
      match second with
      | some '>' => advance 1; pure (1, Direction.append)
      | some '|' => advance 1; pure (1, Direction.overwrite)
      | some '&' => advance 1; pure (1, Direction.duplicate)
      | _ => pure (1, Direction.write)
    else
      match second with
      | some '<' => advance 1; pure (0, Direction.document)
      | some '>' => advance 1; pure (0, Direction.update)
      | some '&' => advance 1; pure (0, Direction.duplicate)
      | _ => pure (0, Direction.read)
  let cutsTabs := direction = .document && (← peek) = some '-'
  if cutsTabs then advance 1
  return .redirection (descriptor default) direction (!cutsTabs)

/-! ## Words and operators -/

/-- Takes an operator of one character, or that of two if the character comes twice. -/
def operator (c : Char) (twice : Bool) : Parser Token := do
  advance 1
  if twice && (← peek) = some c then
    advance 1
    return .operator (String.ofList [c, c])
  else return .operator c.toString

/-- A word; a single digit before a redirection belongs to the redirection. -/
def wordOrRedirection (nested : Parser Script) (mode : Mode) : Parser Token := do
  let w := Word.merged (← parts nested ((← rest).length + 1) mode)
  let next ← peek
  if (next = some '<' || next = some '>') && mode = .bare then
    match w with
    | [] => redirection []
    | [.plain [c]] => if c.isDigit then redirection [c] else return .word w
    | _ => return .word w
  else return .word w

/-- The next token as it stands. -/
def scan (nested : Parser Script) (mode : Mode) : Parser Token := do
  skipBlanks
  modify fun s => { s with spread := s.spread.filter fun a => a.behind < s.rest.length }
  match ← rest with
  | [] => return .endOfText
  | '\n' :: _ => advance 1; return .newline
  | '&' :: _ => operator '&' true
  | '|' :: _ => operator '|' true
  | ';' :: _ => operator ';' true
  | '(' :: _ => operator '(' false
  | ')' :: _ => operator ')' false
  | '<' :: _ => redirection []
  | '>' :: _ => redirection []
  | _ => wordOrRedirection nested mode

/-! ## Documents -/

/-- The text up to the line that closes a literal document. -/
def literalDocument (a : Awaited) : Nat → Parser (List Char)
  | 0 => return []
  | n + 1 => do
    if (← rest).isEmpty || (← closesDocument a.closing a.keepTabs) then return []
    let line := (← rest).takeWhile (· ≠ '\n')
    let whole := if line.length < (← rest).length then line ++ ['\n'] else line
    advance whole.length
    return whole ++ (← literalDocument a n)

/-- Reads the documents that the line before asks for. -/
def readDocuments (nested : Parser Script) : Parser Unit := do
  let awaited := (← get).awaited
  modify fun s => { s with awaited := [] }
  for a in awaited do
    let size := (← rest).length + 1
    let w : Word ←
      if a.literal then pure [.quoted (← literalDocument a size)]
      else if ← closesDocument a.closing a.keepTabs then pure []
      else parts nested size (.document a.closing a.keepTabs)
    modify fun s => { s with documents := (a.number, w) :: s.documents }

/-! ## Tokens -/

/-- The next token, or the one that was put back. -/
def rawToken (nested : Parser Script) (mode : Mode) : Parser Token := do
  let s ← get
  if s.held then
    set { s with held := false }
    return s.last
  else
    let t ← scan nested mode
    modify fun s => { s with last := t, lastWord := match t with
      | .word w => w
      | _ => s.lastWord }
    return t

/-- The next token; lines are skipped if they may be. -/
def tokenBehindLines (nested : Parser Script) (across : Bool) : Nat → Parser Token
  | 0 => return .endOfText
  | n + 1 => do
    let t ← rawToken nested .bare
    if across && t.isNewline then
      readDocuments nested
      tokenBehindLines nested across n
    else return t

/-- Puts the text of an alias into the text. -/
def spreadAlias (name text : String) : Parser Unit := modify fun s =>
  { s with
    rest := text.toList ++ s.rest
    spread := ⟨name, s.rest.length, (text.toList.getLast?.map isBlank).getD false⟩ :: s.spread }

/-- The next token as it may be read here. -/
def token (nested : Parser Script) (e : Expectation) : Nat → Parser Token
  | 0 => return .endOfText
  | n + 1 => do
    let goesOn := (← get).spread.filter (·.goesOn)
    let t ← tokenBehindLines nested e.acrossLines ((← rest).length + 2)
    match t with
    | .word w =>
      match w.bare? with
      | none => return t
      | some cs =>
        let name := String.ofList cs
        if e.reserved && Token.reservedWords.contains name then
          modify fun s => { s with last := .reserved name }
          return .reserved name
        else
          let s ← get
          let ended := goesOn.any fun a => !(s.spread.any fun b => b.behind = a.behind)
          let inUse := s.spread.any (·.name = name)
          match if (e.aliased || ended) && !inUse then s.aliases.lookup name else none with
          | some text =>
            if text ≠ "" then spreadAlias name text
            token nested e n
          | none => return t
    | _ => return t

/-- The next token as it may be read here. -/
def next (nested : Parser Script) (e : Expectation) : Parser Token := do
  token nested e ((← rest).length + (← get).aliases.length + 2)

/-- Lets the token that was read last be read again. -/
def putBack : Parser Unit := modify fun s => { s with held := true }

/-- Takes a token that the language reserves, which must come next. -/
def expectReserved (nested : Parser Script) (e : Expectation) (name : String) : Parser Unit := do
  let t ← next nested e
  if !t.isReserved name then missing ("\"" ++ name ++ "\"")

/-! ## Targets -/

/-- The text of a word that closes a document, and whether some of it is in quotes. -/
def documentMark : Word → List Char × Bool
  | [] => ([], false)
  | .plain cs :: ps =>
    let (more, quoted) := documentMark ps
    (cs ++ more, quoted)
  | .quoted cs :: ps => (cs ++ (documentMark ps).1, true)
  | _ :: ps => documentMark ps

/-- What a redirection leads to, behind its operator. -/
def target (nested : Parser Script) (descriptor : Nat) (direction : Direction) (keepTabs : Bool) :
    Parser Redirection := do
  let mode := if direction = .document then Mode.closing else Mode.bare
  match ← rawToken nested mode with
  | .word w =>
    if direction = .document then
      let (closing, literal) := documentMark w
      let s ← get
      let awaited : Awaited := ⟨s.met, closing, literal, keepTabs⟩
      set { s with met := s.met + 1, awaited := s.awaited ++ [awaited] }
      return .mk descriptor .document ((s.known.lookup s.met).getD [])
    else return .mk descriptor direction w
  | _ => unexpected

/-- The redirections that come next; `e` says how the token behind them may be read, which is put
back. -/
def redirections (nested : Parser Script) (e : Expectation) : Nat → Parser (List Redirection)
  | 0 => return []
  | n + 1 => do
    match ← next nested e with
    | .redirection descriptor direction keepTabs =>
      let r ← target nested descriptor direction keepTabs
      return r :: (← redirections nested e n)
    | _ =>
      putBack
      return []

end BenchSweep.Shell.Parser
