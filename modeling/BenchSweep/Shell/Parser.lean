import BenchSweep.Shell.Parser.Tokens

/-! The shell language read from text, one line of commands after the other. Every step looks at the
next token, which decides what comes; a nested script is read by the same rules with one step of the
budget less, which the length of the text bounds. -/
set_option autoImplicit false

namespace BenchSweep.Shell

namespace Parser

/-! ## Simple commands -/

/-- The name and the value of an assignment. -/
def assignment? : Word → Option (String × Word)
  | .plain cs :: rest =>
    let name := cs.takeWhile isNameChar
    match cs.drop name.length with
    | '=' :: value =>
      if isName name then
        some (String.ofList name, if value.isEmpty then rest else .plain value :: rest)
      else none
    | _ => none
  | _ => none

/-- What a simple command has come to: its assignments, words and redirections, the last ones
first. -/
structure Draft where
  assignments : List (String × Word)
  words : List Word
  redirections : List Redirection

/-- The commands whose names no function can have. -/
def specialCommands : List String :=
  [":", ".", "break", "continue", "eval", "exec", "exit", "export", "local", "readonly", "return",
    "set", "shift", "times", "trap", "unset"]

/-- The name of a function, which the words before its parentheses are. -/
def functionName (w : Word) : Parser String := do
  match w.bare? with
  | some cs =>
    let name := String.ofList cs
    if isName cs && !specialCommands.contains name then return name
    else fail "Bad function name"
  | none => fail "Bad function name"

/-- What follows the words of a command: a function definition, whose name is given, or the end. -/
def simple (nested : Parser Script) (line : Nat) : Nat → Draft → Parser (String ⊕ Command)
  | 0, _ => unexpected
  | n + 1, d => do
    let expectation := if d.words.isEmpty then Expectation.name else Expectation.plain
    match ← next nested expectation with
    | .word w =>
      match if d.words.isEmpty then assignment? w else none with
      | some a => simple nested line n { d with assignments := a :: d.assignments }
      | none => simple nested line n { d with words := w :: d.words }
    | .redirection descriptor direction keepTabs =>
      let r ← target nested descriptor direction keepTabs
      simple nested line n { d with redirections := r :: d.redirections }
    | .operator "(" =>
      match d with
      | ⟨[], [w], []⟩ =>
        let t ← next nested .plain
        if !t.isOperator ")" then missing "\")\""
        return .inl (← functionName w)
      | _ => complete d
    | _ => complete d
where
  complete (d : Draft) : Parser (String ⊕ Command) := do
    putBack
    return .inr (.simple line d.assignments.reverse d.words.reverse d.redirections.reverse)

/-! ## Compound commands -/

/-- How the scripts in commands are read: a body has at least one command, another script may be
empty. Both end before a token that closes. -/
structure Nested where
  body : Parser Script
  script : Parser Script

/-- The branches behind the word that opens the first condition. -/
def branches (nested : Nested) : Nat → Parser (List (Script × Script) × Script)
  | 0 => unexpected
  | n + 1 => do
    let condition ← nested.body
    expectReserved nested.script .plain "then"
    let body ← nested.body
    match ← next nested.script .plain with
    | .reserved "elif" =>
      let (more, otherwise) ← branches nested n
      return ((condition, body) :: more, otherwise)
    | .reserved "else" => return ([(condition, body)], ← nested.body)
    | _ =>
      putBack
      return ([(condition, body)], [])

/-- The patterns of a branch, the first of which was read, up to the parenthesis. A token that is no
word stands for the word before it. -/
def patterns (nested : Nested) : Nat → Parser (List Word)
  | 0 => unexpected
  | n + 1 => do
    let w := (← get).lastWord
    let t ← next nested.script .plain
    if t.isOperator "|" then
      let _ ← next nested.script .plain
      return w :: (← patterns nested n)
    else if t.isOperator ")" then return [w]
    else missing "\")\""

def cases (nested : Nested) : Nat → Parser (List (List Word × Script))
  | 0 => unexpected
  | n + 1 => do
    let t ← next nested.script .keyword
    if t.isReserved "esac" then return []
    if t.isOperator "(" then
      let _ ← next nested.script .plain
    let ps ← patterns nested ((← rest).length + 1)
    let body ← nested.script
    let t ← next nested.script .keyword
    if t.isReserved "esac" then return [(ps, body)]
    else if t.isOperator ";;" then return (ps, body) :: (← cases nested n)
    else missing "\";;\""

/-- The words of a loop up to the end of its line. -/
def loopWords (nested : Nested) : Nat → Parser (List Word)
  | 0 => unexpected
  | n + 1 => do
    match ← next nested.script .plain with
    | .word w => return w :: (← loopWords nested n)
    | t => if t.isNewline || t.isOperator ";" then return [] else unexpected

/-- A loop over words, behind the word that opens it. -/
def each (nested : Nested) (line : Nat) : Parser Command := do
  let t ← next nested.script .plain
  let name ← match t with
    | .word w =>
      match w.bare? with
      | some cs => if isName cs then pure (String.ofList cs) else fail "Bad for loop variable"
      | none => fail "Bad for loop variable"
    | _ => fail "Bad for loop variable"
  let t ← next nested.script .command
  let words ← if t.isReserved "in" then some <$> loopWords nested ((← rest).length + 1)
    else do
      if !t.isOperator ";" then putBack
      pure none
  expectReserved nested.script .command "do"
  return .each line name words (← nested.body)

/-- A command that the token opens, and the token that must close it. -/
def compound (nested : Nested) (line : Nat) : Token → Parser (Command × Option String)
  | .reserved "if" => do
    let (bs, otherwise) ← branches nested ((← rest).length + 1)
    return (.choose bs otherwise, some "fi")
  | .reserved "while" => loop false
  | .reserved "until" => loop true
  | .reserved "for" => do return (← each nested line, some "done")
  | .reserved "case" => do
    match ← next nested.script .plain with
    | .word subject =>
      expectReserved nested.script .command "in"
      return (.match_ line subject (← cases nested ((← rest).length + 1)), none)
    | _ => missing "word"
  | .reserved "\x7b" => do return (.group (← nested.body), some "\x7d")
  | .operator "(" => do return (.subshell (← nested.body), some ")")
  | _ => unexpected
where
  loop (untilTrue : Bool) : Parser (Command × Option String) := do
    let condition ← nested.body
    expectReserved nested.script .plain "do"
    return (.repeat_ untilTrue condition (← nested.body), some "done")

/-- A command; that of a function definition may itself be one. -/
def command (nested : Nested) : Nat → Expectation → Parser Command
  | 0, _ => unexpected
  | n + 1, e => do
    let start ← line
    match ← next nested.script e with
    | .word _ => simpleOrDefinition n
    | .redirection .. => simpleOrDefinition n
    | t =>
      let (c, closing) ← compound nested start t
      match closing with
      | none => pure ()
      | some text =>
        let t ← next nested.script .plain
        if !(t.isReserved text || t.isOperator text) then missing ("\"" ++ text ++ "\"")
      match ← redirections nested.script .commandHere ((← rest).length + 1) with
      | [] => return c
      | rs => return .redirected start c rs
where
  simpleOrDefinition (n : Nat) : Parser Command := do
    putBack
    match ← simple nested.script (← line) ((← rest).length + 2) ⟨[], [], []⟩ with
    | .inr c => return c
    | .inl name => return .define name (← command nested n .command)

/-! ## Scripts -/

def pipelineRest (nested : Nested) : Nat → Parser (List Command)
  | 0 => return []
  | n + 1 => do
    let t ← next nested.script .plain
    if t.isOperator "|" then
      let c ← command nested ((← rest).length + 1) .command
      return c :: (← pipelineRest nested n)
    else
      putBack
      return []

def pipeline (nested : Nested) (e : Expectation) : Parser Pipeline := do
  let t ← next nested.script e
  let negated := t.isReserved "!"
  if !negated then putBack
  let size := (← rest).length + 1
  let first ← command nested size (if negated then .commandHere else .plain)
  return .mk negated (first :: (← pipelineRest nested size))

def itemRest (nested : Nested) : Nat → Parser (List (Bool × Pipeline))
  | 0 => return []
  | n + 1 => do
    let t ← next nested.script .plain
    if t.isOperator "&&" || t.isOperator "||" then
      let p ← pipeline nested .command
      return (t.isOperator "&&", p) :: (← itemRest nested n)
    else
      putBack
      return []

/-- How far a list of commands goes: one line, or up to a token that closes, with at least one command
if it is a body. -/
inductive Extent where
  | line
  | body
  | script
deriving DecidableEq

/-- The items of a list; `fresh` tells that none was read yet. -/
def items (nested : Nested) (extent : Extent) : Nat → (fresh : Bool) → Parser Script
  | 0, _ => return []
  | n + 1, fresh => do
    let t ← next nested.script (if extent = .line then .commandHere else .command)
    if t.isNewline then
      readDocuments nested.script
      return []
    else if t matches .endOfText then
      readDocuments nested.script
      putBack
      return []
    else
      putBack
      if t.closes && (extent = .script || (extent = .body && !fresh)) then return []
      let first ← pipeline nested .plain
      let rest ← itemRest nested ((← Parser.rest).length + 1)
      let t ← next nested.script .plain
      if t.isOperator "&" then return .mk first rest true :: (← items nested extent n false)
      else if t.isOperator ";" then return .mk first rest false :: (← items nested extent n false)
      else if t.isNewline then
        putBack
        return .mk first rest false :: (← items nested extent n false)
      else if t matches .endOfText then
        readDocuments nested.script
        putBack
        return [.mk first rest false]
      else if extent = .line then unexpected
      else
        putBack
        return [.mk first rest false]

/-- The readers of scripts in which others are nested up to this depth. -/
def nestedUpTo : Nat → Nested
  | 0 => ⟨fail "nested too deep", fail "nested too deep"⟩
  | n + 1 =>
    let read (extent : Extent) : Parser Script := do
      items (nestedUpTo n) extent ((← rest).length + 2) true
    ⟨read .body, read .script⟩

/-- The next line of commands, perhaps an empty one; none at the end of the text. -/
def line? : Parser (Option Script) := do
  let size := (← rest).length + 2
  let nested := nestedUpTo size
  let t ← next nested.script .commandHere
  if t matches .endOfText then return none
  else
    putBack
    some <$> items nested .line size true

end Parser

namespace Source

/-- The same text with nothing known of its documents. -/
def afresh (s : Source) : Source := { s with met := 0, awaited := [], documents := [], known := [] }

/-- The next line of commands and the text behind it; no commands at the end of the text. A line with
documents is read twice, since they stand behind the commands that need them. -/
def nextLine (s : Source) : Except Misspelling (Option (Script × Source)) := do
  let s := s.afresh
  match ← Parser.line?.run s with
  | (none, _) => return none
  | (some script, after) =>
    if after.documents.isEmpty then return some (script, after)
    else
      match ← Parser.line?.run { s with known := after.documents } with
      | (some script, after) => return some (script, after)
      | (none, _) => return none

end Source

end BenchSweep.Shell
