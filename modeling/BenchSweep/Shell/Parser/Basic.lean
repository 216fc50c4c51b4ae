import BenchSweep.Shell.Token

/-! The text of a script that is read from its start, the characters that mean something in it and the
faults that it may have. -/
set_option autoImplicit false

namespace BenchSweep.Shell

/-- A document whose text begins behind the line. -/
structure Awaited where
  number : Nat
  /-- The line that ends it. -/
  closing : List Char
  /-- Whether its text stands for itself. -/
  literal : Bool
  keepTabs : Bool

/-- The text of an alias put in its place: `behind` characters follow it. -/
structure Spread where
  name : String
  behind : Nat
  /-- Whether it ends with a blank, so that the next word may be an alias too. -/
  goesOn : Bool

/-- The text that is left and what is known of the text before. -/
structure Source where
  rest : List Char
  /-- The line that the text left starts on, counted from one. -/
  line : Nat
  aliases : List (String × String)
  spread : List Spread
  /-- The token that was read last. -/
  last : Token
  /-- Whether that token is to be read again. -/
  held : Bool
  /-- The word that was read last. -/
  lastWord : Word
  /-- How many documents were met. -/
  met : Nat
  awaited : List Awaited
  /-- The documents that were read, by their numbers. -/
  documents : List (Nat × Word)
  /-- The documents as an earlier reading of the same text found them. -/
  known : List (Nat × Word)

namespace Source

def ofText (text : List Char) : Source :=
  ⟨text, 1, [], [], .newline, false, [], 0, [], [], []⟩

end Source

/-- What is wrong with a script, and on which line. -/
structure Misspelling where
  message : String
  line : Nat

/-- A reader of a piece of text. -/
abbrev Parser (α : Type) := StateT Source (Except Misspelling) α

namespace Parser

def rest : Parser (List Char) := return (← get).rest

def line : Parser Nat := return (← get).line

/-- Passes over characters. -/
def advance (n : Nat) : Parser Unit := modify fun s =>
  { s with rest := s.rest.drop n, line := s.line + (s.rest.take n).count '\n' }

def fail {α : Type} (message : String) : Parser α := do throw ⟨message, ← line⟩

/-! ## Characters -/

def isBlank (c : Char) : Bool := c == ' ' || c == '\t'

/-- Whether a bare character ends a word. -/
def endsWord (c : Char) : Bool :=
  isBlank c || c == '\n' || c == ';' || c == '&' || c == '|' || c == '<' || c == '>' || c == '(' ||
    c == ')'

def isNameStart (c : Char) : Bool := c.isAlpha || c == '_'

def isNameChar (c : Char) : Bool := c.isAlphanum || c == '_'

/-- Whether a text can be the name of a variable or a function. -/
def isName : List Char → Bool
  | c :: cs => isNameStart c && cs.all isNameChar
  | [] => false

/-- Whether a character after `$` is a parameter of its own. -/
def isSpecial (c : Char) : Bool :=
  c == '@' || c == '*' || c == '#' || c == '?' || c == '$' || c == '!' || c == '-'

/-- How many characters at the start of a text join lines. -/
def joints : List Char → Nat
  | '\\' :: '\n' :: cs => joints cs + 2
  | _ => 0

/-- How many characters at the start of a text are blanks, joints or a comment. -/
def blanks : List Char → Nat
  | '\\' :: '\n' :: cs => blanks cs + 2
  | c :: cs =>
    if isBlank c then blanks cs + 1
    else if c == '#' then (cs.takeWhile (· ≠ '\n')).length + 1
    else 0
  | [] => 0

def skipBlanks : Parser Unit := do advance (blanks (← rest))

/-- The next character, lines joined before it. -/
def peek : Parser (Option Char) := do
  advance (joints (← rest))
  return (← rest).head?

/-- Takes the characters for which `p` holds, across joined lines. -/
def takeWhile (p : Char → Bool) : Nat → Parser (List Char)
  | 0 => return []
  | n + 1 => do
    advance (joints (← rest))
    match (← rest).takeWhile p with
    | [] => return []
    | run =>
      advance run.length
      return run ++ (← takeWhile p n)

/-- Takes the characters of a name. -/
def takeName : Parser (List Char) := do takeWhile isNameChar ((← rest).length + 1)

/-! ## Faults -/

/-- The fault of a token that no rule allows. -/
def unexpected {α : Type} : Parser α := do
  fail ((← get).last.text ++ " unexpected")

/-- The fault of a token that is not the one that must come. -/
def missing {α : Type} (wanted : String) : Parser α := do
  fail ((← get).last.text ++ s!" unexpected (expecting {wanted})")

end Parser

end BenchSweep.Shell
