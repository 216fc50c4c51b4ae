import BenchSweep.Shell.Syntax

/-! The pieces that the shell language is written in. Which token comes next depends on what may come:
a word that the language reserves is a word of its own where no command starts. -/
set_option autoImplicit false

namespace BenchSweep.Shell

inductive Token where
  | endOfText
  | newline
  /-- One of `;`, `&`, `|`, `&&`, `||`, `;;`, `(` and `)`. -/
  | operator (text : String)
  | redirection (descriptor : Nat) (direction : Direction) (keepTabs : Bool)
  | word (w : Word)
  /-- A word that the language reserves. -/
  | reserved (name : String)

namespace Token

def isNewline : Token → Bool
  | newline => true
  | _ => false

def isOperator (text : String) : Token → Bool
  | operator t => t == text
  | _ => false

def isReserved (name : String) : Token → Bool
  | reserved n => n == name
  | _ => false

/-- A token as faults name it. -/
def text : Token → String
  | endOfText => "end of file"
  | newline => "newline"
  | operator t => "\"" ++ t ++ "\""
  | redirection .. => "redirection"
  | word _ => "word"
  | reserved n => "\"" ++ n ++ "\""

/-- The words that the language reserves. -/
def reservedWords : List String :=
  ["!", "case", "do", "done", "elif", "else", "esac", "fi", "for", "if", "in", "then", "until",
    "while", "\x7b", "\x7d"]

/-- Whether the token closes a list of commands. -/
def closes : Token → Bool
  | endOfText => true
  | operator t => t == ")" || t == ";;"
  | reserved n => ["do", "done", "elif", "else", "esac", "fi", "then", "\x7d"].contains n
  | _ => false

end Token

/-- What a token may be read as. -/
structure Expectation where
  /-- Line feeds before it mean nothing. -/
  acrossLines : Bool
  /-- It may be a word that the language reserves. -/
  reserved : Bool
  /-- It may be an alias. -/
  aliased : Bool

namespace Expectation

/-- Any token as it stands. -/
def plain : Expectation := ⟨false, false, false⟩

/-- The start of a command, on this line or a later one. -/
def command : Expectation := ⟨true, true, true⟩

/-- The start of a command on this line. -/
def commandHere : Expectation := ⟨false, true, true⟩

/-- A word that the language reserves, on this line or a later one. -/
def keyword : Expectation := ⟨true, true, false⟩

/-- The name of a command. -/
def name : Expectation := ⟨false, false, true⟩

end Expectation

end BenchSweep.Shell
