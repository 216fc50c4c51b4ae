/-! The commands of the shell language as trees. A word is a list of parts, some of which are only
known when the word is expanded; a script is a list of items, each a chain of pipelines. -/
set_option autoImplicit false

namespace BenchSweep.Shell

/-- What an expansion makes of the value of a parameter. `whenEmpty` tells that an empty value counts
as none. -/
inductive Change where
  | length
  | fallback (whenEmpty : Bool)
  | assign (whenEmpty : Bool)
  | demand (whenEmpty : Bool)
  | alternative (whenEmpty : Bool)
  | cutStart (longest : Bool)
  | cutEnd (longest : Bool)
  /-- One that there is not, which is a fault when the word is expanded. -/
  | unknown

/-- What is done to a descriptor. -/
inductive Direction where
  | read
  | write
  /-- Writes a file although it is there already. -/
  | overwrite
  | append
  /-- Reads and writes a file, which is made if it is not there. -/
  | update
  /-- Makes it the same as another one, or closes it. -/
  | duplicate
  /-- Reads the target itself. -/
  | document
deriving DecidableEq

mutual

inductive Part where
  | plain (text : List Char)
  | quoted (text : List Char)
  | parameter (name : String) (change : Option (Change × List Part)) (quoted : Bool)
  /-- The output of a script. -/
  | output (script : List Item) (quoted : Bool)
  /-- The value of an arithmetic expression. -/
  | number (expression : List Part) (quoted : Bool)

inductive Redirection where
  | mk (descriptor : Nat) (direction : Direction) (target : List Part)

inductive Command where
  | simple (line : Nat) (assignments : List (String × List Part)) (words : List (List Part))
    (redirections : List Redirection)
  | redirected (line : Nat) (command : Command) (redirections : List Redirection)
  | subshell (body : List Item)
  | group (body : List Item)
  | choose (branches : List (List Item × List Item)) (otherwise : List Item)
  | repeat_ (until_ : Bool) (condition body : List Item)
  | each (line : Nat) (name : String) (words : Option (List (List Part))) (body : List Item)
  | match_ (line : Nat) (subject : List Part) (branches : List (List (List Part) × List Item))
  | define (name : String) (body : Command)

inductive Pipeline where
  | mk (negated : Bool) (commands : List Command)

/-- A pipeline and those that follow it after success (`true`) or after failure (`false`). -/
inductive Item where
  | mk (first : Pipeline) (rest : List (Bool × Pipeline)) (background : Bool)

end

abbrev Word := List Part

abbrev Script := List Item

/-- The text of a word in which nothing is quoted or has to be expanded. -/
def Word.bare? : Word → Option (List Char)
  | [.plain cs] => some cs
  | _ => none

/-- The same word with neighbouring plain texts made one. -/
def Word.merged : Word → Word
  | [] => []
  | .plain cs :: rest =>
    match Word.merged rest with
    | .plain ds :: more => .plain (cs ++ ds) :: more
    | more => .plain cs :: more
  | p :: rest => p :: Word.merged rest

end BenchSweep.Shell
