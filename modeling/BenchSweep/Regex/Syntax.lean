import BenchSweep.Regex.Class

/-! The meaning of patterns as trees. Alternatives and repetitions try their choices in the order in
which they are written; a greedy repetition goes on before it stops. -/
set_option autoImplicit false

namespace BenchSweep.Regex

/-- A condition on the place between two characters. -/
inductive Anchor where
  | textStart
  | textEnd
  | lineStart (crlf : Bool)
  | lineEnd (crlf : Bool)
  | wordBoundary (word : CharClass)
  | notWordBoundary (word : CharClass)
  | wordStart (word : CharClass)
  | wordEnd (word : CharClass)
  | wordStartHalf (word : CharClass)
  | wordEndHalf (word : CharClass)
deriving DecidableEq

/-- Whether the condition holds between `before` and `after`; `none` is the end of the text. -/
def Anchor.holds (a : Anchor) (before after : Option Char) : Bool :=
  let isWord (w : CharClass) (c : Option Char) := c.any w.contains
  match a with
  | .textStart => before.isNone
  | .textEnd => after.isNone
  | .lineStart false => before.isNone || before == some '\n'
  | .lineEnd false => after.isNone || after == some '\n'
  | .lineStart true =>
    before.isNone || before == some '\n' || (before == some '\r' && after != some '\n')
  | .lineEnd true =>
    after.isNone || after == some '\r' || (after == some '\n' && before != some '\r')
  | .wordBoundary w => isWord w before != isWord w after
  | .notWordBoundary w => isWord w before == isWord w after
  | .wordStart w => !isWord w before && isWord w after
  | .wordEnd w => isWord w before && !isWord w after
  | .wordStartHalf w => !isWord w before
  | .wordEndHalf w => !isWord w after

inductive Node where
  | empty
  | char (set : CharClass)
  | anchor (a : Anchor)
  | concat (a b : Node)
  | alternate (a b : Node)
  | repetition (body : Node) (least : Nat) (most : Option Nat) (greedy : Bool)
  | group (index : Nat) (body : Node)
deriving DecidableEq

namespace Node

/-! ## Measures -/

/-- The least number of characters of a match. -/
def minLength : Node → Nat
  | empty => 0
  | char _ => 1
  | anchor _ => 0
  | concat a b => a.minLength + b.minLength
  | alternate a b => min a.minLength b.minLength
  | repetition body least _ _ => least * body.minLength
  | group _ body => body.minLength

/-- Whether every match is empty. -/
def isWidthless : Node → Bool
  | empty => true
  | char _ => false
  | anchor _ => true
  | concat a b => a.isWidthless && b.isWidthless
  | alternate a b => a.isWidthless && b.isWidthless
  | repetition body _ _ _ => body.isWidthless
  | group _ body => body.isWidthless

/-- The greatest number of a group. -/
def groupCount : Node → Nat
  | empty => 0
  | char _ => 0
  | anchor _ => 0
  | concat a b => max a.groupCount b.groupCount
  | alternate a b => max a.groupCount b.groupCount
  | repetition body _ _ _ => body.groupCount
  | group index body => max index body.groupCount

/-! ## Building -/

/-- The parts of a pattern that stand one behind the other; nothing has none. -/
def parts : Node → List Node
  | concat a b => a.parts ++ b.parts
  | empty => []
  | n => [n]

/-- The pattern that matches the parts one behind the other. -/
def ofParts : List Node → Node
  | [] => empty
  | [n] => n
  | n :: ns => concat n (ofParts ns)

def sequence (ns : List Node) : Node := ofParts (ns.flatMap parts)

/-- A repetition, which for a body without width is worth one round at most and for no rounds at all
is nothing. -/
def mkRepetition (body : Node) (least : Nat) (most : Option Nat) (greedy : Bool) : Node :=
  if most = some 0 then empty
  else if body.isWidthless then
    repetition body (min least 1) (some ((most.map (min · 1)).getD 1)) greedy
  else if least = 1 ∧ most = some 1 then body
  else repetition body least most greedy

end Node

end BenchSweep.Regex
