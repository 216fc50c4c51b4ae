import BenchSweep.Decimal.Reading
import BenchSweep.Regex.Alternation
import BenchSweep.Regex.Property
import BenchSweep.Text.Blank
import BenchSweep.Text.NameCharacters

/-! Patterns read from text. Flags hold from where they are set to the end of their group; one of
them makes spaces and comments between the parts of a pattern mean nothing. Every reader gives the
height of the tree it has read, which is bounded. -/
set_option autoImplicit false

namespace BenchSweep.Regex

structure Flags where
  caseless : Bool := false
  multiLine : Bool := false
  dotAll : Bool := false
  crlf : Bool := false
  swapGreed : Bool := false
  unicode : Bool := true
  spaced : Bool := false

/-- What is left of a pattern, the flags that hold there, and the groups seen so far. -/
structure Scan where
  rest : List Char
  flags : Flags
  groups : Nat
  names : List (List Char)

abbrev Reader := StateT Scan Option

/-- How deep the tree of a pattern may be. -/
def heightLimit : Nat := 250

/-! ## Characters -/

/-- Without the white space at the start and the comments that end with their lines. -/
def skipSpaced (inComment : Bool) : List Char → List Char
  | [] => []
  | c :: rest =>
    if inComment then skipSpaced (c ≠ '\n') rest
    else if Text.isBlank c then skipSpaced false rest
    else if c = '#' then skipSpaced true rest
    else c :: rest

def peek : Reader (Option Char) := return (← get).rest.head?

/-- The character at the start, which must be there. -/
def here : Reader Char := do
  match (← get).rest with
  | c :: _ => return c
  | [] => failure

def skip : Reader Unit := modify fun s =>
  if s.flags.spaced then { s with rest := skipSpaced false s.rest } else s

/-- Takes one character. -/
def bump : Reader Unit := modify fun s => { s with rest := s.rest.drop 1 }

/-- Takes one character and the spaces that mean nothing behind it. -/
def bumpSkip : Reader Unit := do
  bump
  skip

/-- Takes `text` if it stands here. -/
def bumpIf (text : String) : Reader Bool := do
  match Text.stripPrefix? text.toList (← get).rest with
  | some rest => modify fun s => { s with rest := rest }; return true
  | none => return false

/-- Takes characters while `p` holds, each with the spaces behind it. -/
def takeWhileSkip (p : Char → Bool) : Nat → Reader (List Char)
  | 0 => return []
  | fuel + 1 => do
    match (← get).rest with
    | c :: _ =>
      if p c then
        bumpSkip
        return c :: (← takeWhileSkip p fuel)
      else return []
    | [] => return []

def remaining : Reader Nat := return (← get).rest.length

/-- A number in base ten with blanks around it; `none` without any digit. -/
def decimal : Reader (Option Nat) := do
  modify fun s => { s with rest := s.rest.dropWhile Text.isBlank }
  let ds ← takeWhileSkip Decimal.isDigit (← remaining)
  let _ ← takeWhileSkip Text.isBlank (← remaining)
  if ds.isEmpty then return none
  let n := Decimal.digitsValue ds
  if n < Nat.pow 2 32 then return some n else failure

/-! ## Escapes -/

/-- What a pattern means at one place inside or outside of brackets. -/
inductive Primitive where
  | literal (c : Char)
  /-- A byte by its number. -/
  | byte (c : Char)
  | set (set : CharClass)
  | anchor (a : Anchor)

def hexDigit? (c : Char) : Option Nat :=
  if Decimal.isDigit c then some (c.toNat - 48)
  else if 'a' ≤ c ∧ c ≤ 'f' then some (c.toNat - 87)
  else if 'A' ≤ c ∧ c ≤ 'F' then some (c.toNat - 55)
  else none

def scalarOf (ds : List Char) : Reader Char := do
  let n := ds.foldl (fun n c => n * 16 + (hexDigit? c).getD 0) 0
  if n.isValidChar then return Char.ofNat n else failure

def exactHex : Nat → Reader (List Char)
  | 0 => return []
  | n + 1 => do
    let c ← here
    if (hexDigit? c).isNone then failure
    bumpSkip
    return c :: (← exactHex n)

/-- A character by its number: so many digits, or digits between braces. Two digits alone may mean
a byte. -/
def hexEscape (digits : Nat) : Reader Primitive := do
  bumpSkip
  if (← here) = '\x7b' then
    bumpSkip
    let ds ← takeWhileSkip (fun c => (hexDigit? c).isSome) (← remaining)
    if ds.isEmpty || (← here) ≠ '\x7d' then failure
    bumpSkip
    return .literal (← scalarOf ds)
  else
    let c ← scalarOf (← exactHex digits)
    return if digits = 2 then .byte c else .literal c

/-- A property by one letter, or by a name between braces. -/
def propertyEscape (negated : Bool) : Reader CharClass := do
  bumpSkip
  let c ← here
  let name ← if c = '\x7b' then do
      bumpSkip
      let name ← takeWhileSkip (· ≠ '\x7d') (← remaining)
      let _ ← here
      bump
      pure name
    else do
      if c = '\\' then failure
      bumpSkip
      pure [c]
  let flags := (← get).flags
  if !flags.unicode then failure
  let (set, inverse) ← (propertyClass? (String.ofList name) : Option (CharClass × Bool))
  let set := if flags.caseless then set.caseless else set
  return if negated != inverse then set.complement else set

/-- The class that a letter behind a backslash stands for. -/
def letterClass (flags : Flags) (c : Char) : Option CharClass :=
  let pick (wide ascii : CharClass) := if flags.unicode then wide else ascii
  let negate (a : CharClass) := if flags.unicode then some a.complement else none
  match c with
  | 'd' => some (pick CharClass.digits CharClass.asciiDigits)
  | 's' => some (pick CharClass.spaces CharClass.asciiSpaces)
  | 'w' => some (pick CharClass.word CharClass.asciiWord)
  | 'D' => negate CharClass.digits
  | 'S' => negate CharClass.spaces
  | 'W' => negate CharClass.word
  | _ => none

def wordClass (flags : Flags) : CharClass :=
  if flags.unicode then CharClass.word else CharClass.asciiWord

/-- The kind of word boundary between braces, if what stands there looks like one. -/
def boundaryKind : Reader (Option String) := do
  let isNameChar (c : Char) := c.isAlpha || c = '-'
  let start := (← get).rest
  if (← peek) ≠ some '\x7b' then return none
  bumpSkip
  if isNameChar (← here) then
    let name ← takeWhileSkip isNameChar (← remaining)
    if (← here) ≠ '\x7d' then failure
    bump
    return some (String.ofList name)
  else
    modify fun s => { s with rest := start }
    return none

def boundary : Reader Anchor := do
  let w := wordClass (← get).flags
  match ← boundaryKind with
  | none => return .wordBoundary w
  | some "start" => return .wordStart w
  | some "end" => return .wordEnd w
  | some "start-half" => return .wordStartHalf w
  | some "end-half" => return .wordEndHalf w
  | some _ => failure

/-- Whether a backslash before `c` gives `c` itself. -/
def isEscapable (c : Char) : Bool :=
  c.toNat < 0x80 && !c.isAlphanum && c ≠ '<' && c ≠ '>'

def control? (c : Char) : Option Char :=
  match c with
  | 'a' => some '\x07'
  | 'f' => some '\x0c'
  | 't' => some '\t'
  | 'n' => some '\n'
  | 'r' => some '\r'
  | 'v' => some '\x0b'
  | _ => none

/-- What stands behind a backslash, which is already taken. -/
def escape : Reader Primitive := do
  let c ← here
  let flags := (← get).flags
  let w := wordClass flags
  if "dswDSW".toList.contains c then
    bump
    match letterClass flags c with
    | some set => return .set set
    | none => failure
  else if let some x := control? c then
    bump
    return .literal x
  else if isEscapable c then
    bump
    return .literal c
  else
    match c with
    | 'x' => hexEscape 2
    | 'u' => hexEscape 4
    | 'U' => hexEscape 8
    | 'p' => return .set (← propertyEscape false)
    | 'P' => return .set (← propertyEscape true)
    | 'A' => bump; return .anchor .textStart
    | 'z' => bump; return .anchor .textEnd
    | 'b' => bump; return .anchor (← boundary)
    | 'B' => bump; return .anchor (.notWordBoundary w)
    | '<' => bump; return .anchor (.wordStart w)
    | '>' => bump; return .anchor (.wordEnd w)
    | _ => failure

/-! ## Classes in brackets -/

/-- A class that is being read and the height of what it is made of. -/
structure Part where
  set : CharClass
  height : Nat

def fold (flags : Flags) (a : CharClass) : CharClass :=
  if !flags.caseless then a
  else if flags.unicode then a.caseless
  else a.asciiCaseless

/-- The union of the parts between two operators. -/
def unite (parts : List Part) : Part :=
  match parts with
  | [] => ⟨∅, 0⟩
  | [p] => p
  | _ => ⟨.unions (parts.map (·.set)), 1 + parts.foldl (fun n p => max n p.height) 0⟩

inductive SetOperator where
  | intersection
  | difference
  | symmetricDifference

/-- The left side of an operator with the operator applied to what follows it. -/
def combine (flags : Flags) (left : Option (Part × SetOperator)) (right : Part) : Part :=
  match left with
  | none => right
  | some (l, op) =>
    let a := fold flags l.set
    let b := fold flags right.set
    let set := match op with
      | .intersection => a ∩ b
      | .difference => a \ b
      | .symmetricDifference => a.symmetricDifference b
    ⟨set, 1 + max l.height right.height⟩

/-- A member of a class: a character or an escape. -/
def classItem : Reader Primitive := do
  let c ← here
  bump
  if c = '\\' then escape else return .literal c

/-- A class of one character, which without classes of all scripts is of ASCII. -/
def literalSet (c : Char) : Reader CharClass := do
  if !(← get).flags.unicode && 0x80 ≤ c.toNat then failure else return .single c

/-- The character that a primitive stands for. -/
def Primitive.char? : Primitive → Option Char
  | .literal c => some c
  | .byte c => some c
  | _ => none

/-- A member of a class, or a range between two characters. -/
def classRange : Reader CharClass := do
  let first ← classItem
  skip
  let _ ← here
  let rest := (← get).rest
  let spaced := (← get).flags.spaced
  let next := (if spaced then skipSpaced false (rest.drop 1) else rest.drop 1).head?
  if rest.head? ≠ some '-' || next = some ']' || next = some '-' then
    match first with
    | .set s => return s
    | _ => literalSet (← first.char?)
  else
    bumpSkip
    let a ← (first.char? : Option Char)
    let b ← ((← classItem).char? : Option Char)
    if b < a then failure
    let _ ← literalSet b
    return CharClass.between a b

/-- A class by a name between colons, if one stands here, whether its complement is meant, and the
rest. -/
def asciiClass? (s : List Char) : Option (CharClass × Bool × List Char) := do
  let rest ← Text.stripPrefix? "[:".toList s
  let (negated, rest) := match rest with
    | '^' :: rest => (true, rest)
    | rest => (false, rest)
  let set ← CharClass.named? (String.ofList (rest.takeWhile (· ≠ ':')))
  let rest ← Text.stripPrefix? ":]".toList (rest.dropWhile (· ≠ ':'))
  return (set, negated, rest)

/-- The class with its case variants, or the complement of that. A complement holds characters
outside of ASCII, which only classes of all scripts may. -/
def closeClass (a : CharClass) (negated : Bool) : Reader CharClass := do
  let flags := (← get).flags
  if negated && !flags.unicode then failure
  return if negated then (fold flags a).complement else fold flags a

/-- The hyphens at the start of a class stand for themselves. -/
def leadingHyphens : Nat → Reader (List Part)
  | 0 => return []
  | fuel + 1 => do
    if (← here) = '-' then
      bumpSkip
      return ⟨.single '-', 0⟩ :: (← leadingHyphens fuel)
    else return []

/-- The parts of a class up to its closing bracket. `nested` reads a class inside of it. -/
def classBody (nested : Reader Part) :
    Nat → Option (Part × SetOperator) → List Part → Reader Part
  | 0, _, _ => failure
  | fuel + 1, left, parts => do
    skip
    let s ← get
    let operator (op : SetOperator) := do
      bump
      bump
      let done := combine s.flags left (unite parts)
      classBody nested fuel (some (done, op)) []
    match s.rest with
    | [] => failure
    | ']' :: _ =>
      bump
      return combine s.flags left (unite parts)
    | '&' :: '&' :: _ => operator .intersection
    | '-' :: '-' :: _ => operator .difference
    | '~' :: '~' :: _ => operator .symmetricDifference
    | '[' :: _ =>
      match asciiClass? s.rest with
      | some (named, negated, rest) =>
        set { s with rest := rest }
        classBody nested fuel left (parts ++ [⟨← closeClass named negated, 0⟩])
      | none =>
        let inner ← nested
        classBody nested fuel left (parts ++ [inner])
    | _ =>
      let item ← classRange
      classBody nested fuel left (parts ++ [⟨item, 0⟩])

/-- A class from its opening bracket on, with at most `level` classes inside each other. -/
def bracketClass : Nat → Reader Part
  | 0 => failure
  | level + 1 => do
    bumpSkip
    let negated := (← here) = '^'
    if negated then bumpSkip
    let hyphens ← leadingHyphens (← remaining)
    let first ← if hyphens.isEmpty && (← here) = ']' then do
        bumpSkip
        let _ ← here
        pure [⟨.single ']', 0⟩]
      else pure hyphens
    let body ← classBody (bracketClass level) ((← remaining) + 1) none first
    return ⟨← closeClass body.set negated, 1 + body.height⟩

/-! ## Flags and groups -/

def setFlag (flags : Flags) (c : Char) (on : Bool) : Option Flags :=
  match c with
  | 'i' => some { flags with caseless := on }
  | 'm' => some { flags with multiLine := on }
  | 's' => some { flags with dotAll := on }
  | 'R' => some { flags with crlf := on }
  | 'U' => some { flags with swapGreed := on }
  | 'u' => some { flags with unicode := on }
  | 'x' => some { flags with spaced := on }
  | _ => none

/-- The flags before a colon or a closing parenthesis. Each flag and the minus may come once, and a
flag must follow the minus. -/
def flagList (seen : List Char) (on : Bool) (flags : Flags) : Nat → Reader (List Char × Flags)
  | 0 => failure
  | fuel + 1 => do
    let c ← here
    if c = ':' || c = ')' then
      if seen.head? = some '-' then failure else return (seen, flags)
    else if seen.contains c then failure
    else
      bump
      if c = '-' then flagList (c :: seen) false flags fuel
      else flagList (c :: seen) on (← (setFlag flags c on : Option Flags)) fuel

/-- Whether `c` may stand in the name of a group, as its first character or later. -/
def isNameChar (first : Bool) (c : Char) : Bool :=
  let letter := c = '_' || Text.nameLetters.contains c
  if first then letter
  else letter || c = '.' || c = '[' || c = ']' || Text.nameNumbers.contains c

/-- The name of a group up to its closing angle. -/
def groupName : Reader Unit := do
  let s ← get
  let name := s.rest.takeWhile (· ≠ '>')
  match name with
  | [] => failure
  | c :: cs =>
    if !isNameChar true c || !cs.all (isNameChar false) || s.names.contains name then failure
    match s.rest.drop name.length with
    | _ :: rest => set { s with rest := rest, names := name :: s.names }
    | [] => failure

/-- What an opening parenthesis begins. -/
inductive Opening where
  | flags (flags : Flags)
  | plain (flags : Flags)
  | group (index : Nat)

def nextGroup : Reader Nat := do
  modify fun s => { s with groups := s.groups + 1 }
  return (← get).groups

def isLookAround (s : List Char) : Bool :=
  ["?=", "?!", "?<=", "?<!"].any fun p => p.toList.isPrefixOf s

/-- Reads behind an opening parenthesis what it begins. -/
def opening : Reader Opening := do
  skip
  if isLookAround (← get).rest then failure
  if (← bumpIf "?P<") || (← bumpIf "?<") then
    let index ← nextGroup
    groupName
    return .group index
  else if ← bumpIf "?" then
    let (seen, flags) ← flagList [] true (← get).flags ((← remaining) + 1)
    let close ← here
    bump
    if close = ':' then return .plain flags
    else if seen.isEmpty then failure
    else return .flags flags
  else return .group (← nextGroup)

/-! ## Patterns -/

/-- A part of a pattern and its height; flags cannot be repeated. -/
structure Piece where
  node : Node
  height : Nat
  repeatable : Bool

def literalNode (flags : Flags) (c : Char) : Node := .char (fold flags (.single c))

/-- A byte stands for the character with its number, or for itself where classes are of ASCII; a
byte outside of ASCII alone would be no text. -/
def byteNode (flags : Flags) (c : Char) : Option Node :=
  if !flags.unicode && 0x80 ≤ c.toNat then none else some (literalNode flags c)

def dotNode (flags : Flags) : Option Node :=
  if !flags.unicode then none
  else if flags.dotAll then some (.char .scalars)
  else if flags.crlf then some (.char (.complement (.single '\n' ∪ .single '\r')))
  else some (.char (.complement (.single '\n')))

def lineStart (flags : Flags) : Anchor := if flags.multiLine then .lineStart flags.crlf else .textStart

def lineEnd (flags : Flags) : Anchor := if flags.multiLine then .lineEnd flags.crlf else .textEnd

def primitiveNode (flags : Flags) : Primitive → Option Node
  | .literal c => some (literalNode flags c)
  | .byte c => byteNode flags c
  | .set s => some (.char s)
  | .anchor a => some (.anchor a)

/-- The bounds between braces, the opening one already taken. -/
def bounds : Reader (Nat × Option Nat) := do
  let least ← decimal
  let c ← here
  if c = ',' then
    bumpSkip
    let least ← (least : Option Nat)
    if (← here) = '\x7d' then
      bump
      return (least, none)
    else
      let most ← (← decimal : Option Nat)
      if (← here) ≠ '\x7d' then failure
      bump
      if most < least then failure else return (least, some most)
  else
    let n ← (least : Option Nat)
    if c ≠ '\x7d' then failure
    bump
    return (n, some n)

/-- A part with a repetition applied to it. A question mark right behind makes it lazy. -/
def repetition (body : Piece) (least : Nat) (most : Option Nat) : Reader Piece := do
  let lazy ← bumpIf "?"
  let greedy := lazy == (← get).flags.swapGreed
  return ⟨.mkRepetition body.node least most greedy, body.height + 1, true⟩

/-- The parts in order, the last one first in the list, as one. -/
def concatAll (parts : List Piece) : Node × Nat :=
  match parts with
  | [] => (.empty, 0)
  | [p] => (p.node, p.height)
  | _ => (.sequence (parts.reverse.map (·.node)), 1 + parts.foldl (fun n q => max n q.height) 0)

/-- The alternatives in order, the last one first in the list, as one. -/
def alternateAll (branches : List (Node × Nat)) : Node × Nat :=
  match branches with
  | [] => (.empty, 0)
  | [b] => b
  | _ => (.alternation heightLimit (branches.reverse.map (·.1)),
      1 + branches.foldl (fun n q => max n q.2) 0)

/-- What an opening parenthesis begins, up to the closing one. `inner` reads what is between. -/
def parenthesis (inner : Reader (Node × Nat)) : Reader Piece := do
  bump
  let outer := (← get).flags
  match ← opening with
  | .flags flags =>
    modify fun s => { s with flags := flags }
    return ⟨.empty, 0, false⟩
  | .plain flags =>
    modify fun s => { s with flags := flags }
    let (node, height) ← inner
    close outer
    return ⟨node, height + 1, true⟩
  | .group index =>
    let (node, height) ← inner
    close outer
    return ⟨.group index node, height + 1, true⟩
where
  close (outer : Flags) : Reader Unit := do
    if (← here) ≠ ')' then failure
    bump
    modify fun s => { s with flags := outer }

/-- The alternatives up to a closing parenthesis or the end. `parts` are those of the alternative
that is being read and `branches` those before it, the last first. -/
def alternatives (inner : Reader (Node × Nat)) :
    Nat → List (Node × Nat) → List Piece → Reader (Node × Nat)
  | 0, _, _ => failure
  | fuel + 1, branches, parts => do
    skip
    let again (p : Piece) (ps : List Piece) := alternatives inner fuel branches (p :: ps)
    let repeated (least : Nat) (most : Option Nat) := do
      bump
      match parts with
      | p :: ps => if p.repeatable then again (← repetition p least most) ps else failure
      | [] => failure
    match (← get).rest with
    | [] => return alternateAll (concatAll parts :: branches)
    | ')' :: _ => return alternateAll (concatAll parts :: branches)
    | '|' :: _ =>
      bump
      alternatives inner fuel (concatAll parts :: branches) []
    | '(' :: _ => again (← parenthesis inner) parts
    | '[' :: _ =>
      let p ← bracketClass heightLimit
      again ⟨.char p.set, p.height, true⟩ parts
    | '?' :: _ => repeated 0 (some 1)
    | '*' :: _ => repeated 0 none
    | '+' :: _ => repeated 1 none
    | '\x7b' :: _ =>
      match parts with
      | p :: ps =>
        if !p.repeatable then failure
        bumpSkip
        let (least, most) ← bounds
        skip
        again (← repetition p least most) ps
      | [] => failure
    | '\\' :: _ =>
      bump
      let p ← escape
      again ⟨← (primitiveNode (← get).flags p : Option Node), 0, true⟩ parts
    | '.' :: _ =>
      bump
      again ⟨← (dotNode (← get).flags : Option Node), 0, true⟩ parts
    | '^' :: _ =>
      bump
      again ⟨.anchor (lineStart (← get).flags), 0, true⟩ parts
    | '$' :: _ =>
      bump
      again ⟨.anchor (lineEnd (← get).flags), 0, true⟩ parts
    | c :: _ =>
      bump
      again ⟨literalNode (← get).flags c, 0, true⟩ parts

/-- A pattern with at most `level` groups inside each other. -/
def pattern : Nat → Reader (Node × Nat)
  | 0 => failure
  | level + 1 => do alternatives (pattern level) ((← remaining) + 1) [] []

/-- The tree of a pattern. -/
def parse? (text : String) : Option Node :=
  match (pattern (heightLimit + 2)).run ⟨text.toList, {}, 0, []⟩ with
  | some ((node, height), s) => if s.rest.isEmpty && height ≤ heightLimit then some node else none
  | none => none

end BenchSweep.Regex
