import BenchSweep.Shell.Builtin.Basic
import BenchSweep.Shell.Device

/-! Conditions on texts, numbers and files. With up to four arguments their number decides how they are
read; with more, they are read as an expression from the left. -/
set_option autoImplicit false

namespace BenchSweep.Shell.Condition

/-- What an argument is in the place where it stands. -/
inductive Sign where
  | unary (letter : Char)
  | binary (operator : String)
  | negation
  | conjunction
  | disjunction
  | opening
  | closing
  | operand
  /-- Behind the last argument. -/
  | absent
deriving DecidableEq

def unaryLetters : List Char :=
  ['r', 'w', 'x', 'e', 'f', 'd', 'c', 'b', 'p', 'u', 'g', 'k', 's', 't', 'z', 'n', 'h', 'L', 'O', 'G',
    'S']

def binaryOperators : List String :=
  ["=", "!=", "<", ">", "-eq", "-ne", "-ge", "-gt", "-le", "-lt", "-nt", "-ot", "-ef"]

/-- The operator that a word can be. -/
def operator? (s : String) : Option Sign :=
  if binaryOperators.contains s then some (.binary s)
  else
    match s.toList with
    | ['-', c] =>
      if unaryLetters.contains c then some (.unary c)
      else if c == 'a' then some .conjunction
      else if c == 'o' then some .disjunction
      else none
    | ['!'] => some .negation
    | ['('] => some .opening
    | [')'] => some .closing
    | _ => none

def isBinary (s : String) : Bool := binaryOperators.contains s

/-- Whether the operator of one argument in first place is an operand, as what follows tells. -/
def standsAlone : List String → Bool
  | [] => true
  | [_] => false
  | next :: _ => isBinary next

/-- What the first of the arguments is. -/
def sign : List String → Sign
  | [] => .absent
  | s :: rest =>
    match operator? s with
    | none => .operand
    | some (.unary c) => if standsAlone rest then .operand else .unary c
    | some .opening => if rest.isEmpty then .operand else .opening
    | some o => o

/-! ## Single conditions -/

/-- A number as an argument. -/
def number (s : String) : Except String Int :=
  match Builtin.integer? s with
  | some n => .ok n
  | none => .error s!"Illegal number: {s}"

/-- Whether a file holds anything. A directory does. -/
def hasContent (place : Location) : Node → Bool
  | .file content => (device? place).isNone && !content.isEmpty
  | _ => true

def unary (fs : Files) (c : Char) (arg : String) : Except String Bool :=
  let ofFile (p : Location → Node → Bool) : Bool := match fs.find ⟨arg⟩ with
    | .ok (place, node) => p place node
    | .error _ => false
  match c with
  | 'n' => .ok (arg ≠ "")
  | 'z' => .ok (arg = "")
  | 't' => (number arg).map fun _ => false
  | 'd' => .ok (fs.isDirectory ⟨arg⟩)
  | 'f' => .ok (ofFile fun place node => node ≠ .directory && (device? place).isNone)
  | 'c' => .ok (ofFile fun place _ => (device? place).isSome)
  | 's' => .ok (ofFile hasContent)
  | 'x' => .ok (ofFile fun _ node => match node with
    | .file _ => false
    | _ => true)
  | _ => .ok (['e', 'r', 'w', 'O', 'G'].contains c && fs.has ⟨arg⟩)

def binary (fs : Files) (a o b : String) : Except String Bool :=
  let numbers (f : Int → Int → Bool) : Except String Bool := do
    let m ← number a
    return f m (← number b)
  match o with
  | "=" => .ok (a = b)
  | "!=" => .ok (a ≠ b)
  | "<" => .ok (a < b)
  | ">" => .ok (b < a)
  | "-eq" => numbers fun m n => m = n
  | "-ne" => numbers fun m n => m ≠ n
  | "-lt" => numbers fun m n => m < n
  | "-le" => numbers fun m n => m ≤ n
  | "-gt" => numbers fun m n => n < m
  | "-ge" => numbers fun m n => n ≤ m
  | "-ef" =>
    match fs.find ⟨a⟩, fs.find ⟨b⟩ with
    | .ok (p, _), .ok (q, _) => .ok (p = q)
    | _, _ => .ok false
  | _ => .ok false

/-! ## Expressions -/

/-- A reader of the arguments that are left; it stands at the last one that was read. -/
abbrev Reader (α : Type) := StateT (List String) (Except String) α

/-- Goes on to the next argument. -/
def step : Reader (List String) := do
  set (← get).tail
  get

mutual

def disjunction (fs : Files) : Nat → Sign → Reader Bool
  | 0, _ => throw "too many arguments"
  | n + 1, s => do
    let here ← conjunction fs n s
    if sign (← get).tail = .disjunction then
      let _ ← step
      let rest ← step
      return (← disjunction fs n (sign rest)) || here
    else return here

def conjunction (fs : Files) : Nat → Sign → Reader Bool
  | 0, _ => throw "too many arguments"
  | n + 1, s => do
    let here ← negation fs n s
    if sign (← get).tail = .conjunction then
      let _ ← step
      let rest ← step
      return (← conjunction fs n (sign rest)) && here
    else return here

def negation (fs : Files) : Nat → Sign → Reader Bool
  | 0, _ => throw "too many arguments"
  | n + 1, s => do
    if s = .negation then
      let next := sign (← get).tail
      if next ≠ .absent then
        let _ ← step
      return !(← negation fs n next)
    else primary fs n s

def primary (fs : Files) : Nat → Sign → Reader Bool
  | 0, _ => throw "too many arguments"
  | n + 1, s => do
    match s with
    | .absent => return false
    | .opening =>
      let inner := sign (← step)
      if inner = .closing then return false
      let value ← disjunction fs n inner
      if sign (← step) ≠ .closing then throw "closing paren expected"
      return value
    | .unary c => (unary fs c ((← step).headD "") : Except String Bool)
    | _ =>
      let args ← get
      match sign args.tail with
      | .binary o =>
        let _ ← step
        match ← step with
        | [] => throw s!"{o}: argument expected"
        | b :: _ => (binary fs (args.headD "") o b : Except String Bool)
      | _ => return args.headD "" ≠ ""

end

/-- Whether the arguments are a condition that holds, or what is wrong with them. -/
def expression (fs : Files) (s : Sign) (args : List String) : Except String Bool := do
  let (value, rest) ← (disjunction fs (4 * args.length + 4) s).run args
  match rest with
  | last :: _ :: _ =>
    throw (if last = "" then "unexpected operator" else s!"{last}: unexpected operator")
  | _ => return value

/-- Whether the arguments are a condition that holds; `negated` tells that a mark before them turns it
round. -/
def holds (fs : Files) (negated : Bool) (args : List String) : Except String Bool :=
  let whole (s : Sign) (args : List String) : Except String Bool :=
    (expression fs s args).map (· != negated)
  match args with
  | [] => .ok false
  | [a, o, b] =>
    if isBinary o then whole .operand args
    else if a = "(" && b = ")" then whole (sign [o]) [o]
    else if a = "!" then holds fs true [o, b]
    else whole (sign args) args
  | [a, b, c, d] =>
    if a = "(" && d = ")" then whole (sign [b, c]) [b, c]
    else if a = "!" then holds fs true [b, c, d]
    else whole (sign args) args
  | _ => whole (sign args) args

/-- Whether the arguments, the last of which must close brackets, are a condition that holds. -/
def bracketed (fs : Files) (args : List String) : Except String Bool :=
  if (args.getLast?.map (·.startsWith "]")).getD false then holds fs false args.dropLast
  else .error "missing ]"

end BenchSweep.Shell.Condition
