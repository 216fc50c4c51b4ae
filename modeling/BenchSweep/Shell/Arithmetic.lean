import BenchSweep.Decimal.Reading

/-! Arithmetic expressions of the shell on whole numbers of 64 bits. The operators bind as in most
languages; a name stands for the number that its variable holds. What a condition leaves out is read
and not carried out. -/
set_option autoImplicit false

namespace BenchSweep.Shell.Arithmetic

/-- Why an expression has no value. -/
inductive Fault where
  /-- Something else must come in the expression. -/
  | expected (what : String)
  | divisionByZero
  /-- A variable holds a text that is no number. -/
  | notANumber (text : String)
  /-- A quotient is too great for 64 bits. -/
  | tooGreat

/-! ## Numbers -/

def digitValue (c : Char) : Nat :=
  if c.isDigit then c.toNat - 48 else if c.isLower then c.toNat - 87 else c.toNat - 55

def ofDigits (base : Nat) (cs : List Char) : Nat := cs.foldl (fun n c => n * base + digitValue c) 0

/-- Whether a character is a digit in this base. -/
def isDigitIn (base : Nat) (c : Char) : Bool := c.isAlphanum && digitValue c < base

/-- The base that the start of a number tells, and how many characters tell it. -/
def base : List Char → Nat × Nat
  | '0' :: x :: d :: _ =>
    if (x == 'x' || x == 'X') && isDigitIn 16 d then (16, 2)
    else if (x == 'b' || x == 'B') && isDigitIn 2 d then (2, 2)
    else (8, 0)
  | '0' :: _ => (8, 0)
  | _ => (10, 0)

/-- The number at the start of a text without a sign, and how many characters it has. -/
def magnitude (cs : List Char) : Nat × Nat :=
  let (b, mark) := base cs
  let ds := (cs.drop mark).takeWhile (isDigitIn b)
  (ofDigits b ds, mark + ds.length)

def isSpace (c : Char) : Bool := c == ' ' || ('\t' ≤ c && c ≤ '\r')

/-- The number at the start of a text, spaces and a sign before it, and the text behind; no number if
there is no digit. -/
def reading (cs : List Char) : Option Int × List Char :=
  let inner := cs.dropWhile isSpace
  let (sign, ds) : Int × List Char := match inner with
    | '-' :: rest => (-1, rest)
    | '+' :: rest => (1, rest)
    | rest => (1, rest)
  match magnitude ds with
  | (_, 0) => (none, cs)
  | (n, width) => (some (sign * n), ds.drop width)

def leastNumber : Int := -Nat.pow 2 63

def greatestNumber : Int := Nat.pow 2 63 - 1

/-- The number of 64 bits next to a number. -/
def clamp (n : Int) : Int := max leastNumber (min greatestNumber n)

/-- The number that a whole text is; an empty one is zero. -/
def number? (text : String) : Option Int :=
  let (n, rest) := reading text.toList
  if rest.all isSpace then
    match n with
    | none => some 0
    | some n => if n = clamp n then some n else none
  else none

/-! ## Tokens -/

inductive Token where
  | number (n : Int)
  | name (s : String)
  | operator (s : String)
  /-- A character that no token starts with. -/
  | other
deriving DecidableEq

def operators : List String :=
  ["<<=", ">>=", "<<", ">>", "<=", ">=", "==", "!=", "&&", "||", "+=", "-=", "*=", "/=", "%=", "&=",
    "|=", "^=", "+", "-", "*", "/", "%", "<", ">", "!", "~", "&", "|", "^", "=", "?", ":", "(", ")"]

def isNameStart (c : Char) : Bool := c.isAlpha || c == '_'

def isNameChar (c : Char) : Bool := c.isAlphanum || c == '_'

/-- The tokens of a text up to the first character that belongs to none. -/
def tokens : Nat → List Char → List Token
  | 0, _ => []
  | _ + 1, [] => []
  | n + 1, c :: cs =>
    if c == ' ' || c == '\t' || c == '\n' then tokens n cs
    else if c.isDigit then
      let (k, width) := magnitude (c :: cs)
      .number (clamp k) :: tokens n ((c :: cs).drop width)
    else if isNameStart c then
      let name := c :: cs.takeWhile isNameChar
      .name (String.ofList name) :: tokens n ((c :: cs).drop name.length)
    else
      match operators.find? fun o => o.toList.isPrefixOf (c :: cs) with
      | some o => .operator o :: tokens n ((c :: cs).drop o.length)
      | none => [.other]

/-! ## Operators -/

/-- The variables that an expression reads and sets. -/
structure Scope where
  read : String → String
  assigned : List (String × Int)

def Scope.value (s : Scope) (name : String) : Except Fault Int :=
  match s.assigned.lookup name with
  | some n => .ok n
  | none =>
    match number? (s.read name) with
    | some n => .ok n
    | none => .error (.notANumber (s.read name))

def wrap (n : Int) : Int := Int.bmod n (Nat.pow 2 64)

def truth (b : Bool) : Int := if b then 1 else 0

/-- A number as its 64 bits. -/
def bits (n : Int) : UInt64 := (Int64.ofInt n).toUInt64

def ofBits (n : UInt64) : Int := n.toInt64.toInt

/-- A quotient or remainder. -/
def divided (a b : Int) (f : Int → Int → Int) : Except Fault Int :=
  if b = 0 then .error .divisionByZero
  else if a = leastNumber ∧ b = -1 then .error .tooGreat
  else .ok (f a b)

/-- The value of an operator between two numbers. -/
def binary (o : String) (a b : Int) : Except Fault Int :=
  match o with
  | "+" => .ok (wrap (a + b))
  | "-" => .ok (wrap (a - b))
  | "*" => .ok (wrap (a * b))
  | "/" => divided a b Int.tdiv
  | "%" => divided a b Int.tmod
  | "<<" => .ok (ofBits (bits a <<< bits b))
  | ">>" => .ok ((Int64.ofInt a >>> Int64.ofInt b).toInt)
  | "<" => .ok (truth (a < b))
  | "<=" => .ok (truth (a ≤ b))
  | ">" => .ok (truth (b < a))
  | ">=" => .ok (truth (b ≤ a))
  | "==" => .ok (truth (a = b))
  | "!=" => .ok (truth (a ≠ b))
  | "&" => .ok (ofBits (bits a &&& bits b))
  | "^" => .ok (ofBits (bits a ^^^ bits b))
  | "|" => .ok (ofBits (bits a ||| bits b))
  | _ => .error (.expected "primary")

/-- How strongly an operator between two numbers binds. -/
def strength (o : String) : Option Nat :=
  if ["*", "/", "%"].contains o then some 8
  else if ["+", "-"].contains o then some 7
  else if ["<<", ">>"].contains o then some 6
  else if ["<", "<=", ">", ">="].contains o then some 5
  else if ["==", "!="].contains o then some 4
  else if o = "&" then some 3
  else if o = "^" then some 2
  else if o = "|" then some 1
  else none

/-- What an operator makes of the value of a variable before it is set: nothing, or the value of
another operator. -/
def assignment? (o : String) : Option (Option String) :=
  if o = "=" then some none
  else if ["+=", "-=", "*=", "/=", "%=", "&=", "|=", "^=", "<<=", ">>="].contains o then
    some (some (o.dropEnd 1).toString)
  else none

/-! ## Evaluation -/

/-- An evaluation that consumes tokens. -/
abbrev Eval (α : Type) := StateT (List Token × Scope) (Except Fault) α

def peek : Eval (Option Token) := return (← get).1.head?

/-- Whether this operator comes next, which is then taken. -/
def take (o : String) : Eval Bool := do
  if (← peek) = some (.operator o) then
    modify fun (ts, s) => (ts.drop 1, s)
    return true
  else return false

def skip : Eval Unit := modify fun (ts, s) => (ts.drop 1, s)

def scope : Eval Scope := return (← get).2

def set_ (name : String) (n : Int) : Eval Unit :=
  modify fun (ts, s) => (ts, { s with assigned := (name, n) :: s.assigned })

mutual

/-- An assignment or a condition. What is not `live` is only read. -/
def expression : Nat → (live : Bool) → Eval Int
  | 0, _ => throw (.expected "primary")
  | n + 1, live => do
    match (← get).1 with
    | .name name :: .operator o :: _ =>
      match assignment? o with
      | none => condition n live
      | some change =>
        skip
        skip
        let b ← expression n live
        if !live then return b
        let v ← match change with
          | none => pure b
          | some o => binary o (← (← scope).value name) b
        set_ name v
        return v
    | _ => condition n live

def condition : Nat → Bool → Eval Int
  | 0, _ => throw (.expected "primary")
  | n + 1, live => do
    let c ← disjunction n live
    if !(← take "?") then return c
    let a ← expression n (live && c ≠ 0)
    if !(← take ":") then throw (.expected "':'")
    let b ← condition n (live && c = 0)
    return if c ≠ 0 then a else b

def disjunction : Nat → Bool → Eval Int
  | 0, _ => throw (.expected "primary")
  | n + 1, live => do
    let a ← conjunction n live
    if !(← take "||") then return a
    let b ← disjunction n (live && a = 0)
    return truth (a ≠ 0 || b ≠ 0)

def conjunction : Nat → Bool → Eval Int
  | 0, _ => throw (.expected "primary")
  | n + 1, live => do
    let a ← chain n live 1
    if !(← take "&&") then return a
    let b ← conjunction n (live && a ≠ 0)
    return truth (a ≠ 0 && b ≠ 0)

/-- Operands with operators that bind at least this strongly between them. -/
def chain : Nat → Bool → Nat → Eval Int
  | 0, _, _ => throw (.expected "primary")
  | n + 1, live, least => do
    let a ← operand n live
    chainRest n live least a

def chainRest : Nat → Bool → Nat → Int → Eval Int
  | 0, _, _, a => return a
  | n + 1, live, least, a => do
    match ← peek with
    | some (.operator o) =>
      match strength o with
      | some k =>
        if k < least then return a
        skip
        let b ← chain n live (k + 1)
        chainRest n live least (← if live then binary o a b else pure b)
      | none => return a
    | _ => return a

/-- A number, a name, a sign or parentheses. -/
def operand : Nat → Bool → Eval Int
  | 0, _ => throw (.expected "primary")
  | n + 1, live => do
    match ← peek with
    | some (.number k) => skip; return k
    | some (.name name) =>
      skip
      if live then (← scope).value name else return 0
    | some (.operator "(") =>
      skip
      let v ← expression n live
      if !(← take ")") then throw (.expected "')'")
      return v
    | some (.operator "+") => skip; operand n live
    | some (.operator "-") => skip; return wrap (-(← operand n live))
    | some (.operator "!") => skip; return truth ((← operand n live) = 0)
    | some (.operator "~") => skip; return -(← operand n live) - 1
    | _ => throw (.expected "primary")

end

/-- The value of an expression and the variables that it sets, the last one first. -/
def evaluate (read : String → String) (text : List Char) :
    Except Fault (Int × List (String × Int)) := do
  let ts := tokens (text.length + 1) text
  let (v, rest, s) ← (expression (10 * ts.length + 10) true).run (ts, ⟨read, []⟩)
  if rest.isEmpty then return (v, s.assigned) else throw (.expected "EOF")

/-- The fault of the expression `text`. -/
def Fault.message (text : String) : Fault → String
  | .expected what => s!"arithmetic expression: expecting {what}: \"{text}\""
  | .divisionByZero => s!"arithmetic expression: division by zero: \"{text}\""
  | .notANumber t => s!"Illegal number: {t}"
  | .tooGreat => ""

end BenchSweep.Shell.Arithmetic
