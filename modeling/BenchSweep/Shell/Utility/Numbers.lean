import BenchSweep.Shell.Utility.Output
import BenchSweep.Shell.Builtin.Basic

/-! Programs for numbers. -/
set_option autoImplicit false

namespace BenchSweep.Shell.Utility

/-! ## Decimals -/

/-- A decimal number `digits / 10 ^ places`. -/
structure DecimalNumber where
  digits : Int
  places : Nat

namespace DecimalNumber

/-- The decimal that a whole text is, perhaps with a power of ten. -/
def ofText? (s : String) : Option DecimalNumber :=
  let (sign, cs) : Int × List Char := match s.toList.dropWhile Arithmetic.isSpace with
    | '-' :: cs => (-1, cs)
    | '+' :: cs => (1, cs)
    | cs => (1, cs)
  let (n, places, count, rest) := Quantity.pointed 10 cs
  let (e, behind) := Quantity.power ['e', 'E'] rest
  if count = 0 || !behind.isEmpty || 400 < e.natAbs then none
  else
    let up := (e - places).toNat
    some ⟨sign * n * Nat.pow 10 up, ((places : Int) - e).toNat⟩

/-- The digits of the number at so many places. -/
def atPlaces (x : DecimalNumber) (places : Nat) : Int := x.digits * Nat.pow 10 (places - x.places)

/-- A whole number with a point before its last `places` digits. -/
def text (places : Nat) (n : Int) : String :=
  let ds := Decimal.digits n.natAbs
  let ds := List.replicate (places + 1 - ds.length) '0' ++ ds
  let sign := if n < 0 then "-" else ""
  let whole := String.ofList (ds.take (ds.length - places))
  if places = 0 then sign ++ whole
  else sign ++ whole ++ "." ++ String.ofList (ds.drop (ds.length - places))

end DecimalNumber

/-- At most so many numbers are counted. -/
def countLimit : Nat := Nat.pow 2 20

/-- What is wrong with a format for numbers with a point. -/
def formatFault? (format : String) : Option String :=
  let rec look (fuel : Nat) (found : Bool) (cs : List Char) : Option String :=
    match fuel, cs with
    | 0, _ => none
    | _ + 1, [] =>
      if found then none else some s!"format {Quotation.quoted format} has no % directive"
    | n + 1, '%' :: '%' :: rest => look n found rest
    | n + 1, '%' :: rest =>
      if found then some s!"format {Quotation.quoted format} has too many % directives"
      else
        match rest.dropWhile fun c => c.isDigit || ['-', '+', '#', ' ', '.', '\'', 'L'].contains c with
        | [] => some s!"format {Quotation.quoted format} ends in %"
        | c :: behind =>
          if ['e', 'f', 'g', 'a', 'E', 'F', 'G', 'A'].contains c then look n true behind
          else some s!"format {Quotation.quoted format} has unknown %{c} directive"
    | n + 1, _ :: rest => look n found rest
  look (format.length + 1) false format.toList

/-- A negative number among the arguments is no option. -/
def isNegative (s : String) : Bool :=
  match s.toList with
  | '-' :: c :: _ => c == '.' || c.isDigit
  | _ => false

/-- The options before the numbers. -/
def seqOptions (args : List String) : Except String Found :=
  let front := args.takeWhile (!isNegative ·)
  let known := [valued 's' "separator", valued 'f' "format", flag 'w' "equal-width"]
  match scanOptions known true (front.length + 1) front with
  | .ok (found, rest) => .ok (found, rest ++ args.drop front.length)
  | .error message => .error message

/-- Prints the numbers from one to another. -/
def count (o : Options) (first step last : DecimalNumber) : Act Nat := do
  let places := max first.places step.places
  let all := max places last.places
  let (a, d, b) := (first.atPlaces all, step.atPlaces all, last.atPlaces all)
  let steps := if (0 < d ∧ b < a) ∨ (d < 0 ∧ a < b) then 0 else ((b - a) / d).toNat + 1
  let values := (List.range (min steps countLimit)).map fun (i : Nat) =>
    DecimalNumber.text places ((a + d * i) / Nat.pow 10 (all - places))
  let wide := max ((values.head?.map String.length).getD 0)
    ((values.getLast?.map String.length).getD 0)
  let shown (v : String) : String :=
    match o.value? 'f' with
    | some format =>
      let (_, events, _) := Format.print dialect format [v]
      String.ofList (Text.Utf8.decodeLossy (events.flatMap fun
        | .bytes bs => bs
        | .fault _ => []))
    | none =>
      if !o.has 'w' then v
      else
        let (sign, ds) := if v.startsWith "-" then ("-", String.ofList (v.toList.drop 1)) else ("", v)
        sign ++ String.ofList (List.replicate (wide - v.length) '0') ++ ds
  if !values.isEmpty then
    Act.say (((o.value? 's').getD "\n").intercalate (values.map shown) ++ "\n")
  return 0

def seq : Utility := fun args => do
  match seqOptions args with
  | .error message => misuse 1 message
  | .ok (found, args) =>
    let o : Options := ⟨found⟩
    match (o.value? 'f').bind formatFault?, args with
    | _, [] => missingOperand
    | _, _ :: _ :: _ :: extra :: _ => extraOperand extra
    | some message, _ =>
      fault message
      return 1
    | none, args =>
      match args.find? fun a => (DecimalNumber.ofText? a).isNone with
      | some bad => misuse 1 s!"invalid floating point argument: {Quotation.quoted bad}"
      | none =>
        match args.filterMap DecimalNumber.ofText? with
        | [last] => count o ⟨1, 0⟩ ⟨1, 0⟩ last
        | [first, last] => count o first ⟨1, 0⟩ last
        | [first, step, last] =>
          if step.digits = 0 then
            misuse 1 ("invalid Zero increment value: " ++ Quotation.quoted (args.getD 1 ""))
          else count o first step last
        | _ => return 1

/-! ## Expressions -/

/-- Why an expression has no value. -/
inductive ExprFault where
  | missing (behind : String)
  | unexpected (word : String)
  | unclosed (word : Option String)
  | noNumber
  | divisionByZero
  | badPattern

def ExprFault.message : ExprFault → String
  | missing behind => s!"syntax error: missing argument after {Quotation.quoted behind}"
  | unexpected word => s!"syntax error: unexpected argument {Quotation.quoted word}"
  | unclosed none => "syntax error: expecting ')' after ''"
  | unclosed (some word) => s!"syntax error: expecting ')' instead of {Quotation.quoted word}"
  | noNumber => "non-integer argument"
  | divisionByZero => "division by zero"
  | badPattern => "Invalid regular expression"

/-- A reader of the words of an expression; what was read last is remembered. -/
abbrev ExprReader (α : Type) := StateT (String × List String) (Except ExprFault) α

namespace ExprReader

/-- A whole number as a word, without spaces or a plus. -/
def integer? (s : String) : Option Int :=
  let (sign, ds) : Int × List Char := match s.toList with
    | '-' :: ds => (-1, ds)
    | ds => (1, ds)
  if ds.isEmpty || !ds.all Char.isDigit then none else some (sign * Arithmetic.ofDigits 10 ds)

def isNull (s : String) : Bool :=
  s = "" || ((s.toList.all fun c => c == '0' || c == '-') && (integer? s).isSome)

def numbers (a b : String) (f : Int → Int → ExprReader Int) : ExprReader String := do
  match integer? a, integer? b with
  | some m, some n => return String.ofList (Decimal.integer (← f m n))
  | _, _ => throw .noNumber

def truth (b : Bool) : String := if b then "1" else "0"

def compare (o a b : String) : Option String :=
  let order : Ordering := match integer? a, integer? b with
    | some m, some n => Ord.compare m n
    | _, _ => Ord.compare a b
  match o with
  | "<" => some (truth (order = .lt))
  | "<=" => some (truth (order ≠ .gt))
  | ">" => some (truth (order = .gt))
  | ">=" => some (truth (order ≠ .lt))
  | "=" => some (truth (order = .eq))
  | "==" => some (truth (order = .eq))
  | "!=" => some (truth (order ≠ .eq))
  | _ => none

/-- How tightly an operator binds. -/
def level? (o : String) : Option Nat :=
  match o with
  | "|" => some 0
  | "&" => some 1
  | "<" => some 2
  | "<=" => some 2
  | ">" => some 2
  | ">=" => some 2
  | "=" => some 2
  | "==" => some 2
  | "!=" => some 2
  | "+" => some 3
  | "-" => some 3
  | "*" => some 4
  | "/" => some 4
  | "%" => some 4
  | ":" => some 5
  | _ => none

def apply (matching : String → String → Option String) (o a b : String) : ExprReader String := do
  match o with
  | "|" => return if !isNull a then a else if !isNull b then b else "0"
  | "&" => return if isNull a || isNull b then "0" else a
  | "+" => numbers a b fun m n => return m + n
  | "-" => numbers a b fun m n => return m - n
  | "*" => numbers a b fun m n => return m * n
  | "/" => numbers a b fun m n => if n = 0 then throw .divisionByZero else return m.tdiv n
  | "%" => numbers a b fun m n => if n = 0 then throw .divisionByZero else return m.tmod n
  | ":" =>
    match matching a b with
    | some found => return found
    | none => throw .badPattern
  | _ => return (compare o a b).getD "0"

/-- The next word of the operand. -/
def word : ExprReader String := do
  let (last, rest) ← get
  match rest with
  | [] => throw (.missing last)
  | w :: more =>
    set (w, more)
    return w

mutual

/-- A value with all operators of at least this level behind it. -/
def expression (matching : String → String → Option String) (level : Nat) :
    Nat → ExprReader String
  | 0 => throw .noNumber
  | n + 1 => do
    let left ← if level < 6 then expression matching (level + 1) n else operand matching n
    if level < 6 then operators matching level left n else return left

/-- The operators of one level behind a value. -/
def operators (matching : String → String → Option String) (level : Nat) (left : String) :
    Nat → ExprReader String
  | 0 => throw .noNumber
  | n + 1 => do
    match (← get).2 with
    | o :: rest =>
      if level? o = some level then
        set (o, rest)
        let right ← expression matching (level + 1) n
        operators matching level (← apply matching o left right) n
      else return left
    | [] => return left

def operand (matching : String → String → Option String) : Nat → ExprReader String
  | 0 => throw .noNumber
  | n + 1 => do
    let w ← word
    match w with
    | "(" =>
      let value ← expression matching 0 n
      match (← get).2 with
      | ")" :: rest =>
        set (")", rest)
        return value
      | other => throw (.unclosed other.head?)
    | ")" => throw (.unexpected ")")
    | "+" => word
    | "length" => return String.ofList (Decimal.digits (← operand matching n).utf8ByteSize)
    | "match" =>
      let a ← operand matching n
      let b ← operand matching n
      apply matching ":" a b
    | "index" =>
      let a := (← operand matching n).toList
      let b := (← operand matching n).toList
      let at_ := (a.findIdx? b.contains).map (· + 1)
      return String.ofList (Decimal.digits (at_.getD 0))
    | "substr" =>
      let text := (← operand matching n).toList
      let start := integer? (← operand matching n)
      let size := integer? (← operand matching n)
      match start, size with
      | some i, some k =>
        return if i ≤ 0 || k ≤ 0 then "" else String.ofList ((text.drop (i - 1).toNat).take k.toNat)
      | _, _ => return ""
    | _ => return w

end

end ExprReader

/-- The value of the words as an expression; `matching` tells what a pattern finds at the start of a
text. -/
def exprValue (matching : String → String → Option String) (args : List String) :
    Except ExprFault String := do
  let (value, _, rest) ←
    (ExprReader.expression matching 0 (16 * args.length + 32)).run ("", args)
  match rest with
  | [] => return value
  | extra :: _ => throw (.unexpected extra)

end BenchSweep.Shell.Utility
