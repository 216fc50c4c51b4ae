import BenchSweep.Decimal.Notation
import BenchSweep.Decimal.Reading
import BenchSweep.OrderedMap
import BenchSweep.Text.Blank

/-! Values of parameters and sets of named values. A value given as bare text is an integer, else a
finite float, else a truth value, else the text itself without the blanks at its ends. -/
set_option autoImplicit false

namespace BenchSweep

inductive Value where
  | bool (value : Bool)
  | integer (value : Int64)
  | float (value : Binary64)
  | text (value : String)
deriving DecidableEq

/-- Named values in order of declaration. -/
abbrev Params := OrderedMap String Value

/-- Shortest digits, always with a point or a power of ten, positional from `10 ^ -4` to below
`10 ^ 16`. -/
def floatStyle : Decimal.FloatStyle := ⟨"NaN", some (-3, 16)⟩

/-- The text of a float in command lines and tables. -/
def floatText (x : Binary64) : String := floatStyle.write x

def boolText (b : Bool) : String := if b then "true" else "false"

namespace Value

/-- An integer of 64 bits, if the text is one. -/
def integer? (s : List Char) : Option Value :=
  match Decimal.readInt64 s with
  | .ok n => some (.integer (Int64.ofInt n))
  | .error _ => none

/-- A finite float, if the text is one. -/
def float? (s : List Char) : Option Value :=
  match Decimal.readFloat s with
  | .ok x => if x.isFinite then some (.float x) else none
  | .error _ => none

def bool? (s : List Char) : Option Value :=
  if s = "true".toList then some (.bool true)
  else if s = "false".toList then some (.bool false)
  else none

/-- The value that a bare text denotes. -/
def ofText (raw : String) : Value :=
  let s := Text.trim raw.toList
  ((integer? s <|> float? s) <|> bool? s).getD (.text (String.ofList s))

/-- The text of a value in command lines and tables. -/
def toText : Value → String
  | .bool b => boolText b
  | .integer n => String.ofList (Decimal.integer n.toInt)
  | .float x => floatText x
  | .text s => s

end Value

end BenchSweep
