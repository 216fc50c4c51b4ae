import BenchSweep.Decimal.Reading
import BenchSweep.Override
import BenchSweep.Path

/-! Words of a command line read as options and operands. Options have a long name and perhaps a
letter; a value stands behind an equals sign, right behind the letter or in the next word. Words behind
`--` are operands, whatever they look like. -/
set_option autoImplicit false

namespace BenchSweep.CommandLine

/-! ## Values -/

/-- What an option or an operand takes. -/
inductive Kind where
  /-- Nothing; the option alone says it. -/
  | flag
  | text
  /-- A path, which is not empty. -/
  | path
  /-- A count of 32 bits. -/
  | count
  /-- A count of 64 bits. -/
  | longCount
  | override

def path? (s : String) : Option Path := if s = "" then none else some ⟨s⟩

def count? (s : String) : Option UInt32 :=
  match Decimal.readInt64 s.toList with
  | .ok n => if 0 ≤ n && n < Nat.pow 2 32 then some (UInt32.ofNat n.toNat) else none
  | .error _ => none

/-- A count that takes no sign but a plus. -/
def longCount? (s : String) : Option UInt64 :=
  if s.startsWith "-" then none
  else
    match Decimal.readInteger 0 (Nat.pow 2 64) s.toList with
    | .ok n => some (UInt64.ofNat n.toNat)
    | .error _ => none

def override? (s : String) : Option Override :=
  match Override.ofText s with
  | .ok o => some o
  | .error _ => none

/-- Whether a text is a value of this kind. -/
def Kind.takes (k : Kind) (s : String) : Bool :=
  match k with
  | .flag => false
  | .text => true
  | .path => (path? s).isSome
  | .count => (count? s).isSome
  | .longCount => (longCount? s).isSome
  | .override => (override? s).isSome

/-! ## Forms -/

structure Switch where
  name : String
  letter : Option Char
  kind : Kind
  /-- Whether it may be given several times. -/
  repeats : Bool

/-- What may stand behind the name of a command. -/
structure Form where
  switches : List Switch
  /-- How many paths are operands. -/
  operands : Nat

/-- Why the words ask for nothing that can be done. -/
inductive Refusal where
  | misuse
  | help
  | version
deriving DecidableEq

/-- What was given so far, the last first. -/
structure Given where
  options : List (String × String)
  operands : List String

namespace Given

def none : Given := ⟨[], []⟩

def has (g : Given) (name : String) : Bool := g.options.any (·.1 = name)

/-- The value of an option. -/
def value? (g : Given) (name : String) : Option String := g.options.lookup name

/-- All values of an option in order. -/
def values (g : Given) (name : String) : List String :=
  (g.options.reverse.filter (·.1 = name)).map Prod.snd

/-- The value of an option that must be given. -/
def required (g : Given) (name : String) : Except Refusal String :=
  match g.value? name with
  | some v => .ok v
  | .none => .error .misuse

/-- Takes an option with its value. -/
def option (g : Given) (s : Switch) (value : String) : Except Refusal Given :=
  if g.has s.name && !s.repeats then .error .misuse
  else .ok { g with options := (s.name, value) :: g.options }

/-- Takes an operand. -/
def operand (f : Form) (g : Given) (word : String) : Except Refusal Given :=
  if g.operands.length < f.operands && Kind.path.takes word then
    .ok { g with operands := word :: g.operands }
  else .error .misuse

end Given

/-! ## Words -/

/-- What a word is. -/
inductive Shape where
  /-- The word behind which all are operands. -/
  | divider
  | long (name : String) (value : Option String)
  | short (letter : Char) (value : Option String)
  | plain

def shape (word : String) : Shape :=
  match word.toList with
  | ['-'] => .plain
  | ['-', '-'] => .divider
  | '-' :: '-' :: cs =>
    match Text.splitOnce '=' cs with
    | some (name, value) => .long (String.ofList name) (some (String.ofList value))
    | none => .long (String.ofList cs) none
  | '-' :: c :: '=' :: cs => .short c (some (String.ofList cs))
  | ['-', c] => .short c none
  | '-' :: c :: cs => .short c (some (String.ofList cs))
  | _ => .plain

def Shape.isPlain : Shape → Bool
  | .plain => true
  | _ => false

/-- The option `s` with its value, and whether that is the next word. -/
def optionOf (s : Option Switch) (value next : Option String) :
    Except Refusal (Switch × String × Bool) :=
  match s, value, next with
  | none, _, _ => .error .misuse
  | some s, some v, _ => if s.kind.takes v then .ok (s, v, false) else .error .misuse
  | some s, none, next =>
    match s.kind, next with
    | .flag, _ => .ok (s, "", false)
    | kind, some v =>
      if (shape v).isPlain && kind.takes v then .ok (s, v, true) else .error .misuse
    | _, none => .error .misuse

/-- The option that a word is, with its value. -/
def Shape.option (f : Form) (next : Option String) : Shape → Except Refusal (Switch × String × Bool)
  | .long "help" none => .error .help
  | .short 'h' _ => .error .help
  | .long name value => optionOf (f.switches.find? (·.name = name)) value next
  | .short letter value => optionOf (f.switches.find? (·.letter = some letter)) value next
  | _ => .error .misuse

/-- Reads the words behind the name of a command. -/
def readWords (f : Form) (g : Given) : List String → Except Refusal Given
  | [] => .ok g
  | word :: rest =>
    match shape word with
    | .divider => rest.foldlM (Given.operand f) g
    | .plain => do readWords f (← g.operand f word) rest
    | other => do
      let (s, value, takesNext) ← other.option f rest.head?
      let g ← g.option s value
      match takesNext, rest with
      | true, _ :: more => readWords f g more
      | _, rest => readWords f g rest

end BenchSweep.CommandLine
