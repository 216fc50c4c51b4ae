import BenchSweep.Definition
import BenchSweep.Toml.Document

/-! Definitions read from TOML data. A record is a table, whose unknown keys are ignored, or an array
of its fields in order; a missing optional field takes its default. A date is no value of a
parameter; where a record is wanted, it is one without known keys. -/
set_option autoImplicit false

namespace BenchSweep.Toml

/-! ## Simple values -/

def Value.text? : Value → Option String
  | .text s => some s
  | _ => none

def Value.bool? : Value → Option Bool
  | .bool b => some b
  | _ => none

/-- A whole number below `limit`. -/
def Value.nat? (limit : Nat) : Value → Option Nat
  | .integer n => if 0 ≤ n.toInt ∧ n.toInt < limit then some n.toInt.toNat else none
  | _ => none

/-- A float, or an integer as the float nearest to it. -/
def Value.float? : Value → Option Binary64
  | .float x => some x
  | .integer n => some (Binary64.ofInt n.toInt)
  | _ => none

/-- The value of a parameter. -/
def Value.param? : Value → Option BenchSweep.Value
  | .text s => some (.text s)
  | .integer n => some (.integer n)
  | .float x => some (.float x)
  | .bool b => some (.bool b)
  | _ => none

/-! ## Tables and records -/

/-- The one key of a date where a table is wanted. -/
def momentKey : String := "$__toml_private_datetime"

/-- The entries of a table. -/
def Value.entries? : Value → Option (List (String × Value))
  | .table es => some es
  | .moment s => some [(momentKey, .text s)]
  | _ => none

/-- A table whose values are all read by `f`. -/
def Value.map? {α : Type} (f : Value → Option α) (v : Value) : Option (OrderedMap String α) := do
  let es ← (← v.entries?).mapM fun (key, v) => (f v).map (key, ·)
  return OrderedMap.ofList es

/-- The fields of a record: `names` gives their keys and their order. -/
def Value.record? (names : List String) : Value → Option (List (String × Value))
  | .array vs => some (names.zip vs)
  | v => v.entries?

/-- An optional field, read by `f` if it is there. -/
def optional {α : Type} (fields : List (String × Value)) (name : String)
    (f : Value → Option α) : Option (Option α) :=
  match fields.lookup name with
  | none => some none
  | some v => (f v).map some

/-- A field with a default. -/
def withDefault {α : Type} (fields : List (String × Value)) (name : String)
    (f : Value → Option α) (default : α) : Option α :=
  (optional fields name f).map (·.getD default)

/-- A field that must be there. -/
def required {α : Type} (fields : List (String × Value)) (name : String)
    (f : Value → Option α) : Option α :=
  (fields.lookup name).bind f

/-! ## Definitions -/

def params? (v : Value) : Option Params := v.map? Value.param?

/-- A name of a format, or a table with a pattern and perhaps a scale. -/
def format? : Value → Option SampleFormat
  | .text s => (KnownFormat.ofName? s).map .known
  | .table es => do
    let pattern ← required es "pattern" Value.text?
    let scale ← withDefault es "scale" Value.float? (Binary64.ofInt 1)
    return .pattern pattern scale
  | _ => none

def slot? (v : Value) : Option Slot :=
  v.text?.bind fun s => Slot.all.find? (·.name = s)

def setting? (v : Value) : Option Setting :=
  v.text?.bind fun s => [Setting.iterations, Setting.threads].find? (·.name = s)

/-- A value as a literal, else the group, else the setting that a table names. -/
def token? (v : Value) : Option Token :=
  match v.param? with
  | some p => some (.literal p.toText)
  | none =>
    match v with
    | .table es =>
      ((required es "args" slot?).map .group) <|> ((required es "setting" setting?).map .setting)
    | _ => none

def command? : Value → Option Command
  | .array vs => vs.mapM token?
  | _ => none

def fragments? : Value → Option (List String)
  | .array vs => vs.mapM Value.text?
  | _ => none

def group? (v : Value) : Option ArgumentGroup := v.map? fragments?

def binding? (v : Value) : Option Binding := do
  let fields ← v.record? ["gen_args", "compile_args", "run_args", "parser"]
  return {
    gen := ← optional fields "gen_args" group?
    compile := ← optional fields "compile_args" group?
    run := ← optional fields "run_args" group?
    format := ← optional fields "parser" format? }

def benchmark? (es : List (String × Value)) : Option Benchmark := do
  return {
    name := ← required es "name" Value.text?
    params := ← withDefault es "params" params? OrderedMap.empty
    targets := ← withDefault es "targets" (Value.map? binding?) OrderedMap.empty }

def target? (es : List (String × Value)) : Option Target := do
  return {
    name := ← required es "name" Value.text?
    params := ← withDefault es "params" params? OrderedMap.empty
    format := ← optional es "parser" format?
    prepare := ← optional es "prepare" command?
    copy := ← optional es "copy" command?
    gen := ← optional es "gen" command?
    compile := ← optional es "compile" command?
    run := ← optional es "run" command? }

end BenchSweep.Toml

namespace BenchSweep

/-- The benchmark that a text defines. -/
def Benchmark.ofToml? (text : String) : Option Benchmark :=
  (Toml.parse? text).bind Toml.benchmark?

/-- The target that a text defines. -/
def Target.ofToml? (text : String) : Option Target := (Toml.parse? text).bind Toml.target?

/-- The binding that the top level of a text describes. -/
def Binding.ofToml? (text : String) : Option Binding :=
  (Toml.parse? text).bind fun es => Toml.binding? (.table es)

/-- The values at the top level of a text. -/
def Params.ofToml? (text : String) : Option Params :=
  (Toml.parse? text).bind fun es => Toml.params? (.table es)

/-- The format that the key `parser` of a text names. -/
def SampleFormat.ofToml? (text : String) : Option SampleFormat :=
  (Toml.parse? text).bind fun es => Toml.required es "parser" Toml.format?

end BenchSweep
