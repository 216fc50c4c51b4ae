import BenchSweep.Failure
import BenchSweep.Value

/-! Overrides of parameters and the sweep over all their combinations. An override gives one
parameter one or more values; the points of a sweep are the declared values with every choice of
one value from each override put in, the first override varying slowest. -/
set_option autoImplicit false

namespace BenchSweep

structure Override where
  name : String
  values : List Value
deriving DecidableEq

namespace Override

/-- Reads `name=value,value,…`. The name ends at the first equals sign; the name and the text behind
that sign must not be blank. -/
def ofText (raw : String) : Except Failure Override :=
  match Text.splitOnce '=' raw.toList with
  | none => .error (.invalidOverride raw)
  | some (name, values) =>
    let name := Text.trim name
    if name.isEmpty || (Text.trim values).isEmpty then .error (.invalidOverride raw)
    else .ok ⟨String.ofList name,
      (Text.splitWhere (· == ',') values).map fun v => Value.ofText (String.ofList v)⟩

/-- Each point with each value of the override put in. -/
def spread (o : Override) (points : List Params) : List Params :=
  points.flatMap fun point => o.values.map fun value => point.insert o.name value

end Override

/-- The points of a sweep over `base`. Every override has to name a declared parameter. -/
def sweep (base : Params) (overrides : List Override) : Except Failure (List Params) :=
  overrides.foldlM (fun points o =>
    if base.contains o.name then .ok (o.spread points) else .error (.unknownParameter o.name))
    [base]

end BenchSweep
