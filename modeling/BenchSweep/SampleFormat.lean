import BenchSweep.Binary64
import BenchSweep.Text.Quoted

/-! Names for the ways in which run output shows its timing samples. -/
set_option autoImplicit false

namespace BenchSweep

/-- An output format known by name. -/
inductive KnownFormat where
  | akka
  | caf
  | lfCpp
  | lfC
deriving DecidableEq

namespace KnownFormat

def name : KnownFormat → String
  | .akka => "akka"
  | .caf => "caf"
  | .lfCpp => "lf-cpp"
  | .lfC => "lf-c"

def all : List KnownFormat := [.akka, .caf, .lfCpp, .lfC]

def ofName? (name : String) : Option KnownFormat := all.find? (·.name = name)

end KnownFormat

/-- An output format as a definition gives it: by name, or by a pattern whose matches are samples in
a unit of `scale` milliseconds. -/
inductive SampleFormat where
  | known (format : KnownFormat)
  | pattern (pattern : String) (scale : Binary64)
deriving DecidableEq

/-- The format in messages. -/
def SampleFormat.label : SampleFormat → String
  | .known f => f.name
  | .pattern p _ => s!"pattern {Text.quoted p}"

end BenchSweep
