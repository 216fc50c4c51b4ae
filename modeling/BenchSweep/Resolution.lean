import BenchSweep.Definition
import BenchSweep.Failure
import BenchSweep.Text.Pieces

/-! Command lines filled in. A fragment takes the text of a value in place of each placeholder, a
group becomes the fragments of its parameters in order, and a command line takes its groups and
settings in place. Values are never split, so they cannot change the number of words. -/
set_option autoImplicit false

namespace BenchSweep

/-- The mark inside a fragment that stands for the value of its parameter. -/
def placeholder : List Char := "<value>".toList

/-- The fragment with `value` in place of every placeholder. -/
def substitute (fragment value : String) : String :=
  String.ofList (value.toList.intercalate (Text.pieces placeholder fragment.toList))

/-- A command line ready to run. -/
structure Invocation where
  program : String
  args : List String
deriving DecidableEq

/-- The words with spaces between them. -/
def Invocation.text (i : Invocation) : String := " ".intercalate (i.program :: i.args)

/-- The settings of one run. -/
structure RunSettings where
  iterations : UInt32
  threads : UInt64
deriving DecidableEq

def RunSettings.text (s : RunSettings) : Setting → String
  | .iterations => String.ofList (Decimal.digits s.iterations.toNat)
  | .threads => String.ofList (Decimal.digits s.threads.toNat)

/-- What the command lines of one run are filled in with. -/
structure Resolver where
  params : Params
  settings : RunSettings

namespace Resolver

/-- The words of one parameter of a group. -/
def words (r : Resolver) : String × List String → Except Failure (List String)
  | (name, fragments) =>
    match r.params.get? name with
    | some value => .ok (fragments.map (substitute · value.toText))
    | none => .error (.unknownParameter name)

/-- The words of a group; an absent group has none. -/
def arguments (r : Resolver) (group : Option ArgumentGroup) : Except Failure (List String) :=
  match group with
  | none => .ok []
  | some g => (g.entries.mapM r.words).map List.flatten

/-- The words that a token becomes. -/
def expand (r : Resolver) (b : Binding) : Token → Except Failure (List String)
  | .literal text => .ok [text]
  | .group slot => r.arguments (b.group slot)
  | .setting s => .ok [r.settings.text s]

/-- The command line with all its tokens filled in. A command line without any word has an empty
program. -/
def build (r : Resolver) (b : Binding) (c : Command) : Except Failure Invocation :=
  (c.mapM (r.expand b)).map fun words =>
    match words.flatten with
    | [] => ⟨"", []⟩
    | program :: args => ⟨program, args⟩

end Resolver

end BenchSweep
