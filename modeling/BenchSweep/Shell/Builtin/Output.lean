import BenchSweep.Shell.Builtin.Basic
import BenchSweep.Shell.Format

/-! The commands of the shell that print their arguments. -/
set_option autoImplicit false

namespace BenchSweep.Shell.Builtin

/-- The escapes in what is printed. -/
def printedEscapes : Format.Escapes := ⟨true, true, false, false⟩

def echo : Builtin := fun args => do
  let (feed, words) := match args with
    | "-n" :: rest => (false, rest)
    | _ => (true, args)
  let (bytes, ending) := Format.unescaped printedEscapes (" ".intercalate words)
  Act.emit (bytes ++ if feed && ending = .whole then [0x0A] else [])
  Act.done 0

/-- Formats as the shell prints them. -/
def dialect : Format.Dialect where
  precision := Quantity.double
  escapes := ⟨false, false, false, false⟩
  textEscapes := printedEscapes
  flags := ['#', '-', '+', ' ', '0']
  lengths := []
  quote := none
  strict := false
  notANumber s := s!"{s}: expected numeric value"
  unfinished s := s!"{s}: not completely converted"
  outOfRange s := s!"{s}: Numerical result out of range"
  ignored _ := none
  invalid s := s!"{s}: invalid directive"
  endless _ := "missing format character"

/-- Faults are told before anything is printed. -/
def printf : Builtin := fun args =>
  withOptions [] args fun _ args => do
    match args with
    | [] => Act.abandon "usage: printf format [arg ...]"
    | format :: values =>
      let (ending, events, after) := Format.print dialect format values
      let faults := events.filterMap fun
        | .fault message => some message
        | .bytes _ => none
      faults.forM fun message => (Act.complainHere message : Act Unit)
      let flow ← match ending with
        | .fault message => Act.abandon message
        | _ => Act.done (if after.failed then 1 else 0)
      Act.emit (events.flatMap fun
        | .fault _ => []
        | .bytes bs => bs)
      return flow

end BenchSweep.Shell.Builtin
