import BenchSweep.Failure
import BenchSweep.Regex.Search
import BenchSweep.SampleFormat
import BenchSweep.Decimal.Reading

/-! Timing samples in the output of a run. Every format reads each line on its own, so the samples
come in the order of the lines, and the first line that cannot be read decides the failure. -/
set_option autoImplicit false

namespace BenchSweep

/-- Reads the samples of one line, or says why the line cannot be read. -/
abbrev LineReader := List Char → Except String (List Binary64)

/-! ## Known formats -/

/-- A sample that is a field of its own. -/
def fieldSample (field : List Char) : Except String (List Binary64) :=
  match Decimal.readFloat field with
  | .ok x => .ok [x]
  | .error e => .error e.message

/-- Four fields of which the third is the time and the fourth is `ms`, and the marker somewhere. -/
def readMarked (marker : String) : LineReader := fun line =>
  match Text.fields line with
  | [_, _, time, unit] =>
    if unit = "ms".toList && Text.occurs marker.toList line then fieldSample time else .ok []
  | _ => .ok []

/-- Five fields `Iteration`, its number, `-`, the time and `ms`. -/
def readDashed : LineReader := fun line =>
  match Text.fields line with
  | [_, _, dash, time, unit] =>
    if dash = ['-'] && unit = "ms".toList && Text.occurs "Iteration ".toList line then
      fieldSample time
    else .ok []
  | _ => .ok []

/-- The text before the number of nanoseconds. -/
def elapsedPrefix : List Char := "---- Elapsed physical time (in nsec): ".toList

/-- A number of nanoseconds with commas anywhere between its digits. -/
def readElapsed : LineReader := fun line =>
  match Text.stripPrefix? elapsedPrefix line with
  | none => .ok []
  | some rest =>
    match Decimal.readInt64 ((Text.trim rest).filter (· ≠ ',')) with
    | .ok n => .ok [Binary64.ofInt n / Binary64.ofInt 1000000]
    | .error e => .error e.message

def KnownFormat.reader : KnownFormat → LineReader
  | .akka => readMarked "Iteration-"
  | .caf => readMarked "iteration-"
  | .lfCpp => readDashed
  | .lfC => readElapsed

/-! ## Patterns -/

/-- The parts of a line that a pattern gives as samples. -/
abbrev Matcher := List Char → List (List Char)

/-- Each match of the program gives its sample part; a match without one gives none. -/
def Regex.Program.matcher (p : Regex.Program) : Matcher := fun line =>
  (p.allMatches line).filterMap fun m => (p.samplePart m).map (·.of line)

/-- The samples of the parts that a pattern gives, each times the scale. -/
def readParts (parts : Matcher) (scale : Binary64) : LineReader := fun line =>
  (parts line).mapM fun part =>
    match Decimal.readFloat (Text.trim part) with
    | .ok x => .ok (x * scale)
    | .error e => .error e.message

/-! ## Formats -/

/-- A format that is ready to read lines, and its name in messages. -/
structure Sampler where
  label : String
  read : LineReader

/-- A pattern may turn out not to be one. -/
def SampleFormat.sampler (f : SampleFormat) : Except Failure Sampler :=
  match f with
  | .known k => .ok ⟨f.label, k.reader⟩
  | .pattern p scale =>
    match Regex.compile p with
    | .ok program => .ok ⟨f.label, readParts program.matcher scale⟩
    | .error fault => .error (.invalidPattern fault)

/-- The samples of one line, or the failure that names it. -/
def Sampler.line (s : Sampler) (line : String) : Except Failure (List Binary64) :=
  match s.read line.toList with
  | .ok xs => .ok xs
  | .error reason => .error (.unreadableSample s.label line reason)

/-- The samples of all lines in order. -/
def Sampler.samples (s : Sampler) (lines : List String) : Except Failure (List Binary64) :=
  (lines.mapM s.line).map List.flatten

end BenchSweep
