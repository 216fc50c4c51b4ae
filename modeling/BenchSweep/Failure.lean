import BenchSweep.Regex.Fault
import BenchSweep.Stage
import BenchSweep.Text.Quoted

/-! Everything that can go wrong, by cause, and the message for each cause. -/
set_option autoImplicit false

namespace BenchSweep

/-- Why the host refuses an operation on a file or a process. -/
inductive HostFault where
  | notFound
  | permissionDenied
  | alreadyExists
  | notADirectory
  | isADirectory
  | nameTooLong
  | emptyPath
  | nulInPath
  | nulInWord
  | notUtf8
deriving DecidableEq

def HostFault.message : HostFault → String
  | .notFound => "No such file or directory (os error 2)"
  | .permissionDenied => "Permission denied (os error 13)"
  | .alreadyExists => "File exists (os error 17)"
  | .notADirectory => "Not a directory (os error 20)"
  | .isADirectory => "Is a directory (os error 21)"
  | .nameTooLong => "File name too long (os error 36)"
  | .emptyPath => "cannot make an empty path absolute"
  | .nulInPath => "file name contained an unexpected NUL byte"
  | .nulInWord => "nul byte found in provided data"
  | .notUtf8 => "stream did not contain valid UTF-8"

/-- Where a record begins: how many records and bytes stand before it, and its line counted from
one. -/
structure Position where
  record : Nat
  line : Nat
  byte : Nat
deriving DecidableEq

/-- Why a table cannot be read or written. -/
inductive TableFault where
  /-- A record, known by its position when it is read, has not as many fields as the first one. -/
  | unequalLengths (position : Option Position) (expected found : Nat)
  /-- The bytes of a field, counted from zero, are text up to the byte `valid` only. -/
  | notUtf8 (position : Position) (field valid : Nat)
  | host (fault : HostFault)
deriving DecidableEq

def TableFault.message : TableFault → String
  | .unequalLengths none expected found =>
    s!"CSV error: found record with {found} fields, but the previous record has {expected} fields"
  | .unequalLengths (some p) expected found =>
    s!"CSV error: record {p.record} (line: {p.line}, byte: {p.byte}): found record with {found} fields, but the previous record has {expected} fields"
  | .notUtf8 p field valid =>
    s!"CSV parse error: record {p.record} (line {p.line}, field: {field}, byte: {p.byte}): invalid utf-8: invalid UTF-8 in field {field} near byte index {valid}"
  | .host fault => fault.message

/-- The cause of a run, a load or a collection that fails. -/
inductive Failure where
  | host (fault : HostFault)
  | unreadableFile (path : String) (fault : HostFault)
  | unparsableFile (path : String)
  | noExecutable (path : String) (stage : Stage) (target : String)
  | benchmarkNotFound (name : String)
  | targetNotFound (name : String)
  | unsupportedTarget (benchmark target : String)
  | incompatible (benchmark target : String) (violations : Nat)
  | unknownParameter (name : String)
  | noRunCommand (target : String)
  | noFormat (target : String)
  | unstartable (program : String) (fault : HostFault)
  | commandFailed (program : String) (code : Int)
  | unreadableSample (reader line reason : String)
  | invalidPattern (fault : Regex.Fault)
  | invalidOverride (raw : String)
  | table (fault : TableFault)
  | manifest
deriving DecidableEq

def Failure.message : Failure → String
  | .host fault => s!"IO error: {fault.message}"
  | .unreadableFile path fault => s!"Failed to read file {path}: {fault.message}"
  | .unparsableFile path => s!"Failed to parse {path}: TOML parse error"
  | .noExecutable path stage target =>
    s!"Invalid definition {path}: {stage.name} command of target {target} must start with a literal executable"
  | .benchmarkNotFound name => s!"Benchmark not found: {name}"
  | .targetNotFound name => s!"Target not found: {name}"
  | .unsupportedTarget benchmark target =>
    s!"Target {target} is not supported by the benchmark {benchmark}"
  | .incompatible benchmark target violations =>
    s!"Target {target} is not compatible with benchmark {benchmark} ({violations} violation(s))"
  | .unknownParameter name => s!"{name} is not a parameter of the benchmark"
  | .noRunCommand target => s!"No run command provided for target {target}"
  | .noFormat target => s!"No result parser configured for target {target}"
  | .unstartable program fault => s!"Failed to start command {program}: {fault.message}"
  | .commandFailed program code => s!"Command {program} returned with non-zero exit code ({code})"
  | .unreadableSample reader line reason =>
    s!"{reader} parser could not read {Text.quoted line}: {reason}"
  | .invalidPattern fault => s!"Invalid parser pattern: {fault.message}"
  | .invalidOverride raw =>
    s!"Invalid parameter override {Text.quoted raw}, expected key=value"
  | .table fault => s!"CSV error: {fault.message}"
  | .manifest => "Failed to serialize manifest: out-of-range value for u64 type"

end BenchSweep
