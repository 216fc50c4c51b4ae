import BenchSweep.Definition

/-! Whether a benchmark can run on a target. The report names every parameter that a group refers to
but the benchmark does not declare, then every declared parameter that no group refers to; the
latter are warnings. -/
set_option autoImplicit false

namespace BenchSweep

inductive Severity where
  | error
  | warning
deriving DecidableEq

def Severity.name : Severity → String
  | .error => "error"
  | .warning => "warning"

inductive Diagnostic where
  | unsupportedTarget (benchmark target : String)
  | undeclaredParameter (parameter : String) (slot : Slot)
  | unusedParameter (parameter : String)
deriving DecidableEq

namespace Diagnostic

def severity : Diagnostic → Severity
  | .unusedParameter _ => .warning
  | _ => .error

def message : Diagnostic → String
  | .unsupportedTarget benchmark target =>
    s!"target {target} is not supported by the benchmark {benchmark}"
  | .undeclaredParameter parameter slot =>
    s!"{parameter} is not a parameter of the benchmark (referenced in {slot.groupName})"
  | .unusedParameter parameter =>
    s!"the benchmark parameter {parameter} is not used in any command"

end Diagnostic

structure Report where
  diagnostics : List Diagnostic
deriving DecidableEq

namespace Report

def errorCount (r : Report) : Nat := r.diagnostics.countP (·.severity = .error)

/-- Warnings do not keep a report from passing. -/
def passed (r : Report) : Bool := r.errorCount == 0

end Report

namespace Binding

/-- The parameters that the group in `slot` refers to. -/
def references (b : Binding) (slot : Slot) : List String := ((b.group slot).map (·.keys)).getD []

/-- The references to parameters that are not declared. -/
def undeclared (b : Binding) (declared : List String) : List Diagnostic :=
  Slot.all.flatMap fun slot =>
    ((b.references slot).filter (· ∉ declared)).map (.undeclaredParameter · slot)

/-- The declared parameters that no group refers to. -/
def unused (b : Binding) (declared : List String) : List Diagnostic :=
  (declared.filter (· ∉ Slot.all.flatMap b.references)).map .unusedParameter

end Binding

/-- The report on running the benchmark on the target of this name. -/
def Benchmark.check (b : Benchmark) (target : String) : Report :=
  match b.binding? target with
  | none => ⟨[.unsupportedTarget b.name target]⟩
  | some binding => ⟨binding.undeclared b.params.keys ++ binding.unused b.params.keys⟩

end BenchSweep
