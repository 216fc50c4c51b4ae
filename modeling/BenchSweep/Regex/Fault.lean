/-! Why a text is no pattern to search with. -/
set_option autoImplicit false

namespace BenchSweep.Regex

inductive Fault where
  | malformed
  /-- The pattern would take more than so many bytes when it is compiled. -/
  | tooLarge (limit : Nat)
deriving DecidableEq

def Fault.message : Fault → String
  | .malformed => "regex parse error:"
  | .tooLarge limit => s!"Compiled regex exceeds size limit of {limit} bytes."

end BenchSweep.Regex
