/-! What happens when a command ends with a code other than zero, or cannot be run at all because its
configuration is faulty. -/
set_option autoImplicit false

namespace BenchSweep

inductive Policy where
  | abort
  | goOn
deriving DecidableEq

namespace Policy

def name : Policy → String
  | .abort => "abort"
  | .goOn => "continue"

def ofFlag (continueOnError : Bool) : Policy := if continueOnError then .goOn else .abort

/-- Whether the policy is to continue. -/
def flag (p : Policy) : Bool := p = .goOn

end Policy

end BenchSweep
