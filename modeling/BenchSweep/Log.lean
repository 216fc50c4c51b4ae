/-! What a run tells while it goes on. -/
set_option autoImplicit false

namespace BenchSweep

inductive Level where
  | debug
  | info
  | warning
  | error
deriving DecidableEq

def Level.name : Level → String
  | .debug => "DEBUG"
  | .info => "INFO"
  | .warning => "WARN"
  | .error => "ERROR"

/-- A message. One that passes on a line of a command's output names the command. -/
structure Event where
  level : Level
  message : String
  command : Option String
deriving DecidableEq

end BenchSweep
