import BenchSweep.Shell.Session

/-! Files of the host that stand for something else than bytes on a disk. -/
set_option autoImplicit false

namespace BenchSweep.Shell

/-- What a file stands for. -/
inductive Device where
  | null
  | full
  /-- Zeros without an end. -/
  | zero
  /-- A terminal that is not there. -/
  | terminal
  | descriptor (n : Nat)

/-- The device at a location. -/
def device? (place : Location) : Option Device :=
  match place with
  | ["dev", "null"] => some .null
  | ["dev", "full"] => some .full
  | ["dev", "zero"] => some .zero
  | ["dev", "random"] => some .zero
  | ["dev", "urandom"] => some .zero
  | ["dev", "tty"] => some .terminal
  | ["dev", "stdin"] => some (.descriptor 0)
  | ["dev", "stdout"] => some (.descriptor 1)
  | ["dev", "stderr"] => some (.descriptor 2)
  | ["dev", "fd", "0"] => some (.descriptor 0)
  | ["dev", "fd", "1"] => some (.descriptor 1)
  | ["dev", "fd", "2"] => some (.descriptor 2)
  | _ => none

/-- The channel of a device, if it can be opened. -/
def Device.channel? : Device → Act (Option Channel)
  | .null => return some .null
  | .full => return some .full
  | .zero => return some .null
  | .terminal => return none
  | .descriptor n => Act.channel? n

end BenchSweep.Shell
