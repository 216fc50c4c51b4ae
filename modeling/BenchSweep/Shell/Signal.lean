/-! Signals by number and name. -/
set_option autoImplicit false

namespace BenchSweep.Shell.Signal

/-- The names of the signals with numbers of their own, from number one. -/
def usualNames : List String :=
  ["HUP", "INT", "QUIT", "ILL", "TRAP", "ABRT", "BUS", "FPE", "KILL", "USR1", "SEGV", "USR2", "PIPE",
    "ALRM", "TERM", "16", "CHLD", "CONT", "STOP", "TSTP", "TTIN", "TTOU", "URG", "XCPU", "XFSZ",
    "VTALRM", "PROF", "WINCH", "IO", "PWR", "SYS", "32", "33"]

/-- A name and the numbers up to `n` that are added to it. -/
def numbered (name sign : String) (n : Nat) : List String :=
  (List.range n).map fun i => s!"{name}{sign}{i + 1}"

/-- The names of all signals, from number one. -/
def names : List String :=
  usualNames ++ "RTMIN" :: numbered "RTMIN" "+" 15 ++ (numbered "RTMAX" "-" 14).reverse ++ ["RTMAX"]

/-- Numbers from this one on are none. -/
def limit : Nat := 65

def floatingPoint : Nat := 8

def kill : Nat := 9

def pipe : Nat := 13

def terminate : Nat := 15

def child : Nat := 17

/-- Whether a signal does nothing to a process that does not ask for it. -/
def harmless (n : Nat) : Bool := [17, 18, 23, 28].contains n

/-- Whether a process cannot ask for it. -/
def inescapable (n : Nat) : Bool := n = 9 || n = 19

/-- What a shell tells of a program that the signal ended. -/
def text (n : Nat) : Option String :=
  match n with
  | 1 => some "Hangup"
  | 3 => some "Quit"
  | 4 => some "Illegal instruction"
  | 5 => some "Trace/breakpoint trap"
  | 6 => some "Aborted"
  | 7 => some "Bus error"
  | 8 => some "Floating point exception"
  | 9 => some "Killed"
  | 10 => some "User defined signal 1"
  | 11 => some "Segmentation fault"
  | 12 => some "User defined signal 2"
  | 14 => some "Alarm clock"
  | 15 => some "Terminated"
  | 16 => some "Stack fault"
  | 24 => some "CPU time limit exceeded"
  | 25 => some "File size limit exceeded"
  | 26 => some "Virtual timer expired"
  | 27 => some "Profiling timer expired"
  | 29 => some "I/O possible"
  | 30 => some "Power failure"
  | 31 => some "Bad system call"
  | 2 => none
  | 13 => none
  | _ => if n < 34 then none else some s!"Real-time signal {n - 34}"

/-- The name of a signal; zero stands for the end of a script. -/
def name (n : Nat) : String :=
  match n with
  | 0 => "EXIT"
  | k + 1 => names.getD k ""

/-- The signal that a word names by its name. -/
def named? (s : String) : Option Nat :=
  (names.idxOf? (String.ofList (s.toList.map Char.toUpper))).map (· + 1)

/-- The number that a word is. -/
def number? (s : String) : Option Nat :=
  if !s.isEmpty && s.toList.all Char.isDigit then
    some (s.toList.foldl (fun n c => n * 10 + (c.toNat - 48)) 0)
  else none

/-- The signal that a word names by its number or its name. -/
def ofText? (s : String) : Option Nat :=
  match number? s with
  | some n => if n < limit then some n else none
  | none => named? s

end BenchSweep.Shell.Signal
