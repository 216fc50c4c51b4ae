import BenchSweep.Shell.Builtin.Input
import BenchSweep.Shell.Builtin.Jobs
import BenchSweep.Shell.Builtin.Names
import BenchSweep.Shell.Builtin.Output
import BenchSweep.Shell.Builtin.Place
import BenchSweep.Shell.Condition

/-! The commands that the shell carries out itself, by name, but for those that carry out others. -/
set_option autoImplicit false

namespace BenchSweep.Shell.Builtin

/-- Leaves so many loops, at most those that there are. -/
def leave (flow : Nat → Flow) : Builtin := fun args =>
  withCount 1 args fun n => do
    if n = 0 then Act.abandon ("Illegal number: " ++ args.headD "")
    else
      let loops := (← get).loops
      Act.setStatus 0
      return if loops = 0 then .next else flow (min n loops)

def return_ : Builtin := fun args => do
  withCount (← get).status args fun n => do
    Act.setStatus n
    return .back

def exit : Builtin := fun args => do
  withCount (← get).status args fun n => Act.exit (n % 256)

/-- A condition as a command. -/
def condition (holds : Files → List String → Except String Bool) : Builtin := fun args => do
  match holds (← Act.files) args with
  | .ok value => Act.done (if value then 0 else 1)
  | .error message => Act.abandon message

/-- The commands that need nothing but the session. -/
def plain (name : String) : Option Builtin :=
  match name with
  | ":" => some fun _ => Act.done 0
  | "true" => some fun _ => Act.done 0
  | "false" => some fun _ => Act.done 1
  | "break" => some (leave .leave)
  | "continue" => some (leave .again)
  | "return" => some return_
  | "exit" => some exit
  | "shift" => some shift
  | "set" => some set_
  | "export" => some export_
  | "readonly" => some readonly
  | "local" => some local_
  | "unset" => some unset
  | "getopts" => some getopts
  | "read" => some read
  | "cd" => some cd
  | "chdir" => some cd
  | "pwd" => some pwd
  | "umask" => some umask
  | "ulimit" => some ulimit
  | "trap" => some trap
  | "kill" => some kill
  | "wait" => some wait
  | "jobs" => some jobs
  | "fg" => some resume
  | "bg" => some resume
  | "times" => some times
  | "alias" => some alias_
  | "unalias" => some unalias
  | "hash" => some hash
  | "type" => some type_
  | "command" => some command
  | "echo" => some echo
  | "printf" => some printf
  | "test" => some (condition fun fs args => Condition.holds fs false args)
  | "[" => some (condition Condition.bracketed)
  | _ => none

end BenchSweep.Shell.Builtin
