import BenchSweep.Shell.Process

/-! What the commands of the shell have in common: their options and the numbers among their
arguments. A fault ends the script if the command is special, and else the command alone. -/
set_option autoImplicit false

namespace BenchSweep.Shell

/-- What a command of the shell does with its arguments. -/
abbrev Builtin := List String → Act Flow

namespace Builtin

/-- The options before the other arguments, each with its value, which is empty if it has none.
`wanted` tells the letters that there are, and whether a value belongs to them. -/
def letters (wanted : List (Char × Bool)) : List Char → List String →
    Except String (List (Char × String) × List String)
  | [], rest => .ok ([], rest)
  | c :: cs, rest =>
    match wanted.lookup c with
    | none => .error s!"Illegal option -{c}"
    | some false => do
      let (more, after) ← letters wanted cs rest
      return ((c, "") :: more, after)
    | some true =>
      match cs, rest with
      | [], [] => .error s!"No arg for -{c} option"
      | [], value :: after => .ok ([(c, value)], after)
      | value, after => .ok ([(c, String.ofList value)], after)

/-- The options of a command and its other arguments. -/
def options (wanted : List (Char × Bool)) : Nat → List String →
    Except String (List (Char × String) × List String)
  | 0, args => .ok ([], args)
  | _ + 1, [] => .ok ([], [])
  | n + 1, arg :: args =>
    if arg = "--" then .ok ([], args)
    else
      match arg.toList with
      | '-' :: c :: cs => do
        let (first, rest) ← letters wanted (c :: cs) args
        let (more, rest) ← options wanted n rest
        return (first ++ more, rest)
      | _ => .ok ([], arg :: args)

/-- Goes on with the options and the other arguments, if the options are known. `flags` are those
without values. -/
def withOptions (flags : List Char) (args : List String)
    (f : List Char → List String → Act Flow) : Act Flow := do
  match options (flags.map (·, false)) (args.length + 1) args with
  | .error message => Act.abandon message
  | .ok (found, rest) => f (found.map Prod.fst) rest

/-- The whole number that an argument is; spaces may stand around it. -/
def integer? (s : String) : Option Int :=
  let (sign, ds) : Int × List Char := match s.toList.dropWhile Arithmetic.isSpace with
    | '-' :: cs => (-1, cs)
    | '+' :: cs => (1, cs)
    | cs => (1, cs)
  let run := ds.takeWhile Char.isDigit
  let n := sign * Arithmetic.ofDigits 10 run
  if run.isEmpty || !(ds.drop run.length).all Arithmetic.isSpace || n ≠ Arithmetic.clamp n then none
  else some n

/-- The number that an argument is, if it is neither negative nor too great. -/
def number? (s : String) : Option Nat :=
  match integer? s with
  | some n => if n < 0 || Nat.pow 2 31 ≤ n then none else some n.toNat
  | none => none

/-- Goes on with the number that an argument is. -/
def withNumber (s : String) (f : Nat → Act Flow) : Act Flow :=
  match number? s with
  | some n => f n
  | none => Act.abandon s!"Illegal number: {s}"

/-- Goes on with the number in the first argument, if there is one. -/
def withCount (default : Nat) (args : List String) (f : Nat → Act Flow) : Act Flow :=
  match args with
  | [] => f default
  | s :: _ => withNumber s f

/-- Carries out a step for each argument as long as none ends the command. -/
def each {α : Type} (step : α → Act Flow) : List α → Act Flow
  | [] => return .next
  | a :: as => do
    match ← step a with
    | .next => each step as
    | flow => return flow

/-- Quotes a text so that the shell reads it as one word. -/
def quoted (s : String) : String :=
  String.join ("'" :: pieces (s.length + 1) s.toList)
where
  pieces : Nat → List Char → List String
    | 0, _ => []
    | n + 1, cs =>
      let plain := cs.takeWhile (· ≠ '\'')
      let marks := (cs.drop plain.length).takeWhile (· == '\'')
      if marks.isEmpty then [String.ofList plain ++ "'"]
      else
        let rest := cs.drop (plain.length + marks.length)
        (String.ofList plain ++ "'\"" ++ String.ofList marks ++ "\"") ::
          (if rest.isEmpty then [] else "'" :: pieces n rest)

end Builtin

end BenchSweep.Shell
