import BenchSweep.Shell.Builtin
import BenchSweep.Shell.Redirect
import BenchSweep.Shell.Utilities

/-! Programs started: shells, programs that start others, and the rest. A program is carried out in the
process that it is put into. -/
set_option autoImplicit false

namespace BenchSweep.Shell

namespace Start

/-! ## Shells -/

/-- The variables that a new shell has besides those that it was given. -/
def shellVariables (parent : Nat) : List (String × String) :=
  [("IFS", " \t\n"), ("OPTIND", "1"), ("PPID", String.ofList (Decimal.digits parent)), ("PS1", "# "),
    ("PS2", "> "), ("PS4", "+ ")]

/-- A shell that starts with the variables that programs see. -/
def newShell (name : String) (s : Session) : Session :=
  let given := s.exported.reverse.foldl (fun vs name =>
    match s.values.get? name with
    | some v => if Parser.isName name.toList then vs.insert name v else vs
    | none => vs) OrderedMap.empty
  let values := (shellVariables s.parent).foldl (fun vs (name, v) => vs.insert name v) given
  { s with
    name := name, command := none, arguments := .ofList []
    values := values.insert "PWD" (Path.ofNames s.machine.files.here).text
    exported := (s.exported.filter values.contains).insert "PWD"
    fixed := [], functions := [], aliases := [], options := [], status := 0, substituted := 0
    process := s.self, line := 1, reached := 1, tested := false, loops := 0, calls := 0
    traps := s.traps.filter fun (_, action) => action.isEmpty
    locals := [], jobs := [], lastJob := none, hashed := [] }

/-- The text of a file that a shell carries out; there is none in a directory. -/
def scriptText (file : String) : Act (Except String String) := do
  match (← Act.files).readBytes ⟨file⟩ with
  | .ok bytes => return .ok (String.ofList (Text.Utf8.decodeLossy bytes))
  | .error .isADirectory => return .ok ""
  | .error e =>
    let why := Redirection.reason "No such file" e
    return .error s!"cannot open {file}: {why}"

/-- What the program `sh` does. -/
def shell (run : Script → Act Flow) (name : String) (args : List String) : Act Flow := do
  modify (newShell name)
  let refuse (message : String) : Act Flow := do
    Act.complain s!"{name}: 0: {message}"
    Act.exit 2
  let carryOut (name : String) (arguments : List String) (text : String) : Act Flow := do
    modify fun s => { s with name := name, arguments := .ofList arguments }
    Process.finish run (← Process.runText run text)
  match ← Builtin.takeOptions true (args.length + 1) ⟨args, false, false⟩ with
  | .error message => refuse message
  | .ok t =>
    match t.script, t.rest with
    | true, [] => refuse "-c requires an argument"
    | true, script :: more => carryOut (more.headD name) (more.drop 1) script
    | false, rest =>
      match if (← get).has 's' then none else rest.head? with
      | some file =>
        match ← scriptText file with
        | .ok text => carryOut file (rest.drop 1) text
        | .error message => refuse message
      | none =>
        modify (Session.withOption true 's')
        match ← Act.readInput with
        | .ok bytes => carryOut name rest (String.ofList (Text.Utf8.decodeLossy bytes))
        | .error _ => carryOut name rest ""

/-! ## Programs that start others -/

/-- How programs that start others start them. -/
abbrev Starter := (program called : String) → (args : List String) → Act Flow

/-- A word that names no program, as it is told in a fault. -/
abbrev Refused := String → String

def refusedToRun : Refused := fun word => s!"failed to run command {Quotation.shellQuoted word}"

/-- Starts the program that a word names in this process. -/
def startNamed (start : Starter) (refused : Refused) (word : String) (args : List String) : Act Flow := do
  match findProgram (← Act.files) (← Builtin.places) word with
  | .error e =>
    let why := Utility.reason (if word = "" then .notFound else e)
    Utility.fault s!"{refused word}: {why}"
    Act.exit (if e = .permissionDenied then 126 else 127)
  | .ok (_, program) => start program word args

/-- Ends with the status of a step that may be refused its output. -/
def endWith (program : String) (step : Act Nat) : Act Flow := do
  Act.exit (← Utility.checked program step)

/-- Puts the variables into the environment that the first words name, and starts the program that the
others name; without a program it tells the environment. -/
def inEnvironment (start : Starter) : List String → Act Flow
  | [] => endWith "env" do
    (← Utility.environment).forM Utility.emitLine
    return 0
  | word :: args =>
    if word.toList.contains '=' then do
      let (name, value) := Builtin.pair word
      Act.assign name (value.getD "")
      modify fun s => { s with exported := s.exported.insert name }
      inEnvironment start args
    else startNamed start Quotation.shellQuoted word args

def env (start : Starter) (args : List String) : Act Flow := do
  let known := [Utility.flag 'i' "ignore-environment", Utility.flag '0' "null",
    Utility.valued 'u' "unset", Utility.valued 'C' "chdir", Utility.flag 'v' "debug"]
  match Utility.scanOptions known true (args.length + 1) args with
  | .error message => endWith "env" (Utility.misuse 125 message)
  | .ok (found, rest) =>
    let o : Utility.Options := ⟨found⟩
    let (bare, rest) := match rest with
      | "-" :: more => (true, more)
      | _ => (o.has 'i', rest)
    if bare then modify fun s => { s with exported := [] }
    found.forM fun (c, v) =>
      if c = 'u' then
        modify fun s => { s with exported := s.exported.erase (v.getD "") }
      else pure ()
    match o.value? 'C' with
    | none => inEnvironment start rest
    | some path =>
      match (← Act.files).find ⟨path⟩ with
      | .ok (place, .directory) =>
        Act.setFiles ((← Act.files).within place)
        inEnvironment start rest
      | .ok _ =>
        Utility.fault s!"cannot change directory to {Quotation.shellQuoted path}: Not a directory"
        Act.exit 125
      | .error e =>
        let why := Utility.reason e
        Utility.fault s!"cannot change directory to {Quotation.shellQuoted path}: {why}"
        Act.exit 125

/-- A program that starts another one as it is; `wanted` are its own options, and `idle` is done
without another one. -/
def wrapper (wanted : List Utility.Known) (idle : Act Nat) (refused : Refused) (start : Starter)
    (args : List String) : Act Flow := do
  match Utility.scanOptions wanted true (args.length + 1) args with
  | .error message => endWith "" (Utility.misuse 125 message)
  | .ok (_, []) => endWith "" idle
  | .ok (_, word :: rest) => startNamed start refused word rest

/-- Starts a program and ends it if it takes too long. -/
def timeout (start : Starter) (args : List String) : Act Flow := do
  let known := [Utility.valued 's' "signal", Utility.valued 'k' "kill-after",
    Utility.flag 'P' "preserve-status", Utility.flag 'F' "foreground", Utility.flag 'v' "verbose"]
  match Utility.scanOptions known true (args.length + 1) args with
  | .error message => endWith "" (Utility.misuse 125 message)
  | .ok (found, limit :: word :: rest) =>
    let o : Utility.Options := ⟨found⟩
    let signal := match o.value? 's' with
      | none => some Signal.terminate
      | some text => Signal.ofText? text
    match Utility.duration? limit, signal with
    | none, _ =>
      endWith "" (Utility.misuse 125 s!"invalid time interval {Quotation.quoted limit}")
    | _, none =>
      let shown := Quotation.quoted ((o.value? 's').getD "")
      endWith "" (Utility.misuse 125 s!"{shown}: invalid signal")
    | some limit, some signal =>
      let deadline := (← Act.clock) + limit
      let first := (← get).machine.started + 1
      let (flow, status) ← Act.isolated (startNamed start refusedToRun word rest)
      if limit ≠ 0 && deadline < (← Act.clock) then
        Process.cutShort fun c => decide (first ≤ c.writer) && decide (deadline ≤ c.time)
        Act.setClock deadline
        Act.changeMachine fun m => { m with latest := deadline }
        if o.has 'P' then Act.exit (128 + signal)
        else if signal = Signal.kill then return .killed Signal.kill
        else Act.exit 124
      else
        match flow with
        | .killed signal => Act.exit (128 + signal)
        | _ => Act.exit status
  | .ok _ => endWith "" do
    Utility.advise
    return 125

/-- The words of a text between blanks; quotes and backslashes join. -/
def inputWords : Nat → (open_ : Bool) → List Char → List Char → List String
  | 0, _, _, _ => []
  | _ + 1, started, word, [] => if started then [String.ofList word.reverse] else []
  | n + 1, started, word, c :: cs =>
    if c == ' ' || c == '\t' || c == '\n' then
      if started then String.ofList word.reverse :: inputWords n false [] cs
      else inputWords n false [] cs
    else if c == '"' || c == '\'' then
      let inner := cs.takeWhile (· ≠ c)
      inputWords n true (inner.reverse ++ word) (cs.drop (inner.length + 1))
    else if c == '\\' then
      match cs with
      | d :: rest => inputWords n true (d :: word) rest
      | [] => inputWords n true word []
    else inputWords n true (c :: word) cs

/-- Starts a program with the words of the input as its arguments. -/
def xargs (start : Starter) (args : List String) : Act Flow := do
  let known := [Utility.valued 'n' "max-args", Utility.valued 'I' "replace", Utility.flag '0' "null",
    Utility.flag 'r' "no-run-if-empty", Utility.flag 't' "verbose", Utility.valued 'd' "delimiter",
    Utility.valued 'L' "max-lines", Utility.valued 'P' "max-procs"]
  match Utility.scanOptions known true (args.length + 1) args with
  | .error message => endWith "" (Utility.misuse 1 message)
  | .ok (found, rest) =>
    let o : Utility.Options := ⟨found⟩
    let bytes ← match ← Act.readInput with
      | .ok bytes => pure bytes
      | .error _ => pure []
    let text := Text.Utf8.decodeLossy bytes
    let cutAt (mark : Char) : List String :=
      let pieces := Text.splitWhere (· == mark) text
      ((if pieces.getLast? = some [] then pieces.dropLast else pieces)).map String.ofList
    let trimmed (s : String) : String := String.ofList (s.toList.dropWhile fun c => c == ' ' || c == '\t')
    let words :=
      if o.has '0' then cutAt '\x00'
      else if let some d := o.value? 'd' then cutAt (if d = "\\n" then '\n' else d.toList.headD '\n')
      else if o.has 'I' then ((cutAt '\n').map trimmed).filter (· ≠ "")
      else inputWords (text.length + 1) false [] text
    let command := if rest.isEmpty then ["echo"] else rest
    let size := ((o.value? 'n').bind fun v => Builtin.number? v).getD (max words.length 1)
    let groups : List (List String) :=
      match o.value? 'I' with
      | some mark => words.map fun w => command.map fun c =>
          String.ofList (w.toList.intercalate (Text.pieces mark.toList c.toList))
      | none =>
        if words.isEmpty then (if o.has 'r' then [] else [command])
        else (Utility.chunked (max size 1) (words.length + 1) words).map (command ++ ·)
    let status ← groups.foldlM (fun status group => do
      if o.has 't' then Act.complain (" ".intercalate group)
      let (flow, ended) ← Act.isolated (startNamed start id (group.headD "") (group.drop 1))
      return match flow with
        | .killed _ => max status 125
        | _ => if ended = 0 then status else if ended = 126 || ended = 127 then ended else max status 123) 0
    Act.exit status

/-! ## All programs -/

/-- The programs that start others, besides the shell. -/
def starters : List (String × (Starter → List String → Act Flow)) :=
  [("env", env), ("timeout", timeout), ("xargs", xargs),
    ("nice", wrapper [Utility.valued 'n' "adjustment"] (do Utility.emitLine "0"; return 0)
      Quotation.shellQuoted),
    ("nohup", wrapper [] (Utility.misuse 125 "missing operand") refusedToRun),
    ("setsid", wrapper [Utility.flag 'w' "wait", Utility.flag 'f' "fork", Utility.flag 'c' "ctty"]
      (Utility.misuse 1 "no command specified") fun word => s!"failed to execute {word}"),
    ("stdbuf", wrapper [Utility.valued 'i' "input", Utility.valued 'o' "output",
      Utility.valued 'e' "error"] (Utility.misuse 125 "missing operand") refusedToRun)]

/-- The shell by its names. -/
def shellNames : List String := ["sh", "dash"]

/-- The names of all programs of the host. -/
def programNames : List String :=
  shellNames ++ starters.map Prod.fst ++ Utility.all.map Prod.fst

/-- What a program does in this process, called by the name `called`; the number bounds how many
programs start each other. -/
def perform (run : Script → Act Flow) : Nat → Starter
  | 0, _, _, _ => return .killed Signal.kill
  | n + 1, program, called, args => do
    modify fun s => { s with name := called }
    if shellNames.contains program then shell run called args
    else
      match starters.lookup program, Utility.all.lookup program with
      | some starter, _ => starter (perform run n) args
      | none, some u => endWith program (u args)
      | none, none => Act.exit 0

/-- So many programs start each other at most. -/
def starterLimit : Nat := 100

/-- How long it takes to start a program, in nanoseconds. -/
def startTime : Nat := Nat.pow 10 6

/-- Why a program cannot be started, as a shell tells it, and the status then. -/
def refusal (word : String) (e : HostFault) : String × Nat :=
  if word = "" then (": Permission denied", 127)
  else
    let why := Redirection.reason "not found" e
    (s!"{word}: {why}", if e = .notFound || e = .notADirectory then 127 else 126)

end Start

end BenchSweep.Shell
