import BenchSweep.Shell.Start

/-! Scripts carried out. Every step takes `run`, by which it carries out the scripts nested in it;
`runScript` closes the circle with a bound on how deep they are nested. -/
set_option autoImplicit false

namespace BenchSweep.Shell

namespace Interpreter

/-! ## Small steps -/

/-- A command as a script of its own. -/
def alone (c : Command) : Script := [.mk (.mk false [c]) [] false]

/-- An expansion followed by what ends a command. -/
def expanding (e : Expand Flow) : Act Flow := do
  match ← ExceptT.run e with
  | .ok flow => return flow
  | .error flow => return flow

/-- Makes descriptors lead where they led before. -/
def reconnect (before : List (Nat × Channel)) (descriptors : List Nat) : Act Unit :=
  descriptors.forM fun n =>
    match before.lookup n with
    | some c => Act.setChannel n c
    | none => Act.close n

/-- A step behind which these descriptors lead where they led before. -/
def keeping {α : Type} (descriptors : List Nat) (step : Act α) : Act α := do
  let outer := (← get).descriptors
  let a ← step
  reconnect outer descriptors
  return a

/-- A step whose failure is looked at and does not stop the script. -/
def testing {α : Type} (step : Act α) : Act α := do
  let outer := (← get).tested
  modify fun s => { s with tested := true }
  let a ← step
  modify fun s => { s with tested := outer }
  return a

/-- Ends the script after a failure, if it is to end then. -/
def checked (flow : Flow) : Act Flow := do
  let s ← get
  match flow with
  | .exit => return flow
  | .killed _ => return flow
  | .fault => return flow
  | _ => return if s.status ≠ 0 && s.has 'e' && !s.tested then .exit else flow

/-- Carries out a step as a process of its own, of which the shell only sees how it ends. -/
def child (run : Script → Act Flow) (step : Act Flow) : Act Flow := do
  Act.done (← Process.reap (← Process.branch run step))

/-! ## Programs -/

/-- Starts a program and waits for its end. -/
def startProgram (run : Script → Act Flow) (word : String) (args : List String) : Act Flow := do
  match findProgram (← Act.files) (← Builtin.places) word with
  | .error e =>
    let (message, status) := Start.refusal word e
    Act.complainHere message
    Act.done status
  | .ok (_, program) =>
    if !word.toList.contains '/' then Builtin.remember word
    Act.spend Start.startTime
    Act.done (← Process.reap (← Act.isolated (Start.perform run Start.starterLimit program word args)))

/-- Puts a program in the place of the shell. -/
def replace (run : Script → Act Flow) : Builtin := fun args =>
  Builtin.withOptions [] args fun _ args => do
    match args with
    | [] => Act.done 0
    | word :: args =>
      match findProgram (← Act.files) (← Builtin.places) word with
      | .error e =>
        let (message, status) := Start.refusal word e
        Act.complainHere message
        Act.exit status
      | .ok (_, program) =>
        modify fun s => { s with traps := s.traps.filter fun (_, action) => action.isEmpty }
        Act.spend Start.startTime
        match ← Start.perform run Start.starterLimit program word args with
        | .killed signal => return .killed signal
        | _ => return .exit

/-! ## Functions -/

/-- Functions call each other at most this deep. -/
def callLimit : Nat := 1000

/-- Carries out a function with its own parameters. -/
def call (run : Script → Act Flow) (body : Command) (args : List String) : Act Flow := do
  let outer ← get
  if outer.calls = callLimit then
    return ← Act.abandon s!"Maximum function recursion depth ({callLimit}) reached"
  set { outer with
    arguments := .ofList args, locals := [], loops := 0, calls := outer.calls + 1 }
  let flow ← run (alone body)
  let own := (← get).locals
  own.forM Act.restore
  modify fun s => { s with
    arguments := outer.arguments, locals := outer.locals, loops := outer.loops, calls := outer.calls }
  match flow with
  | .exit => return flow
  | .killed _ => return flow
  | .fault => return flow
  | _ =>
    match own.find? fun v => v.name ≠ "-" && !Parser.isName v.name.toList with
    | none => return .next
    | some v => Act.named none (Act.abandon s!"{v.name}: bad variable name")

/-! ## Commands that carry out texts -/

/-- A file carried out in the shell itself. -/
def include_ (run : Script → Act Flow) : Builtin := fun args =>
  Builtin.withOptions [] args fun _ args => do
    match args with
    | [] => Act.done 0
    | file :: _ =>
      let fs ← Act.files
      let path ← if file.toList.contains '/' then pure (some file)
        else do
          let directories := (Text.splitWhere (· == ':') (← Builtin.places).toList).map String.ofList
          let paths := directories.map fun d => (Path.join ⟨d⟩ ⟨file⟩).text
          pure (paths.find? fun p => fs.isFile ⟨p⟩)
      match path with
      | none => Act.abandon s!"{file}: not found"
      | some path =>
        match ← Start.scriptText path with
        | .error message => Act.abandon message
        | .ok text =>
          let outer := (← get).tested
          modify fun s => { s with tested := false }
          let flow ← Act.named (some path) (Process.runText run text)
          modify fun s => { s with tested := outer }
          match flow with
          | .back => return .next
          | _ => return flow

/-- The command of the shell of this name. -/
def builtin (run : Script → Act Flow) (name : String) : Option Builtin :=
  match name with
  | "eval" => some fun args => Builtin.withOptions [] args fun _ args =>
      Process.runText run (" ".intercalate args)
  | "." => some (include_ run)
  | "exec" => some (replace run)
  | _ => Builtin.plain name

/-- Carries out a command of the shell. A fault ends the script only if the command is special. -/
def runBuiltin (name : String) (special : Bool) (step : Act Flow) : Act Flow := do
  modify fun s => { s with refused := none }
  let flow ← Act.named (some name) do
    let flow ← step
    if (← get).refused.isSome && flow matches .next then
      Act.complainHere s!"{name}: I/O error"
      Act.setStatus ((← get).status ||| 1)
    return flow
  match flow with
  | .fault => return if special then .fault else .next
  | _ => return flow

/-! ## Simple commands -/

/-- What the words of a command come to. -/
structure Called where
  words : List String
  /-- Whether functions are passed over. -/
  noFunctions : Bool
  /-- Whether a fault of the command ends the script. -/
  special : Bool

/-- The words behind the options of `command`, if it is told to carry them out. -/
def behindCommand : List String → Option (List String)
  | [] => none
  | word :: rest =>
    match word.toList with
    | ['-', '-'] => if rest.isEmpty then none else some rest
    | '-' :: c :: cs => if (c :: cs).all (· == 'p') then behindCommand rest else none
    | _ => some (word :: rest)

/-- Takes `command` off the words as often as it stands there. -/
def Called.ofWords (functions : List (String × Command)) : Nat → Called → Called
  | 0, c => c
  | n + 1, c =>
    match c.words with
    | "command" :: rest =>
      if !c.noFunctions && functions.any (·.1 = "command") then c
      else
        match behindCommand rest with
        | some words => ofWords functions n ⟨words, true, false⟩
        | none => { c with noFunctions := true }
    | word :: _ => if c.noFunctions then c else { c with special := Builtin.isSpecial word }
    | [] => c

/-- Carries out the words of a command. -/
def dispatch (run : Script → Act Flow) (c : Called) : Act Flow := do
  match c.words with
  | [] => Act.done (← get).substituted
  | word :: args =>
    let functions := (← get).functions
    match if c.noFunctions then none else functions.lookup word, builtin run word with
    | some body, _ => call run body args
    | none, some b => runBuiltin word c.special (b args)
    | none, none => startProgram run word args

/-- Gives variables values in order, and tells what they were before. -/
def assignAll (run : Script → Act Flow) (exports : Bool) :
    List (String × Word) → Expand (List (Saved × String))
  | [] => return []
  | (name, word) :: rest => do
    let value ← Expand.text run .value word
    let before ← (Act.saved name : Act Saved)
    Expand.assign name value
    if exports then modify fun s => { s with exported := s.exported.insert name }
    return (before, name ++ "=" ++ value) :: (← assignAll run exports rest)

/-- Tells what is carried out, if that is wanted. -/
def trace (run : Script → Act Flow) (descriptors : List (Nat × Channel)) (words : List String) :
    Expand Unit := do
  if (← get).has 'x' then
    modify fun s => { s with options := s.options.erase 'x' }
    let start ← match (← get).values.get? "PS4" with
      | none => pure ""
      | some text => (prompt text : Expand String)
    modify fun s => { s with options := s.options.insert 'x' }
    let own := (← get).descriptors
    modify fun s => { s with descriptors := descriptors }
    (Act.complain (start ++ " ".intercalate words) : Act Unit)
    modify fun s => { s with descriptors := own }
where
  /-- The text of a prompt, with what it holds expanded. -/
  prompt (text : String) : Expand String :=
    let source := Source.ofText text.toList
    let reader : Parser Word :=
      Parser.parts (Parser.nestedUpTo text.length).script (text.length + 1) (.document ['\x00'] true)
    match reader.run source with
    | .ok (w, _) => Expand.text run .document w
    | .error _ => return text

/-- A command that is given by its words. -/
def simple (run : Script → Act Flow) (line : Nat) (assignments : List (String × Word))
    (words : List Word) (redirections : List Redirection) : Act Flow := do
  modify fun s => { s with line := line, substituted := 0 }
  let outer := (← get).descriptors
  let functions := (← get).functions
  let flow ← expanding do
    let fields ← Expand.fields run [] words
    let c := Called.ofWords functions (fields.length + 1) ⟨fields, false, false⟩
    if !(← Redirection.performAll run redirections) then
      (Act.setStatus 2 : Act Unit)
      return if c.special then .fault else .next
    let stays := fields.isEmpty || c.special
    let assigned ← assignAll run (!stays || c.words.head? = some "exec") assignments
    trace run outer (assigned.map Prod.snd ++ fields)
    let flow ← (dispatch run c : Act Flow)
    if !stays then assigned.reverse.forM fun (before, _) => (Act.restore before : Act Unit)
    if !(c.words = ["exec"] || c.words = ["exec", "--"]) then
      (reconnect outer (redirections.map Redirection.descriptor) : Act Unit)
    return flow
  if flow matches .fault then reconnect outer (redirections.map Redirection.descriptor)
  return flow

/-! ## Compound commands -/

/-- A loop makes at most this many rounds. -/
def roundLimit : Nat := Nat.pow 2 32

/-- What a loop makes of the way its body went on: nothing, if it goes on with the next round. -/
def afterRound : Flow → Option Flow
  | .next => none
  | .again n => if n ≤ 1 then none else some (.again (n - 1))
  | .leave n => some (if n ≤ 1 then .next else .leave (n - 1))
  | flow => some flow

/-- A step in one more loop. -/
def looping (step : Act Flow) : Act Flow := do
  modify fun s => { s with loops := s.loops + 1 }
  let flow ← step
  modify fun s => { s with loops := s.loops - 1 }
  return flow

/-- How much a loop writes to a pipe at most. Nobody reads that much, so the reader is gone. -/
def pipeLimit : Nat := Nat.pow 2 20

/-- Whether so much stands in the pipe behind the output that nobody reads it. -/
def isUnread : Act Bool := do
  match ← Act.channel? 1 with
  | some (.pipe index) =>
    let pieces := (← get).machine.pipes.getD index []
    return index ≠ 0 && pipeLimit < pieces.foldl (fun n piece => n + piece.bytes.length) 0
  | _ => return false

/-- Repeats the body as long as the condition says so; `status` is that of the last round. -/
def rounds (run : Script → Act Flow) (untilTrue : Bool) (condition body : Script) (status : Nat) :
    Nat → Act Flow
  | 0 => return .killed Signal.kill
  | n + 1 => do
    if n % 4096 = 0 then
      if ← isUnread then return .killed Signal.pipe
    let flow ← testing (run condition)
    match flow, afterRound flow with
    | .next, _ =>
      if ((← get).status == 0) == untilTrue then Act.done status
      else
        match afterRound (← run body) with
        | some flow => return flow
        | none =>
          let s ← get
          rounds run untilTrue condition body s.status n
    | _, none => rounds run untilTrue condition body status n
    | _, some flow =>
      if flow matches .next then Act.setStatus status
      return flow

/-- Carries out the body for every word. -/
def forWords (run : Script → Act Flow) (name : String) (body : Script) : List String → Act Flow
  | [] => return .next
  | word :: words => do
    match ← Builtin.assign name word with
    | .next =>
      match afterRound (← run body) with
      | some flow => return flow
      | none => forWords run name body words
    | flow => return flow

/-- Carries out the body behind the first condition that holds. -/
def choose (run : Script → Act Flow) (otherwise : Script) : List (Script × Script) → Act Flow
  | [] => if otherwise.isEmpty then Act.done 0 else run otherwise
  | (condition, body) :: rest => do
    match ← testing (run condition) with
    | .next => if (← get).status = 0 then run body else choose run otherwise rest
    | flow => return flow

/-- Whether a text is of the kind of one of the patterns. -/
def matchesAny (run : Script → Act Flow) (text : String) : List Word → Expand Bool
  | [] => return false
  | p :: ps => do
    let pattern ← Expand.pattern run p
    if Glob.matchesText pattern text then return true else matchesAny run text ps

/-- The body of the first branch with a pattern for the text. -/
def branch (run : Script → Act Flow) (text : String) :
    List (List Word × Script) → Expand (Option Script)
  | [] => return none
  | (patterns, body) :: rest => do
    if ← matchesAny run text patterns then return some body else branch run text rest

/-- A command with redirections of its own. -/
def redirected (run : Script → Act Flow) (line : Nat) (redirections : List Redirection) :
    Command → Act Flow
  | .subshell body => do
    modify fun s => { s with line := line }
    checked (← child run (expanding do
      if ← Redirection.performAll run redirections then (run body : Act Flow)
      else (Act.exit 2 : Act Flow)))
  | c => do
    modify fun s => { s with line := line }
    keeping (redirections.map Redirection.descriptor) <| expanding do
      if ← Redirection.performAll run redirections then (run (alone c) : Act Flow)
      else
        (Act.setStatus 2 : Act Unit)
        (checked .next : Act Flow)

def command (run : Script → Act Flow) : Command → Act Flow
  | .simple line assignments words redirections => do
    match ← simple run line assignments words redirections with
    | .next =>
      match ← Process.attend run with
      | .next => checked .next
      | flow => return flow
    | flow => checked flow
  | .redirected line c redirections => redirected run line redirections c
  | .subshell body => do
    let flow ← child run (run body)
    match ← Process.attend run with
    | .next => checked flow
    | flow => return flow
  | .group body => run body
  | .choose branches otherwise => choose run otherwise branches
  | .repeat_ untilTrue condition body => looping (rounds run untilTrue condition body 0 roundLimit)
  | .each line name words body => expanding do
    modify fun s => { s with line := line }
    let values ← match words with
      | some ws => do pure (← ws.mapM (Expand.wordFields run)).flatten
      | none => do pure (← get).arguments.values
    if values.isEmpty then (Act.done 0 : Act Flow)
    else (looping (forWords run name body values) : Act Flow)
  | .match_ line subject branches => expanding do
    modify fun s => { s with line := line }
    let text ← Expand.text run .text subject
    match ← branch run text branches with
    | some (item :: items) => (run (item :: items) : Act Flow)
    | _ => (Act.done 0 : Act Flow)
  | .define name body => do
    modify fun s => { s with functions := (name, body) :: s.functions.filter (·.1 ≠ name) }
    Act.done 0

/-! ## Pipelines and scripts -/

/-- Remembers the program that a command of a pipeline starts. -/
def foresee : Command → Act Unit
  | .simple _ _ (w :: _) _ => do
    match Word.bare? w with
    | some cs =>
      let name := String.ofList cs
      if Parser.isName cs && !Builtin.isCommand name then
        let _ ← Builtin.program? name
    | none => pure ()
  | _ => pure ()

/-- The commands of a pipeline, all started at the same time, each with what the one before wrote as
its input. -/
def stages (run : Script → Act Flow) (started : Nat) : List Command → Act Nat
  | [] => return 0
  | [c] => do
    foresee c
    Process.reap (← Process.branch run (command run c))
  | c :: cs => do
    foresee c
    let pipe ← Act.openPipe []
    let first ← Process.branch run (do Act.setChannel 1 (.pipe pipe); command run c)
    let ended ← Act.clock
    Act.setClock started
    let last ← keeping [0] (do Act.setChannel 0 (.pipe pipe); stages run started cs)
    Act.waitUntil ended
    let _ ← Process.reap first
    return last

def pipeline (run : Script → Act Flow) : Pipeline → Act Flow
  | .mk true commands => do
    match ← testing (several commands) with
    | .next => Act.done (if (← get).status = 0 then 1 else 0)
    | flow => return flow
  | .mk false commands => several commands
where
  several : List Command → Act Flow
    | [c] => command run c
    | cs => do
      Act.setStatus (← stages run (← Act.clock) cs)
      match ← Process.attend run with
      | .next => checked .next
      | flow => return flow

/-- The pipelines that follow one, as far as its status and theirs say so. -/
def chain (run : Script → Act Flow) : List (Bool × Pipeline) → Act Flow
  | [] => return .next
  | [(onSuccess, p)] => do
    if ((← get).status == 0) == onSuccess then pipeline run p else return .next
  | (onSuccess, p) :: rest => do
    if ((← get).status == 0) == onSuccess then
      match ← testing (pipeline run p) with
      | .next => chain run rest
      | flow => return flow
    else chain run rest

/-- How long it takes until a new process runs, in nanoseconds. -/
def forkTime : Nat := 5 * Nat.pow 10 5

/-- The least number that no job has. -/
def freeIndex (jobs : List Job) : Nat :=
  ((List.range (jobs.length + 1)).find? fun i => jobs.all (·.index ≠ i + 1)).getD 0 + 1

/-- Starts an item as a process that nobody waits for at first. -/
def background (run : Script → Act Flow) (item : Script) : Act Flow := do
  let started ← Act.clock
  let number := (← get).machine.started + 1
  Act.spend forkTime
  let (flow, status) ← Process.branch run (do
    modify fun s => { s with tested := false }
    Act.setChannel 0 .null
    run item)
  let finished ← Act.clock
  Act.setClock started
  let (status, killedBy) := match flow with
    | .killed signal => (128 + signal, some signal)
    | _ => (status, none)
  modify fun s =>
    let job : Job := ⟨freeIndex s.jobs, number, s.machine.started, status, finished, killedBy⟩
    { s with jobs := job :: s.jobs, lastJob := some number }
  Act.done 0

def item (run : Script → Act Flow) : Item → Act Flow
  | .mk first rest true => background run [.mk first rest false]
  | .mk first [] false => pipeline run first
  | .mk first rest false => do
    match ← testing (pipeline run first) with
    | .next => chain run rest
    | flow => return flow

def items (run : Script → Act Flow) : Script → Act Flow
  | [] => return .next
  | i :: is => do
    if (← get).has 'n' then return .next
    match ← item run i with
    | .next => items run is
    | flow => return flow

end Interpreter

/-- Carries out a script. One that is nested too deep is killed. -/
def runScript : Nat → Script → Act Flow
  | 0, _ => return .killed Signal.kill
  | depth + 1, script => Interpreter.items (runScript depth) script

end BenchSweep.Shell
