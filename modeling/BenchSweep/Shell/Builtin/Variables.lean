import BenchSweep.Shell.Builtin.Basic

/-! The commands of the shell for its variables, parameters and options. -/
set_option autoImplicit false

namespace BenchSweep.Shell.Builtin

/-! ## Variables -/

/-- The name and the value of an argument `name=value`. -/
def pair (arg : String) : String × Option String :=
  match Text.splitOnce '=' arg.toList with
  | some (name, value) => (String.ofList name, some (String.ofList value))
  | none => (arg, none)

/-- Goes on if the variable can be changed. -/
def changing (name : String) (step : Act Flow) : Act Flow := do
  if !Parser.isName name.toList then Act.abandon s!"{name}: bad variable name"
  else if (← get).fixed.contains name then Act.abandon s!"{name}: is read only"
  else step

/-- Gives a variable a value, if it can have one. The name ends before an equals sign. -/
def assign (argument value : String) : Act Flow :=
  let (name, _) := pair argument
  changing name do
    Act.assign name value
    return .next

/-- Lists variables in the order of their names. -/
def list (command : String) (names : List String) : Act Flow := do
  let values := (← get).values
  (names.mergeSort fun a b => decide (a ≤ b)).forM fun name => do
    let value := match values.get? name with
      | some v => "=" ++ quoted v
      | none => ""
    Act.say s!"{command}{name}{value}\n"
  Act.done 0

/-- Marks the variables that the arguments name, after they got their values. -/
def declare (command : String) (marked : Session → List String)
    (mark : String → Session → Session) : Builtin := fun args =>
  withOptions ['p'] args fun flags args => do
    if args.isEmpty || !flags.isEmpty then list (command ++ " ") (marked (← get))
    else
      match ← each (fun arg => do
        let (name, value) := pair arg
        let step : Act Flow := do
          value.forM (Act.assign name)
          modify (mark name)
          return .next
        let s ← get
        if value.isNone && (s.values.contains name || (marked s).contains name) then
          modify (mark name)
          return .next
        else changing name step) args with
      | .next => Act.done 0
      | flow => return flow

def export_ : Builtin :=
  declare "export" Session.exported fun name s => { s with exported := s.exported.insert name }

def readonly : Builtin :=
  declare "readonly" Session.fixed fun name s => { s with fixed := s.fixed.insert name }

/-- Declares variables of a function. A name that is none is only told of where it is restored, if it
got a value. -/
def local_ : Builtin := fun args => do
  if (← get).calls = 0 then Act.abandon "not in a function"
  else
    match ← each (fun arg => do
      let (name, value) := pair arg
      let before ← Act.saved name
      modify fun s => { s with locals := before :: s.locals }
      if arg = "-" then return .next
      match value with
      | some v =>
        if (← get).fixed.contains name then Act.abandon s!"{name}: is read only"
        else
          Act.assign name v
          return .next
      | none =>
        if Parser.isName name.toList then return .next
        else Act.abandon s!"{name}: bad variable name") args with
    | .next => Act.done 0
    | flow => return flow

def unset : Builtin := fun args =>
  withOptions ['v', 'f'] args fun flags names => do
    match ← each (fun name =>
      if flags.getLast? = some 'f' then do
        modify fun s => { s with functions := s.functions.filter (·.1 ≠ name) }
        return .next
      else
        let (name, _) := pair name
        changing name do
          modify fun s => { s with
            values := s.values.erase name, exported := s.exported.erase name }
          return .next) names with
    | .next => Act.done 0
    | flow => return flow

/-! ## Parameters -/

def shift : Builtin := fun args =>
  withCount 1 args fun n => do
    let values := (← get).arguments.values
    if values.length < n then Act.abandon "can't shift that many"
    else
      modify fun s => { s with arguments := .ofList (values.drop n) }
      Act.done 0

/-! ## Options -/

/-- What is wrong with an option of this name or letter. -/
def illegalOption (option : String) : String := s!"Illegal option -{option}"

/-- Lists the options and whether they are on, as a table or as commands. -/
def listOptions (table : Bool) : Act Unit := do
  if table then Act.say "Current option settings\n"
  let s ← get
  Session.optionNames.forM fun (letter, name) => do
    let on := letter.any s.has
    if table then
      let room := String.ofList (List.replicate (16 - name.length) ' ')
      let state := if on then "on" else "off"
      Act.say s!"{name}{room}{state}\n"
    else
      let sign := if on then "-" else "+"
      Act.say s!"set {sign}o {name}\n"

/-- Turns the option of this name on or off. -/
def setNamed (on : Bool) (name : String) : Act (Except String Unit) := do
  match Session.optionNames.find? (·.2 = name) with
  | some (some letter, _) =>
    modify (Session.withOption on letter)
    return .ok ()
  | some (none, _) => return .ok ()
  | none => return .error (illegalOption s!"o {name}")

/-- What the words before the parameters of a shell come to. -/
structure Taken where
  /-- The words behind the options. -/
  rest : List String
  /-- Whether a script must come next. -/
  script : Bool
  /-- Whether the parameters are taken away. -/
  cleared : Bool

/-- Takes the letters of options. Some are known only where a shell is started. -/
def takeLetters (starting on : Bool) : List Char → Taken → Act (Except String Taken)
  | [], t => return .ok t
  | c :: cs, t => do
    if c == 'c' && starting then takeLetters starting on cs { t with script := true }
    else if c == 'l' && starting then takeLetters starting on cs t
    else if c == 'o' then
      match t.rest with
      | [] =>
        listOptions on
        takeLetters starting on cs t
      | name :: rest =>
        match ← setNamed on name with
        | .ok () => takeLetters starting on cs { t with rest := rest }
        | .error message => return .error message
    else if Session.optionNames.any (·.1 = some c) then
      modify (Session.withOption on c)
      takeLetters starting on cs t
    else return .error (illegalOption c.toString)

/-- Takes the options before the other words. -/
def takeOptions (starting : Bool) : Nat → Taken → Act (Except String Taken)
  | 0, t => return .ok t
  | n + 1, t => do
    match t.rest with
    | [] => return .ok t
    | word :: rest =>
      let letters (on : Bool) (cs : List Char) : Act (Except String Taken) := do
        match ← takeLetters starting on cs { t with rest := rest } with
        | .ok t => takeOptions starting n t
        | .error message => return .error message
      match word.toList with
      | ['-'] =>
        if !starting then modify fun s => (s.withOption false 'x').withOption false 'v'
        return .ok { t with rest := rest }
      | ['-', '-'] => return .ok { t with rest := rest, cleared := rest.isEmpty }
      | '-' :: cs => letters true cs
      | '+' :: cs => letters false cs
      | _ => return .ok t

/-- A shell without a terminal has no control over its jobs. -/
def withoutControl : Act Unit := do
  if (← get).has 'm' then
    Act.complainHere "can't access tty; job control turned off"
    modify (Session.withOption false 'm')

def set_ : Builtin := fun args => do
  if args.isEmpty then list "" (← get).values.keys
  else
    match ← takeOptions false (args.length + 1) ⟨args, false, false⟩ with
    | .error message => Act.abandon message
    | .ok t =>
      withoutControl
      if t.cleared || !t.rest.isEmpty then
        modify fun s => { s with arguments := .ofList t.rest }
      Act.done 0

end BenchSweep.Shell.Builtin
