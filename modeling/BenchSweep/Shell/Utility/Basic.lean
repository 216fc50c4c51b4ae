import BenchSweep.Shell.Device
import BenchSweep.Shell.Utility.Quotation

/-! What the programs of the host have in common. Each reads the input and the files, writes to the
output and answers with its status. Options may stand behind other arguments. -/
set_option autoImplicit false

namespace BenchSweep.Shell

/-- What a program does with its arguments. -/
abbrev Utility := List String → Act Nat

namespace Utility

/-! ## Faults -/

/-- What is told of a file that cannot be used. -/
def reason : HostFault → String
  | .notFound => "No such file or directory"
  | .permissionDenied => "Permission denied"
  | .alreadyExists => "File exists"
  | .notADirectory => "Not a directory"
  | .isADirectory => "Is a directory"
  | .nameTooLong => "File name too long"
  | fault => fault.message

/-- The name by which the program was called. -/
def name : Act String := return (← get).name

/-- Tells of a fault. -/
def fault (text : String) : Act Unit := do Act.complain s!"{← name}: {text}"

/-- Points to the help. -/
def advise : Act Unit := do Act.complain s!"Try '{← name} --help' for more information."

/-- Tells that the arguments are wrong. -/
def misuse (status : Nat) (text : String) : Act Nat := do
  fault text
  advise
  return status

/-- The fault of a command without the arguments that it needs. -/
def missingOperand : Act Nat := misuse 1 "missing operand"

def extraOperand (s : String) : Act Nat := misuse 1 s!"extra operand {Quotation.quoted s}"

/-! ## Options -/

/-- Whether an option has a value. -/
inductive Need where
  | none
  | required
  | optional
deriving DecidableEq

/-- An option by its letter and its word, which is empty if it has none. -/
structure Known where
  letter : Char
  word : String
  need : Need

/-- An option without a value. -/
def flag (letter : Char) (word : String) : Known := ⟨letter, word, .none⟩

/-- An option with a value. -/
def valued (letter : Char) (word : String) : Known := ⟨letter, word, .required⟩

/-- Options that were found with their values, and the other arguments. -/
abbrev Found := List (Char × Option String) × List String

/-- The options that the letters of a word are. -/
def letterOptions (known : List Known) : List Char → List String → Except String Found
  | [], rest => .ok ([], rest)
  | c :: cs, rest =>
    match known.find? fun k => k.letter = c && c.isAlphanum with
    | none => .error s!"invalid option -- '{c}'"
    | some k =>
      match k.need, cs, rest with
      | .required, [], [] => .error s!"option requires an argument -- '{c}'"
      | .required, [], value :: after => .ok ([(c, some value)], after)
      | .required, value, after => .ok ([(c, some (String.ofList value))], after)
      | .optional, value, after =>
        .ok ([(c, if value.isEmpty then none else some (String.ofList value))], after)
      | .none, cs, rest => do
        let (more, after) ← letterOptions known cs rest
        return ((c, none) :: more, after)

/-- The option that a word behind two dashes is. -/
def wordOption (known : List Known) (word : String) (value : Option String) (rest : List String) :
    Except String Found :=
  let candidates := known.filter fun k => k.word ≠ "" && k.word.startsWith word
  let chosen := match candidates.find? (·.word = word), candidates with
    | some k, _ => some k
    | none, [k] => some k
    | none, _ => none
  match chosen with
  | none =>
    if candidates.isEmpty then
      let shown := match value with
        | some v => word ++ "=" ++ v
        | none => word
      .error s!"unrecognized option '--{shown}'"
    else
      let names := " ".intercalate (candidates.map fun k => s!"'--{k.word}'")
      .error s!"option '--{word}' is ambiguous; possibilities: {names}"
  | some k =>
    match k.need, value, rest with
    | .none, some _, _ => .error s!"option '--{k.word}' doesn't allow an argument"
    | .required, none, [] => .error s!"option '--{k.word}' requires an argument"
    | .required, none, v :: after => .ok ([(k.letter, some v)], after)
    | _, v, after => .ok ([(k.letter, v)], after)

/-- The options among the arguments; with `ordered`, only those before the others. -/
def scanOptions (known : List Known) (ordered : Bool) : Nat → List String → Except String Found
  | 0, args => .ok ([], args)
  | _ + 1, [] => .ok ([], [])
  | n + 1, arg :: args =>
    let go (found : Except String Found) : Except String Found := do
      let (here, rest) ← found
      let (more, others) ← scanOptions known ordered n rest
      return (here ++ more, others)
    match arg.toList with
    | ['-', '-'] => .ok ([], args)
    | '-' :: '-' :: word =>
      match Text.splitOnce '=' word with
      | some (word, value) =>
        go (wordOption known (String.ofList word) (some (String.ofList value)) args)
      | none => go (wordOption known (String.ofList word) none args)
    | '-' :: c :: cs => go (letterOptions known (c :: cs) args)
    | _ =>
      if ordered then .ok ([], arg :: args)
      else do
        let (more, others) ← scanOptions known ordered n args
        return (more, arg :: others)

/-- The options that were found, and questions to them. -/
structure Options where
  found : List (Char × Option String)

def Options.has (o : Options) (letter : Char) : Bool := o.found.any (·.1 = letter)

/-- The value that was given last. -/
def Options.value? (o : Options) (letter : Char) : Option String :=
  (o.found.filterMap fun (c, v) => if c = letter then v else none).getLast?

/-- The last of some letters. -/
def Options.last? (o : Options) (letters : List Char) : Option Char :=
  (o.found.filterMap fun (c, _) => if letters.contains c then some c else none).getLast?

/-- Goes on with the options and the other arguments, if the options are known. -/
def withOptions (status : Nat) (known : List Known) (args : List String)
    (f : Options → List String → Act Nat) : Act Nat := do
  match scanOptions known false (args.length + 1) args with
  | .error message => misuse status message
  | .ok (found, rest) => f ⟨found⟩ rest

/-! ## Contents -/

/-- Why a file cannot be read: it cannot be opened, or it was opened and holds no bytes. -/
structure Trouble where
  opened : Bool
  reason : String

/-- How many bytes are read from a device that has no end. -/
def endless : Nat := Nat.pow 2 16

/-- All that is left of the input. -/
def input : Act (Except Trouble (List UInt8)) := do
  match ← Act.readInput with
  | .ok bytes => return .ok bytes
  | .error r => return .error ⟨r ≠ .closed, r.reason⟩

/-- The content of a named file; `-` is the input. -/
def contentOf (path : String) : Act (Except Trouble (List UInt8)) := do
  if path = "-" then input
  else
    match (← Act.files).find ⟨path⟩ with
    | .error e => return .error ⟨false, reason e⟩
    | .ok (place, node) =>
      match device? place, Files.Node.bytes node with
      | some (.descriptor 0), _ => input
      | some .zero, _ => return .ok (List.replicate endless 0)
      | some .full, _ => return .ok (List.replicate endless 0)
      | some .terminal, _ => return .error ⟨false, "No such device or address"⟩
      | some _, _ => return .ok []
      | none, .ok bytes => return .ok bytes
      | none, .error .isADirectory => return .error ⟨true, "Is a directory"⟩
      | none, .error _ => return .ok []

/-- Runs `f` on the content of every named file, or of the input if none is named; `absent` tells of
a file that cannot be read, and gives the status then. -/
def eachContent (absent : String → Trouble → Act Nat) (paths : List String)
    (f : String → List UInt8 → Act Nat) : Act Nat :=
  (if paths.isEmpty then ["-"] else paths).foldlM (fun status path => do
    match ← contentOf path with
    | .ok bytes => return max status (← f path bytes)
    | .error t => return max status (← absent path t)) 0

/-- Tells the reason alone why a file cannot be read. -/
def unreadable (path : String) (t : Trouble) : Act Nat := do
  fault s!"{Quotation.asNeeded path}: {t.reason}"
  return 1

/-- Tells a fault in the end if the input is among the files that were read and is closed. -/
def leavingInput (paths : List String) (message : String) : Act Unit := do
  if paths.contains "-" && (← Act.channel? 0).isNone then
    fault s!"{message}: Bad file descriptor"

/-- The name of a file where the input has one, too. -/
def inputName (path : String) : String := if path = "-" then "standard input" else path

/-- Tells whether a file cannot be opened or cannot be read. -/
def unopened (path : String) (t : Trouble) : Act Nat := do
  let shown := Quotation.shellQuoted (inputName path)
  if t.opened || path = "-" then fault s!"error reading {shown}: {t.reason}"
  else fault s!"cannot open {shown} for reading: {t.reason}"
  if path = "-" && !t.opened then fault s!"-: {t.reason}"
  return 1

/-- The lines of bytes without their line feeds. -/
def byteLines (bytes : List UInt8) : List (List UInt8) :=
  match (Text.splitWhere (· == 0x0A) bytes).reverse with
  | [] :: rest => rest.reverse
  | all => all.reverse

/-- The pieces of bytes that end with a line feed or at the end. -/
def wholeLines (bytes : List UInt8) : List (List UInt8) :=
  let ls := byteLines bytes
  if bytes.getLast? = some 0x0A then ls.map (· ++ [0x0A])
  else ls.dropLast.map (· ++ [0x0A]) ++ ls.getLast?.toList

def emitLine (s : String) : Act Unit := Act.say (s ++ "\n")

end Utility

end BenchSweep.Shell
