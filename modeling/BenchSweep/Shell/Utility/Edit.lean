import BenchSweep.Shell.Utility.Matching

/-! A program that changes lines as a script says: each of its commands has addresses that choose lines,
and a letter. -/
set_option autoImplicit false

namespace BenchSweep.Shell.Utility

/-! ## Scripts -/

/-- What chooses a line. -/
inductive Address where
  | number (n : Nat)
  | last
  | pattern (p : Regex.Program)

/-- A piece of the text that is put in place of a match. -/
inductive Insert where
  | text (cs : List Char)
  | whole
  | group (n : Nat)

inductive EditAction where
  | substitute (p : Regex.Program) (inserts : List Insert) (all shown : Bool) (nth : Nat)
  | print
  | delete
  | number
  | quit (status : Nat)
  | translate (taken given : List Char)
  | insert (text : String)
  | append (text : String)
  | replace (text : String)

structure EditCommand where
  first : Option Address
  last : Option Address
  negated : Bool
  action : EditAction

/-- What is wrong with a script, and behind how many characters. -/
abbrev EditReader (α : Type) := StateT (List Char) (Except (List Char × String)) α

namespace EditReader

def fail {α : Type} (message : String) : EditReader α := do throw (← get, message)

def blanks : EditReader Unit := modify (·.dropWhile fun c => c == ' ' || c == '\t')

def digits : EditReader (List Char) := do
  let ds := (← get).takeWhile Char.isDigit
  modify (·.drop ds.length)
  return ds

/-- The text up to a mark that no backslash stands before. -/
def upTo (mark : Char) : Nat → (classed : Bool) → List Char → Option (List Char × List Char)
  | 0, _, _ => none
  | _ + 1, _, [] => none
  | n + 1, classed, '\\' :: c :: cs =>
    let here := if c == mark && !classed then [c] else if c == 'n' then ['\n'] else ['\\', c]
    (upTo mark n classed cs).map fun (inner, rest) => (here ++ inner, rest)
  | n + 1, classed, c :: cs =>
    if c == mark && !classed then some ([], cs)
    else
      let classed := if c == '[' then true else if c == ']' then false else classed
      (upTo mark n classed cs).map fun (inner, rest) => (c :: inner, rest)

def delimited (mark : Char) (classes : Bool) (message : String) : EditReader (List Char) := do
  let cs ← get
  let found := if classes then upTo mark (cs.length + 1) false cs else plain mark cs
  match found with
  | some (inner, rest) =>
    set rest
    return inner
  | none =>
    set ([] : List Char)
    fail message
where
  plain (mark : Char) : List Char → Option (List Char × List Char)
    | [] => none
    | '\\' :: c :: cs =>
      (plain mark cs).map fun (inner, rest) =>
        (if c == mark && c ≠ '&' then c :: inner else '\\' :: c :: inner, rest)
    | c :: cs =>
      if c == mark then some ([], cs)
      else (plain mark cs).map fun (inner, rest) => (c :: inner, rest)

def pattern (extended ignoreCase : Bool) (cs : List Char) : EditReader Regex.Program := do
  match compiled (if extended then .extended else .basic) ignoreCase (fun body => body)
      (String.ofList cs) with
  | some p => return p
  | none => fail "Invalid preceding regular expression"

def address? (extended : Bool) : EditReader (Option Address) := do
  match ← get with
  | '$' :: rest =>
    set rest
    return some .last
  | '/' :: rest =>
    set rest
    let inner ← delimited '/' true "unterminated address regex"
    return some (.pattern (← pattern extended false inner))
  | c :: _ =>
    if c.isDigit then return some (.number (Arithmetic.ofDigits 10 (← digits))) else return none
  | [] => return none

/-- The pieces of the text that is put in place of a match. -/
def inserts : List Char → List Insert
  | [] => []
  | '&' :: cs => .whole :: inserts cs
  | '\\' :: c :: cs =>
    if c.isDigit then .group (c.toNat - 48) :: inserts cs
    else .text [if c == 'n' then '\n' else if c == 't' then '\t' else c] :: inserts cs
  | c :: cs => .text [c] :: inserts cs

def substitution (extended : Bool) : EditReader EditAction := do
  match ← get with
  | [] => fail "unterminated \x60s' command"
  | mark :: rest =>
    set rest
    let from_ ← delimited mark true "unterminated \x60s' command"
    let into ← delimited mark false "unterminated \x60s' command"
    let flags := (← get).takeWhile fun c => c.isDigit || ['g', 'p', 'i', 'I', 'm', 'M'].contains c
    modify (·.drop flags.length)
    let behind := (← get).head?
    if behind.any fun c => !([' ', '\t', ';', '\n', '\x7d', '#'].contains c) then
      modify (·.drop 1)
      fail "unknown option to \x60s'"
    let p ← pattern extended (flags.contains 'i' || flags.contains 'I') from_
    let nth := Arithmetic.ofDigits 10 (flags.filter Char.isDigit)
    return .substitute p (inserts into) (flags.contains 'g') (flags.contains 'p') (max nth 1)

/-- The text of a command that takes the rest of the line. -/
def lineText : EditReader String := do
  blanks
  match ← get with
  | '\\' :: '\n' :: rest => set rest
  | '\\' :: rest => set rest
  | _ => pure ()
  let cs := (← get).takeWhile (· ≠ '\n')
  modify (·.drop cs.length)
  return String.ofList cs

def action (extended : Bool) : EditReader EditAction := do
  match ← get with
  | [] => fail "missing command"
  | c :: rest =>
    set rest
    match c with
    | 's' => substitution extended
    | 'p' => return .print
    | 'd' => return .delete
    | '=' => return .number
    | 'q' =>
      blanks
      return .quit (Arithmetic.ofDigits 10 (← digits))
    | 'y' =>
      match ← get with
      | mark :: rest =>
        set rest
        let a ← delimited mark false "unterminated \x60y' command"
        let b ← delimited mark false "unterminated \x60y' command"
        if a.length ≠ b.length then fail "strings for \x60y' command are different lengths"
        else return .translate a b
      | [] => fail "unterminated \x60y' command"
    | 'i' => return .insert (← lineText)
    | 'a' => return .append (← lineText)
    | 'c' => return .replace (← lineText)
    | _ => fail s!"unknown command: \x60{c}'"

def separators : EditReader Unit :=
  modify (·.dropWhile fun c => c == ' ' || c == '\t' || c == ';' || c == '\n')

/-- The commands of a script. -/
def commands (extended : Bool) : Nat → EditReader (List EditCommand)
  | 0 => return []
  | n + 1 => do
    separators
    if (← get).isEmpty then return []
    let first ← address? extended
    let last ← match first, ← get with
      | some _, ',' :: rest => do
        set rest
        match ← address? extended with
        | some a => pure (some a)
        | none => fail "unexpected \x60,'"
      | _, _ => pure none
    blanks
    let marks := (← get).takeWhile (· == '!')
    modify (·.drop marks.length)
    blanks
    let a ← action extended
    blanks
    let behind := (← get).head?
    if behind.any fun c => !([';', '\n', '\x7d', '#'].contains c) then
      modify (·.drop 1)
      fail "extra characters after command"
    return ⟨first, last, !marks.isEmpty, a⟩ :: (← commands extended n)

end EditReader

/-- The commands of a script, or what is wrong with it and where. -/
def editCommands (extended : Bool) (script : String) : Except (Nat × String) (List EditCommand) :=
  let cs := script.toList
  match (EditReader.commands extended (cs.length + 1)).run cs with
  | .ok (found, _) => .ok found
  | .error (rest, message) => .error (cs.length - rest.length, message)

/-! ## Lines -/

/-- The text with the matches from the `nth` on put in other words; whether there was one. -/
def substituted (p : Regex.Program) (inserts : List Insert) (all : Bool) (nth : Nat)
    (text : List Char) : List Char × Bool :=
  let found := (p.allMatches text).drop (nth - 1)
  let found := if all then found else found.take 1
  let rec build (at_ : Nat) : List Regex.Match → List Char
    | [] => text.drop at_
    | m :: ms =>
      let here := inserts.flatMap fun
        | .text cs => cs
        | .whole => m.whole.of text
        | .group 0 => m.whole.of text
        | .group 1 => (m.group.map (·.of text)).getD []
        | .group _ => []
      (text.drop at_).take (m.whole.start - at_) ++ here ++ build m.whole.stop ms
  (build 0 found, !found.isEmpty)

/-- Whether a line is the one of an address. -/
def Address.chooses (a : Address) (number : Nat) (isLast : Bool) (text : List Char) : Bool :=
  match a with
  | .number n => n = number
  | .last => isLast
  | .pattern p => !(p.allMatches text).isEmpty

/-- What is known while the commands go over a line. -/
structure EditState where
  text : List Char
  out : List String
  after : List String
  deleted : Bool
  quit : Option Nat
  /-- Whether each command with two addresses is between them. -/
  inside : List Bool

/-- Whether a command goes over a line, and whether it is between its addresses behind it. -/
def EditCommand.applies (c : EditCommand) (inside : Bool) (number : Nat) (isLast : Bool)
    (text : List Char) : Bool × Bool :=
  match c.first, c.last with
  | none, _ => (true, false)
  | some a, none => (a.chooses number isLast text, false)
  | some a, some b =>
    if inside then
      match b with
      | .number n => (number ≤ n, number < n)
      | _ => (true, !b.chooses number isLast text)
    else if a.chooses number isLast text then
      match b with
      | .number n => (true, number < n)
      | _ => (true, true)
    else (false, false)

def EditState.act (s : EditState) (number : Nat) : EditAction → EditState
  | .substitute p inserts all shown nth =>
    let (text, hit) := substituted p inserts all nth s.text
    let out := if hit && shown then s.out ++ [String.ofList text] else s.out
    { s with text := text, out := out }
  | .print => { s with out := s.out ++ [String.ofList s.text] }
  | .delete => { s with deleted := true }
  | .number => { s with out := s.out ++ [String.ofList (Decimal.digits number)] }
  | .quit status => { s with quit := some status }
  | .translate taken given =>
    { s with text := s.text.map fun c => ((taken.idxOf? c).map fun i => given.getD i c).getD c }
  | .insert text => { s with out := s.out ++ [text] }
  | .append text => { s with after := s.after ++ [text] }
  | .replace text => { s with out := s.out ++ [text], deleted := true }

/-- The commands, each with whether it is between its addresses, carried out on one line. -/
def EditState.run (number : Nat) (isLast : Bool) :
    List (EditCommand × Bool) → EditState → EditState
  | [], s => s
  | (c, inside) :: rest, s =>
    if s.deleted || s.quit.isSome then run number isLast rest { s with inside := s.inside ++ [inside] }
    else
      let (applies, inside) := c.applies inside number isLast s.text
      let s := if applies != c.negated then s.act number c.action else s
      run number isLast rest { s with inside := s.inside ++ [inside] }

/-- Carries out the commands on all lines; gives the status of an early end. -/
def editLines (quiet : Bool) (commands : List EditCommand) (whole : Bool) (total : Nat) :
    Nat → List Bool → List (List UInt8) → Act Nat
  | _, _, [] => return 0
  | number, inside, line :: rest => do
    let start : EditState := ⟨Text.Utf8.decodeLossy line, [], [], false, none, []⟩
    let s := start.run number (number = total) (commands.zip inside)
    let feed := if rest.isEmpty && !whole then "" else "\n"
    let own := if s.deleted || quiet then [] else [String.ofList s.text]
    let out := s.out.map (· ++ "\n") ++ own.map (· ++ feed) ++ s.after.map (· ++ "\n")
    Act.say (String.join out)
    match s.quit with
    | some status => return status
    | none => editLines quiet commands whole total (number + 1) s.inside rest

def sed : Utility := fun args => do
  match scanOptions [flag 'n' "quiet", flag 'n' "silent", valued 'e' "expression", flag 'E' "",
      flag 'r' "regexp-extended", ⟨'i', "in-place", .optional⟩, flag 's' "separate",
      flag 'u' "unbuffered", flag 'z' "null-data"] false (args.length + 1) args with
  | .error message =>
    fault message
    Act.complain "Usage: sed [OPTION]... \x7bscript-only-if-no-other-script\x7d [input-file]..."
    return 1
  | .ok (found, rest) =>
    let o : Options := ⟨found⟩
    let given := found.filterMap fun (c, v) => if c = 'e' then v else none
    let scripts := if given.isEmpty then rest.take 1 else given
    let paths := if given.isEmpty then rest.drop 1 else rest
    if scripts.isEmpty then
      Act.complain "Usage: sed [OPTION]... \x7bscript-only-if-no-other-script\x7d [input-file]..."
      return 1
    else
      match editCommands (o.has 'E' || o.has 'r') ("\n".intercalate scripts) with
      | .error (at_, message) =>
        fault s!"-e expression #1, char {at_}: {message}"
        return 1
      | .ok commands =>
        let (failed, contents) ← (if paths.isEmpty then ["-"] else paths).foldlM
          (fun (failed, contents) path => do
            match ← contentOf path with
            | .ok bytes => return (failed, contents ++ [(path, bytes)])
            | .error t =>
              let shown := if path = "-" then "stdin" else path
              fault (if t.opened || path = "-" then s!"read error on {shown}: {t.reason}"
                else s!"can't read {path}: {t.reason}")
              return (if t.opened || path = "-" then 4 else 2, contents))
          ((0, []) : Nat × List (String × List UInt8))
        let outside := commands.map fun _ => false
        let edit (bytes : List UInt8) : Act Nat := do
          let ls := byteLines bytes
          editLines (o.has 'n') commands (bytes.getLast? = some 0x0A) ls.length 1 outside ls
        if o.has 'i' then
          contents.forM fun (path, bytes) => do
            let pipe ← Act.openPipe []
            let outer := (← get).descriptors
            Act.setChannel 1 (.pipe pipe)
            let _ ← edit bytes
            modify fun s => { s with descriptors := outer }
            let out ← Act.drain pipe
            match (← Act.files).write ⟨path⟩ out with
            | .ok fs => Act.setFiles fs
            | .error e => fault s!"couldn't open file {path}: {reason e}"
          return failed
        else
          let status ← edit (contents.flatMap Prod.snd)
          return if failed ≠ 0 then failed else status

end BenchSweep.Shell.Utility
