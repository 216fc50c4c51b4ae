import BenchSweep.Shell.Builtin.Variables
import BenchSweep.Shell.Expansion

/-! The commands of the shell that give variables values from parameters and from the input. -/
set_option autoImplicit false

namespace BenchSweep.Shell.Builtin

/-! ## Options of scripts -/

/-- What a look at the next option comes to. -/
structure Option_ where
  /-- The letter, or a mark for a fault or the end. -/
  letter : Char
  /-- The value; nothing if there is to be none. -/
  value : Option String
  fault : Option String
  atEnd : Bool
  next : Nat
  inside : Option Nat

/-- Whether a letter is wanted, and whether a value belongs to it. -/
def wanted? (letter : Char) : List Char → Option Bool
  | [] => none
  | c :: ':' :: cs => if c = letter then some true else wanted? letter cs
  | c :: cs => if c = letter then some false else wanted? letter cs

/-- The option that the letters `cs` of a word start with; `next` counts the words behind it. -/
def optionAt (wanted : List Char) (words : List String) (next : Nat) (width : Nat) :
    List Char → Option_
  | [] => ⟨'?', none, none, true, next, none⟩
  | c :: cs =>
    let quiet := wanted.head? = some ':'
    let inside : Option Nat := some (width - cs.length)
    let failed (sign : Char) (message : String) (next : Nat) (inside : Option Nat) : Option_ :=
      if quiet then ⟨sign, some c.toString, none, false, next, inside⟩
      else ⟨'?', none, some message, false, next, inside⟩
    match wanted? c wanted with
    | none => failed '?' s!"Illegal option -{c}" next inside
    | some false => ⟨c, some "", none, false, next, inside⟩
    | some true =>
      if !cs.isEmpty then ⟨c, some (String.ofList cs), none, false, next, none⟩
      else
        match words[next - 1]? with
        | some value => ⟨c, some value, none, false, next + 1, none⟩
        | none => failed ':' s!"No arg for -{c} option" next none

/-- The next option of the words. -/
def nextOption (wanted : List Char) (words : List String) (a : Arguments) : Option_ :=
  let fresh : Option_ :=
    match words[a.nextOption - 1]? with
    | none => ⟨'?', none, none, true, a.nextOption, none⟩
    | some word =>
      match word.toList with
      | ['-', '-'] => ⟨'?', none, none, true, a.nextOption + 1, none⟩
      | '-' :: c :: cs =>
        optionAt wanted words (a.nextOption + 1) (cs.length + 2) (c :: cs)
      | _ => ⟨'?', none, none, true, a.nextOption, none⟩
  match a.inside with
  | none => fresh
  | some k =>
    let word := (words[a.nextOption - 2]?.getD "").toList
    if a.nextOption ≤ 1 || word.length ≤ k then fresh
    else optionAt wanted words a.nextOption word.length (word.drop k)

def getopts : Builtin := fun args =>
  withOptions [] args fun _ args => do
    match args with
    | wanted :: name :: given =>
      let a := (← get).arguments
      let words := if given.isEmpty then a.values else given
      let a := if words.length + 1 < a.nextOption then { a with nextOption := 1, inside := none }
        else a
      let o := nextOption wanted.toList words a
      o.fault.forM Act.complain
      let keep (next : Nat) (inside : Option Nat) : Act Unit := modify fun s =>
        { s with arguments := { s.arguments with nextOption := next, inside := inside } }
      keep 1 none
      let valued : Act Flow := match o.value with
        | some v => assign "OPTARG" v
        | none => do
          if o.fault.isSome then modify fun s => { s with values := s.values.erase "OPTARG" }
          return .next
      let steps := [valued, assign "OPTIND" (String.ofList (Decimal.digits o.next)),
        assign name o.letter.toString]
      match ← each (fun step => step) steps with
      | .next =>
        keep o.next o.inside
        Act.done (if o.atEnd then 1 else 0)
      | flow => return flow
    | _ => Act.abandon "Usage: getopts optstring var [arg...]"

/-! ## Lines of input -/

/-- The words of a line for variables, of which the last takes all that is left. A character that was
quoted does not split. -/
def readWords (separators : List Char) : Nat → List Mark → List (List Mark)
  | 0, _ => []
  | n + 1, ms =>
    let isSeparator (m : Mark) : Bool := !m.quoted && separators.contains m.char
    let isBlank (m : Mark) : Bool := isSeparator m && Expand.Fields.isBlank m.char
    let ms := ms.dropWhile isBlank
    let word := ms.takeWhile (!isSeparator ·)
    let tail := ms.drop word.length
    -- What stands behind the separator: blanks around another one belong to it.
    let behind := match tail.dropWhile isBlank with
      | m :: rest => if isSeparator m then rest.dropWhile isBlank else m :: rest
      | [] => []
    if n = 0 then
      if behind.isEmpty then [word] else [(ms.reverse.dropWhile isBlank).reverse]
    else word :: readWords separators n behind

/-- A line with the characters behind backslashes marked, and whether a backslash ends it. -/
def unescaped : List Char → List Mark × Bool
  | [] => ([], false)
  | ['\\'] => ([], true)
  | '\\' :: c :: cs =>
    let (ms, goesOn) := unescaped cs
    (⟨c, true⟩ :: ms, goesOn)
  | c :: cs =>
    let (ms, goesOn) := unescaped cs
    (⟨c, false⟩ :: ms, goesOn)

/-- A line of input; one that ends with a backslash goes on with the next. The number bounds how many
are joined. -/
def inputLine (raw : Bool) : Nat → Act (List Mark × Bool)
  | 0 => return ([], false)
  | n + 1 => do
    let (bytes, complete) ← Act.readInputLine
    let text := (Text.Utf8.decodeLossy bytes).filter (· ≠ '\x00')
    if raw then return (text.map (⟨·, false⟩), complete)
    else
      let (ms, goesOn) := unescaped text
      if goesOn && complete then
        let (more, complete) ← inputLine raw n
        return (ms ++ more, complete)
      else return (ms, complete)

/-- So many lines are joined at most. -/
def joinLimit : Nat := Nat.pow 2 16

def read : Builtin := fun args => do
  match options [('p', true), ('r', false)] (args.length + 1) args with
  | .error message => Act.abandon message
  | .ok (flags, names) =>
    if names.isEmpty then Act.abandon "arg count"
    else
      let (ms, complete) ← inputLine (flags.any (·.1 = 'r')) joinLimit
      let words := readWords (← Expand.separators) names.length ms
      match ← each (fun (name, i) => assign name (Mark.text (words.getD i []))) names.zipIdx with
      | .next => Act.done (if complete then 0 else 1)
      | flow => return flow

end BenchSweep.Shell.Builtin
