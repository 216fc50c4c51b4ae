import BenchSweep.Files

/-! Patterns for names: `*` stands for any text, `?` for any byte and brackets for one of several.
Quoted characters stand for themselves, and so does one behind a backslash. -/
set_option autoImplicit false

namespace BenchSweep.Shell

/-- A character of an expanded word, and whether it was quoted. -/
structure Mark where
  char : Char
  quoted : Bool
deriving DecidableEq

namespace Mark

def isBare (m : Mark) (c : Char) : Bool := m.char == c && !m.quoted

/-- The text of marks. -/
def text (ms : List Mark) : String := String.ofList (ms.map Mark.char)

/-- The marks without the backslashes that quote others. -/
def resolved : List Mark → List Mark
  | [] => []
  | [m] => [m]
  | m :: next :: ms =>
    if m.isBare '\\' then ⟨next.char, true⟩ :: resolved ms else m :: resolved (next :: ms)

/-- The bytes of marks, each with whether it was quoted. -/
def bytes (ms : List Mark) : List (UInt8 × Bool) :=
  ms.flatMap fun m => (String.utf8EncodeChar m.char).map (·, m.quoted)

end Mark

/-- An element of a pattern. -/
inductive Glob where
  | byte (b : UInt8)
  | any
  | many
  | oneOf (negated : Bool) (ranges : List (UInt8 × UInt8))

namespace Glob

/-- The code of an ASCII character. -/
def code (c : Char) : UInt8 := UInt8.ofNat c.toNat

def isBare (b : UInt8 × Bool) (c : Char) : Bool := b.1 == code c && !b.2

def className (name : String) : Option (List (Char × Char)) :=
  match name with
  | "digit" => some [('0', '9')]
  | "alpha" => some [('a', 'z'), ('A', 'Z')]
  | "alnum" => some [('a', 'z'), ('A', 'Z'), ('0', '9')]
  | "upper" => some [('A', 'Z')]
  | "lower" => some [('a', 'z')]
  | "space" => some [(' ', ' '), ('\t', '\r')]
  | "blank" => some [(' ', ' '), ('\t', '\t')]
  | "punct" => some [('!', '/'), (':', '@'), ('[', '\x60'), ('\x7b', '~')]
  | "xdigit" => some [('a', 'f'), ('A', 'F'), ('0', '9')]
  | "cntrl" => some [('\x00', '\x1f'), ('\x7f', '\x7f')]
  | "print" => some [(' ', '~')]
  | "graph" => some [('!', '~')]
  | _ => none

/-- The ranges of a class such as `[:digit:]` behind its first bracket, and what stands behind it. -/
def classAt (bs : List (UInt8 × Bool)) :
    Option (List (UInt8 × UInt8) × List (UInt8 × Bool)) :=
  match bs with
  | first :: inner =>
    if !isBare first ':' then none
    else
      let name := inner.takeWhile (·.1 ≠ code ':')
      match inner.drop name.length with
      | _ :: close :: after =>
        if close.1 ≠ code ']' then none
        else (className (String.ofList (name.map fun b => Char.ofNat b.1.toNat))).map fun rs =>
          (rs.map fun (a, b) => (code a, code b), after)
      | _ => none
  | [] => none

/-- The ranges up to the closing bracket, and what stands behind it. A bracket in first place stands
for itself. -/
def ranges : Nat → Bool → List (UInt8 × Bool) →
    Option (List (UInt8 × UInt8) × List (UInt8 × Bool))
  | 0, _, _ => none
  | _ + 1, _, [] => none
  | n + 1, first, b :: bs =>
    if isBare b ']' && !first then some ([], bs)
    else
      match if isBare b '[' then classAt bs else none with
      | some (named, after) => (ranges n false after).map fun (rs, out) => (named ++ rs, out)
      | none =>
        match bs with
        | dash :: upper :: after =>
          if isBare dash '-' && !isBare upper ']' then
            (ranges n false after).map fun (rs, out) => ((b.1, upper.1) :: rs, out)
          else (ranges n false bs).map fun (rs, out) => ((b.1, b.1) :: rs, out)
        | _ => (ranges n false bs).map fun (rs, out) => ((b.1, b.1) :: rs, out)

/-- The pattern that bytes are. -/
def ofBytes : Nat → List (UInt8 × Bool) → List Glob
  | 0, _ => []
  | _ + 1, [] => []
  | n + 1, b :: bs =>
    if isBare b '*' then many :: ofBytes n bs
    else if isBare b '?' then any :: ofBytes n bs
    else if isBare b '[' then
      let (negated, inner) := match bs with
        | x :: rest => if isBare x '!' then (true, rest) else (false, bs)
        | [] => (false, bs)
      match ranges (inner.length + 1) true inner with
      | some (rs, after) => oneOf negated rs :: ofBytes n after
      | none => byte b.1 :: ofBytes n bs
    else byte b.1 :: ofBytes n bs

/-- The pattern that a word is. -/
def ofWord (ms : List Mark) : List Glob :=
  let bs := Mark.bytes (Mark.resolved ms)
  ofBytes (bs.length + 1) bs

/-- Whether the pattern is all of the bytes. -/
def matchesBytes : List Glob → List UInt8 → Bool
  | [], bs => bs.isEmpty
  | many :: gs, bs =>
    let rec skip : List UInt8 → Bool
      | [] => matchesBytes gs []
      | b :: rest => matchesBytes gs (b :: rest) || skip rest
    skip bs
  | any :: gs, _ :: bs => matchesBytes gs bs
  | byte a :: gs, b :: bs => a == b && matchesBytes gs bs
  | oneOf negated rs :: gs, b :: bs =>
    (rs.any (fun (low, high) => low ≤ b && b ≤ high) != negated) && matchesBytes gs bs
  | _, [] => false

/-- Whether the pattern is the whole text. -/
def matchesText (gs : List Glob) (s : String) : Bool := matchesBytes gs (Text.Utf8.bytes s)

/-- The lengths at which a list can be cut so that `p` holds of the part cut off, the one that was
asked for first. -/
def cut (p : Nat → Bool) (size : Nat) (greatest : Bool) : Option Nat :=
  let cuts := (List.range (size + 1)).filter p
  if greatest then cuts.getLast? else cuts.head?

/-- The text without the shortest or longest start that the pattern is. -/
def cutStart (gs : List Glob) (longest : Bool) (s : String) : String :=
  let bs := Text.Utf8.bytes s
  match cut (fun n => matchesBytes gs (bs.take n)) bs.length longest with
  | some n => String.ofList (Text.Utf8.decodeLossy (bs.drop n))
  | none => s

/-- The text without the shortest or longest end that the pattern is. -/
def cutEnd (gs : List Glob) (longest : Bool) (s : String) : String :=
  let bs := Text.Utf8.bytes s
  match cut (fun n => matchesBytes gs (bs.drop n)) bs.length (!longest) with
  | some n => String.ofList (Text.Utf8.decodeLossy (bs.take n))
  | none => s

end Glob

/-! ## Names of files -/

/-- Whether brackets that open before these marks are closed behind at least one of them. -/
def closesBracket (ms : List Mark) : Bool :=
  let inner := match ms with
    | m :: rest => if m.isBare '!' then rest else ms
    | [] => []
  (inner.drop 1).any (·.isBare ']')

/-- Whether a name may stand for several. -/
def isPattern : List Mark → Bool
  | [] => false
  | m :: ms => m.isBare '*' || m.isBare '?' || (m.isBare '[' && closesBracket ms) || isPattern ms

/-- The names in a directory, with those of itself and of the one around it. -/
def namesIn (fs : Files) (place : Location) : List String :=
  "." :: ".." :: (fs.below place).filterMap fun
    | ([name], _) => some name
    | _ => none

/-- The names in a directory that the pattern `ms` stands for; hidden ones only if it starts like
them. -/
def matchingNames (fs : Files) (directory : String) (ms : List Mark) : List String :=
  match fs.find ⟨if directory = "" then "." else directory⟩ with
  | .ok (place, .directory) =>
    let pattern := Glob.ofWord ms
    let hidden := (ms.head?.map (·.char == '.')).getD false
    (namesIn fs place).filter fun name =>
      (hidden || !name.startsWith ".") && Glob.matchesText pattern name
  | _ => []

/-- The paths that the names in a pattern stand for; `shown` is the path up to them and `plain` are
the names since the last pattern. -/
def matchingPaths (fs : Files) (shown : String) (plain : List String) :
    List (List Mark) → List String
  | [] =>
    let path := shown ++ "/".intercalate plain
    if shown ≠ "" && fs.has ⟨path⟩ then [path] else []
  | name :: rest =>
    if isPattern name then
      let directory := shown ++ String.join (plain.map (· ++ "/"))
      (matchingNames fs directory name).flatMap fun found =>
        match rest with
        | [] => [directory ++ found]
        | _ => matchingPaths fs (directory ++ found ++ "/") [] rest
    else matchingPaths fs shown (plain ++ [Mark.text name]) rest

/-- The paths that a word stands for, in order; a pattern that no path matches stands for itself. -/
def expandPaths (fs : Files) (ms : List Mark) : List String :=
  let pattern := Mark.resolved ms
  if isPattern pattern then
    match matchingPaths fs "" [] (Text.splitWhere (fun m : Mark => m.char == '/') pattern) with
    | [] => [Mark.text ms]
    | paths => paths.mergeSort fun a b => decide (a ≤ b)
  else [Mark.text ms]

end BenchSweep.Shell
