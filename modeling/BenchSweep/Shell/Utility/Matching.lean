import BenchSweep.Regex.Search
import BenchSweep.Shell.Utility.Lines

/-! Programs that search lines for patterns. A pattern of these programs is put into the notation of
`Regex`, in which groups and repetitions need no backslash. -/
set_option autoImplicit false

namespace BenchSweep.Shell.Utility

/-! ## Patterns -/

/-- A character that stands for itself. -/
def literal (c : Char) : List Char :=
  if c.isAlphanum || 0x80 ≤ c.toNat || c == ' ' || c == '\t' || c == '_' || c == '\n' then [c]
  else ['\\', c]

/-- What stands between brackets, behind the first of them, and the text behind. -/
def bracketed : Nat → (first : Bool) → List Char → Option (List Char × List Char)
  | 0, _, _ => none
  | _ + 1, _, [] => none
  | n + 1, first, c :: cs =>
    let put (here : List Char) (rest : List Char) : Option (List Char × List Char) :=
      (bracketed n false rest).map fun (more, after) => (here ++ more, after)
    if c == ']' && !first then some ([']'], cs)
    else if c == '[' && cs.head? = some ':' then
      let name := (cs.drop 1).takeWhile Char.isAlpha
      match cs.drop (name.length + 1) with
      | ':' :: ']' :: rest => put (['[', ':'] ++ name ++ [':', ']']) rest
      | _ => put ['\\', '['] cs
    else if c == '-' then
      put (if first || cs.head? = some ']' then ['\\', '-'] else ['-']) cs
    else if ['\\', '[', ']', '&', '~', '^'].contains c then put ['\\', c] cs
    else put [c] cs

/-- A pattern in the other notation. `fresh` tells that an expression starts, so that a star stands for
itself. -/
def translated (extended : Bool) : Nat → (fresh : Bool) → List Char → Option (List Char)
  | 0, _, _ => none
  | _ + 1, _, [] => some []
  | n + 1, fresh, c :: cs =>
    let put (here : List Char) (fresh : Bool) (rest : List Char) : Option (List Char) :=
      (translated extended n fresh rest).map (here ++ ·)
    let operators := ['(', ')', '\x7b', '\x7d', '|', '+', '?']
    match c, cs with
    | '[', _ =>
      let (negated, inner) := match cs with
        | '^' :: rest => (true, rest)
        | _ => (false, cs)
      match bracketed (inner.length + 1) true inner with
      | some (body, rest) => put ('[' :: (if negated then ['^'] else []) ++ body) false rest
      | none => none
    | '\\', [] => none
    | '\\', d :: rest =>
      if operators.contains d then
        if extended then put ['\\', d] false rest
        else put (if d == '\x7d' then ['\x7d'] else [d]) (d == '(' || d == '|') rest
      else if d == '<' || d == '>' then put ['\\', 'b'] false rest
      else if ['w', 'W', 's', 'S', 'b', 'B', 'n', 't'].contains d then put ['\\', d] false rest
      else if d.isDigit then none
      else put (literal d) false rest
    | '*', _ => if fresh then put ['\\', '*'] false cs else put ['*'] false cs
    | '^', _ => if fresh || extended then put ['^'] true cs else put ['\\', '^'] false cs
    | '$', _ =>
      let ends := cs.isEmpty || extended || (cs.take 2 = ['\\', ')']) || (cs.take 2 = ['\\', '|'])
      put (if ends then ['$'] else ['\\', '$']) false cs
    | '.', _ => put ['.'] false cs
    | _, _ =>
      if operators.contains c then
        if extended then put [c] (c == '(' || c == '|') cs else put ['\\', c] false cs
      else put (literal c) false cs

/-- How a pattern is written. -/
inductive Notation_ where
  | basic
  | extended
  | fixed
deriving DecidableEq

/-- The program of a pattern, if it is one; `around` puts something around it. -/
def compiled (kind : Notation_) (ignoreCase : Bool) (around : List Char → List Char) (pattern : String) :
    Option Regex.Program :=
  let cs := pattern.toList
  let body := match kind with
    | .fixed => some (cs.flatMap literal)
    | .basic => translated false (cs.length + 1) true cs
    | .extended => translated true (cs.length + 1) true cs
  body.bind fun body =>
    let case := if ignoreCase then ['(', '?', 'i', ')'] else []
    match Regex.compile (String.ofList (case ++ around body)) with
    | .ok program => some program
    | .error _ => none

/-! ## Programs -/

/-- What a pattern finds at the start of a text: its group, or how many bytes it takes. -/
def matchAtStart (text pattern : String) : Option String :=
  (compiled .basic false (fun body => ['^', '(', '?', ':'] ++ body ++ [')']) pattern).map fun p =>
    match p.allMatches text.toList with
    | m :: _ =>
      if p.groups = 0 then
        String.ofList (Decimal.digits (Text.Utf8.encode (m.whole.of text.toList)).length)
      else ((m.group.map fun g => String.ofList (g.of text.toList)).getD "")
    | [] => if p.groups = 0 then "0" else ""

def expr : Utility := fun args => do
  match if args.head? = some "--" then args.drop 1 else args with
  | [] => misuse 2 "missing operand"
  | args =>
    match exprValue matchAtStart args with
    | .ok value =>
      emitLine value
      return if ExprReader.isNull value then 1 else 0
    | .error e =>
      fault e.message
      return 2

/-- What `grep` looks for and what it tells. -/
structure Grep where
  options : Options
  patterns : List Regex.Program
  /-- Whether the names of files are told. -/
  named : Bool

namespace Grep

/-- The matches in a line. -/
def found (g : Grep) (line : List Char) : List Regex.Match :=
  g.patterns.flatMap (·.allMatches line)

def selects (g : Grep) (line : List UInt8) : Bool :=
  !(g.found (Text.Utf8.decodeLossy line)).isEmpty != g.options.has 'v'

/-- A number that an option gives. -/
def number (g : Grep) (c : Char) : Option Nat :=
  (g.options.value? c).bind fun v => amount? v.toList

/-- The lines of a file that are shown: those that were found, and those around them. -/
def shownLines (g : Grep) (ls : List (List UInt8 × Nat)) (hits : List Nat) :
    List (List UInt8 × Nat × Bool) :=
  let around := g.number 'C'
  let before := ((g.number 'B').or around).getD 0
  let behind := ((g.number 'A').or around).getD 0
  ls.filterMap fun (l, i) =>
    if hits.contains i then some (l, i, true)
    else if hits.any fun h => (i < h && h ≤ i + before) || (h < i && i ≤ h + behind) then
      some (l, i, false)
    else none

/-- Shows the lines of a file. -/
def tell (g : Grep) (path : String) (ls : List (List UInt8 × Nat)) (hits : List Nat) : Act Unit := do
  let o := g.options
  let label := if path = "-" then "(standard input)" else path
  let shown := if o.has 'o' then (ls.filter fun (_, i) => hits.contains i).map fun (l, i) => (l, i, true)
    else g.shownLines ls hits
  let grouped := (g.number 'A').isSome || (g.number 'B').isSome || (g.number 'C').isSome
  let _ ← shown.foldlM (fun (last : Option Nat) (line, i, hit) => do
    if grouped && last.any (· + 1 < i) then emitLine "--"
    let mark := if hit then ":" else "-"
    let name := if g.named then label ++ mark else ""
    let number := if o.has 'n' then String.ofList (Decimal.digits (i + 1)) ++ mark else ""
    let front := Text.Utf8.bytes (name ++ number)
    if o.has 'o' then
      if !o.has 'v' then
        let text := Text.Utf8.decodeLossy line
        (g.found text).forM fun m =>
          if m.whole.start = m.whole.stop then pure ()
          else Act.emit (front ++ Text.Utf8.encode (m.whole.of text) ++ [0x0A])
    else Act.emit (front ++ line ++ [0x0A])
    return some i) none

/-- Searches one file; gives the status so far and whether something was found. -/
def search (g : Grep) (path : String) (bytes : List UInt8) : Act Bool := do
  let o := g.options
  let label := if path = "-" then "(standard input)" else path
  let ls := (byteLines bytes).zipIdx
  let hits := (ls.filter fun (l, _) => g.selects l).map Prod.snd
  let hits := hits.take ((g.number 'm').getD hits.length)
  if o.has 'q' then pure ()
  else if o.has 'c' then
    let name := if g.named then label ++ ":" else ""
    emitLine (name ++ String.ofList (Decimal.digits hits.length))
  else if o.has 'l' then
    if !hits.isEmpty then emitLine label
  else if o.has 'L' then
    if hits.isEmpty then emitLine label
  else if bytes.contains 0 && !o.has 'a' then
    if !hits.isEmpty then emitLine s!"{← name}: {label}: binary file matches"
  else g.tell path ls hits
  return !hits.isEmpty

end Grep

def grepOptions : List Known :=
  [flag 'E' "extended-regexp", flag 'F' "fixed-strings", flag 'G' "basic-regexp",
    flag 'P' "perl-regexp", valued 'e' "regexp", valued 'f' "file", flag 'i' "ignore-case",
    flag 'y' "", flag 'w' "word-regexp", flag 'x' "line-regexp", flag 'v' "invert-match",
    flag 's' "no-messages", flag 'n' "line-number", flag 'h' "no-filename", flag 'H' "with-filename",
    flag 'o' "only-matching", flag 'q' "quiet", flag 'q' "silent", flag 'a' "text",
    flag 'L' "files-without-match", flag 'l' "files-with-matches", flag 'c' "count",
    valued 'm' "max-count", valued 'A' "after-context", valued 'B' "before-context",
    valued 'C' "context", flag 'r' "recursive", ⟨'?', "color", .optional⟩]

def grep : Utility := fun args => do
  match scanOptions grepOptions false (args.length + 1) args with
  | .error message =>
    fault message
    Act.complain "Usage: grep [OPTION]... PATTERNS [FILE]..."
    Act.complain "Try 'grep --help' for more information."
    return 2
  | .ok (found, rest) =>
    let o : Options := ⟨found⟩
    let given := found.filterMap fun (c, v) => if c = 'e' then v else none
    let patterns := if given.isEmpty then rest.take 1 else given
    let paths := if given.isEmpty then rest.drop 1 else rest
    if patterns.isEmpty then
      Act.complain "Usage: grep [OPTION]... PATTERNS [FILE]..."
      Act.complain "Try 'grep --help' for more information."
      return 2
    else
      let kind := match o.last? ['E', 'F', 'G', 'P'] with
        | some 'E' => Notation_.extended
        | some 'P' => .extended
        | some 'F' => .fixed
        | _ => .basic
      let around (body : List Char) : List Char :=
        if o.has 'x' then ['^', '(', '?', ':'] ++ body ++ [')', '$']
        else if o.has 'w' then ['\\', 'b', '(', '?', ':'] ++ body ++ [')', '\\', 'b']
        else body
      let texts := (patterns.flatMap fun p => Text.splitWhere (· == '\n') p.toList).map String.ofList
      match texts.mapM (compiled kind (o.has 'i' || o.has 'y') around) with
      | none =>
        fault "Invalid regular expression"
        return 2
      | some programs =>
        let named := !o.has 'h' && (o.has 'H' || 1 < paths.length)
        let g : Grep := ⟨o, programs, named⟩
        let (failed, hit) ← (if paths.isEmpty then ["-"] else paths).foldlM
          (fun (failed, hit) path => do
            match ← contentOf path with
            | .ok bytes => return (failed, (← g.search path bytes) || hit)
            | .error t =>
              let label := if path = "-" then "(standard input)" else path
              if !o.has 's' then fault s!"{label}: {t.reason}"
              return (true, hit)) (false, false)
        return if hit && o.has 'q' then 0 else if failed then 2 else if hit then 0 else 1

end BenchSweep.Shell.Utility
