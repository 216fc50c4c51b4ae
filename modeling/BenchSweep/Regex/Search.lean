import BenchSweep.Regex.Fault
import BenchSweep.Regex.Footprint
import BenchSweep.Regex.Parser
import BenchSweep.Regex.Program

/-! Search for the matches of a pattern in a text, from the left and without overlap. At each place
of the text the threads of the program stand in order of preference, at most one at each
instruction, so a search takes no more than the product of the two lengths. -/
set_option autoImplicit false

namespace BenchSweep.Regex

/-- Where a match or a part of one stands: from `start` up to `stop`. -/
structure Span where
  start : Nat
  stop : Nat
deriving DecidableEq

/-- What a thread has noted: where its match began, where group 1 began, and the last whole group
1. -/
structure Notes where
  start : Nat
  groupStart : Nat
  group : Option Span

structure Thread where
  place : Nat
  notes : Notes

/-- A match and what its group 1 matched. -/
structure Match where
  whole : Span
  group : Option Span

/-- The threads that stand at one place of the text, the preferred ones first, with the
instructions that are taken. -/
structure Front where
  seen : Array Bool
  threads : Array Thread

def Front.empty (p : Program) : Front := ⟨Array.replicate p.code.size false, #[]⟩

/-- Follows the instructions that take no character, in order of preference. Each instruction is
visited once; the threads stop at those that take a character or accept. -/
def follow (p : Program) (at_ : Nat) (before after : Option Char) :
    Nat → List Thread → Front → Front
  | 0, _, front => front
  | _, [], front => front
  | fuel + 1, t :: stack, front =>
    if front.seen.getD t.place true then follow p at_ before after fuel stack front
    else
      let seen := front.seen.setIfInBounds t.place true
      let go (ts : List Thread) := follow p at_ before after fuel (ts ++ stack) ⟨seen, front.threads⟩
      match p.instruction? t.place with
      | none => go []
      | some (.choose first second) => go [⟨first, t.notes⟩, ⟨second, t.notes⟩]
      | some (.check anchor next) => go (if anchor.holds before after then [⟨next, t.notes⟩] else [])
      | some (.groupStart next) => go [⟨next, { t.notes with groupStart := at_ }⟩]
      | some (.groupEnd next) =>
        go [⟨next, { t.notes with group := some ⟨t.notes.groupStart, at_⟩ }⟩]
      | some _ =>
        follow p at_ before after fuel stack ⟨seen, front.threads.push t⟩

/-- Enough rounds to visit every instruction. -/
def followFuel (p : Program) : Nat := 4 * p.code.size + 4

/-- The threads before the first one that accepts, and the match of that one. -/
def settle (p : Program) (at_ : Nat) : List Thread → List Thread × Option Match
  | [] => ([], none)
  | t :: ts =>
    match p.instruction? t.place with
    | some .accept => ([], some ⟨⟨t.notes.start, at_⟩, t.notes.group⟩)
    | _ =>
      let (kept, found) := settle p at_ ts
      (t :: kept, found)

/-- The threads that go on after the character `c`. -/
def advance (p : Program) (c : Char) (ts : List Thread) : List Thread :=
  ts.filterMap fun t =>
    match p.instruction? t.place with
    | some (.take set next) => if set.contains c then some ⟨next, t.notes⟩ else none
    | _ => none

/-- The first match that begins in the text, `found` being the best one so far. `ts` are the threads
that come to this place; as long as nothing is found a new one begins here. -/
def searchFrom (p : Program) (at_ : Nat) (before : Option Char) (ts : List Thread)
    (found : Option Match) : List Char → Option Match
  | [] =>
    let front := front none
    (settle p at_ front.threads.toList).2 <|> found
  | c :: rest =>
    if ts.isEmpty && found.isSome then found
    else
      let (kept, better) := settle p at_ (front (some c)).threads.toList
      searchFrom p (at_ + 1) (some c) (advance p c kept) (better <|> found) rest
where
  front (after : Option Char) : Front :=
    let entry := if found.isNone then [⟨p.start, ⟨at_, 0, none⟩⟩] else []
    (ts ++ entry).foldl (fun f t => follow p at_ before after (followFuel p) [t] f) (Front.empty p)

/-- A place in a text: how many characters stand before it, the last of them, and those behind. -/
structure Cursor where
  index : Nat
  before : Option Char
  rest : List Char

def Cursor.forward (c : Cursor) (n : Nat) : Cursor :=
  match n with
  | 0 => c
  | n + 1 => ⟨c.index + n + 1, (c.rest[n]?) <|> c.before, c.rest.drop (n + 1)⟩

def searchAt (p : Program) (c : Cursor) : Option Match :=
  searchFrom p c.index c.before [] none c.rest

/-- The matches from the cursor on. An empty match right behind the last match does not count; the
search goes on one character later. -/
def matchesFrom (p : Program) : Nat → Cursor → Option Nat → List Match
  | 0, _, _ => []
  | fuel + 1, cursor, lastStop =>
    let next : Option Match :=
      match searchAt p cursor with
      | none => none
      | some m =>
        if m.whole.start = m.whole.stop && some m.whole.stop = lastStop then
          if cursor.rest.isEmpty then none else searchAt p (cursor.forward 1)
        else some m
    match next with
    | none => []
    | some m =>
      m :: matchesFrom p fuel (cursor.forward (m.whole.stop - cursor.index)) (some m.whole.stop)

/-- All matches in the text, from the left. -/
def Program.allMatches (p : Program) (text : List Char) : List Match :=
  matchesFrom p (text.length + 2) ⟨0, none, text⟩ none

/-- The part of the text that a span covers. -/
def Span.of (s : Span) (text : List Char) : List Char := (text.drop s.start).take (s.stop - s.start)

/-- What a match of the pattern gives: its group 1 if the pattern has groups, or else the whole
match. -/
def Program.samplePart (p : Program) (m : Match) : Option Span :=
  if p.groups = 0 then some m.whole else m.group

/-- The program of a pattern, if its text is one and it is not too large. -/
def compile (text : String) : Except Fault Program :=
  match parse? text with
  | none => .error .malformed
  | some n => if n.fits then .ok n.program else .error (.tooLarge sizeLimit)

end BenchSweep.Regex
