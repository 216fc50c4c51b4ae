import BenchSweep.Text.Pieces

/-! Sets of code points, kept as the ascending numbers at which membership changes: a number
belongs to the set iff an odd count of them is not above it. Sets are combined turn by turn, and the
tables of the character properties are written as texts (`CodePoints.ofText`). -/
set_option autoImplicit false

namespace BenchSweep.Text

structure CodePoints where
  turns : Array Nat
deriving DecidableEq, BEq, Inhabited

namespace CodePoints

/-! ## Membership -/

/-- How many of the ascending `turns` from place `lo` up to `hi` are not above `n`, `lo` added. -/
def rank (turns : Array Nat) (n lo hi : Nat) : Nat :=
  if h : lo < hi then
    let mid := (lo + hi) / 2
    if (turns[mid]?.getD 0) ≤ n then rank turns n (mid + 1) hi else rank turns n lo mid
  else lo
termination_by hi - lo

def holds (s : CodePoints) (n : Nat) : Bool := rank s.turns n 0 s.turns.size % 2 == 1

def contains (s : CodePoints) (c : Char) : Bool := s.holds c.toNat

/-! ## Ranges -/

instance : EmptyCollection CodePoints := ⟨⟨#[]⟩⟩

def isEmpty (s : CodePoints) : Bool := s.turns.isEmpty

/-- The numbers from `low` to `high`. -/
def range (low high : Nat) : CodePoints := if low ≤ high then ⟨#[low, high + 1]⟩ else ∅

def single (c : Char) : CodePoints := range c.toNat c.toNat

/-- The numbers of an ascending list without repetition. -/
def ofAscending : List Nat → CodePoints := fun ns => ⟨(joined ns).toArray⟩
where
  /-- Neighbours share a range, so a turn up that meets the turn down before it cancels it. -/
  joined : List Nat → List Nat
    | [] => []
    | n :: ns =>
      match joined ns with
      | [] => [n, n + 1]
      | m :: ms => if m = n + 1 then n :: ms else n :: (n + 1) :: m :: ms

/-- The maximal ranges of a set, both ends included. -/
def ranges (s : CodePoints) : List (Nat × Nat) := pairs s.turns.toList
where
  pairs : List Nat → List (Nat × Nat)
    | a :: b :: rest => (a, b - 1) :: pairs rest
    | _ => []

/-- The only member of a set that has just one. -/
def only? (s : CodePoints) : Option Nat :=
  match s.turns.toList with
  | [a, b] => if b = a + 1 then some a else none
  | _ => none

/-! ## Combinations -/

/-- Puts the turn at `n` before the others if membership changes there. -/
def turnIf (changes : Bool) (n : Nat) (rest : List Nat) : List Nat :=
  if changes then n :: rest else rest

/-- The turns of the set that `op` makes of two sets. `inA` and `inB` tell the membership in the two
below the turns that are left. -/
def combineTurns (op : Bool → Bool → Bool) (inA inB : Bool) : List Nat → List Nat → List Nat
  | [], [] => []
  | a :: as, [] =>
    turnIf (op inA inB != op (!inA) inB) a (combineTurns op (!inA) inB as [])
  | [], b :: bs =>
    turnIf (op inA inB != op inA (!inB)) b (combineTurns op inA (!inB) [] bs)
  | a :: as, b :: bs =>
    if a < b then
      turnIf (op inA inB != op (!inA) inB) a (combineTurns op (!inA) inB as (b :: bs))
    else if b < a then
      turnIf (op inA inB != op inA (!inB)) b (combineTurns op inA (!inB) (a :: as) bs)
    else
      turnIf (op inA inB != op (!inA) (!inB)) a (combineTurns op (!inA) (!inB) as bs)
termination_by as bs => as.length + bs.length

/-- The set of the numbers whose membership in `a` and `b` satisfies `op`, which holds of no number
that is in neither. -/
def combine (op : Bool → Bool → Bool) (a b : CodePoints) : CodePoints :=
  ⟨(combineTurns op false false a.turns.toList b.turns.toList).toArray⟩

instance : Union CodePoints := ⟨combine (· || ·)⟩

instance : Inter CodePoints := ⟨combine (· && ·)⟩

instance : SDiff CodePoints := ⟨combine fun inA inB => inA && !inB⟩

/-- The members of exactly one of the two sets. -/
def symmetricDifference (a b : CodePoints) : CodePoints := combine (· != ·) a b

def unions (sets : List CodePoints) : CodePoints := sets.foldr (· ∪ ·) ∅

/-- All characters: every code point but the surrogates. -/
def scalars : CodePoints := ⟨#[0, 0xD800, 0xE000, 0x110000]⟩

/-- The characters outside of the set. -/
def complement (s : CodePoints) : CodePoints := scalars \ s

/-! ## Tables -/

/-- The value of a hexadecimal digit in capitals. -/
def digitValue (c : Char) : Nat := if c ≤ '9' then c.toNat - 48 else c.toNat - 55

def number (digits : List Char) : Nat := digits.foldl (fun n c => 16 * n + digitValue c) 0

/-- The turns of one entry of a table: a number, a range `A-B`, or `A-B/2` for every second number
of a range. -/
def entryTurns (entry : List Char) : List Nat :=
  match splitOnce '-' entry with
  | none =>
    let n := number entry
    [n, n + 1]
  | some (first, last) =>
    let low := number first
    match splitOnce '/' last with
    | none => [low, number last + 1]
    | some (last, _) =>
      (List.range ((number last - low) / 2 + 1)).flatMap fun i => [low + 2 * i, low + 2 * i + 1]

/-- A set from the text of its table: ascending entries in hexadecimal, between blanks or ends of
lines, no two of which touch. -/
def ofText (table : String) : CodePoints :=
  let entries := (splitWhere (fun c => c = ' ' || c = '\n') table.toList).filter (!·.isEmpty)
  ⟨(entries.flatMap entryTurns).toArray⟩

end CodePoints

end BenchSweep.Text
