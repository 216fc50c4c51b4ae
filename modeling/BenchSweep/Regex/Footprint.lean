import BenchSweep.Regex.Sketch
import BenchSweep.Text.Pieces
import Std.Data.HashMap

/-! The memory of a pattern as an automaton over bytes. Two automata are built, one that reads
forwards and one that reads backwards, and neither may take more than `sizeLimit` bytes. Only the
number of states and their bytes matter, so nothing else is kept of them. -/
set_option autoImplicit false

namespace BenchSweep.Regex

/-- An automaton has at most this many bytes. -/
def sizeLimit : Nat := 10 * Nat.pow 2 20

/-! ## States -/

/-- The automaton built so far: how many states it has and the bytes of all of them. -/
structure Usage where
  states : Nat
  bytes : Nat

/-- Building stops as soon as the limit is exceeded. -/
abbrev Build := StateT Usage Option

/-- The bytes of a state. -/
def stateBytes : Nat := 32

/-- The bytes of each way out of a state that chooses. -/
def wayBytes : Nat := 4

/-- The bytes of each step of a state that takes several ranges. -/
def stepBytes : Nat := 8

def charge (bytes : Nat) : Build Unit := do
  let u ← get
  if sizeLimit < u.bytes + bytes then failure
  set { u with bytes := u.bytes + bytes }

/-- Adds a state with so many bytes beside its own, and gives its number. -/
def addState (extra : Nat) : Build Nat := do
  charge (stateBytes + extra)
  modifyGet fun u => (u.states, { u with states := u.states + 1 })

def addStates : Nat → Build Unit
  | 0 => return
  | count + 1 => do
    let _ ← addState 0
    addStates count

/-! ## States that are shared -/

/-- The states of a class that can be used again, by what they do. There are so many places for
them, and a state loses its place to the next one that belongs there. -/
structure Memo (κ : Type) where
  places : Nat
  held : Std.HashMap Nat (κ × Nat)

def Memo.empty {κ : Type} (places : Nat) : Memo κ := ⟨places, ∅⟩

/-- The number whose remainder tells the place of a key that is written as a row of numbers. -/
def hashOf (row : List Nat) : Nat :=
  (row.foldl (fun h n => (h ^^^ n.toUInt64) * 1099511628211) (14695981039346656037 : UInt64)).toNat

/-- The state for a key: the one in the memo, or a new one with so many bytes beside its own. -/
def Memo.state {κ : Type} [DecidableEq κ] (m : Memo κ) (key : κ) (row : List Nat) (extra : Nat) :
    Build (Nat × Memo κ) := do
  let place := hashOf row % m.places
  match (m.held[place]?).filter (·.1 = key) with
  | some (_, n) => return (n, m)
  | none =>
    let n ← addState extra
    return (n, { m with held := m.held.insert place (key, n) })

/-- A range of bytes that leads to a state. -/
structure Step where
  bounds : Bounds
  next : Nat
deriving DecidableEq

/-! ## Classes, backwards -/

/-- Adds the states for a row of byte ranges: the first leads to `stop`, each other one to the one
before it. -/
def backwardRow (stop : Nat) : List Bounds → Memo Step → Build (Memo Step)
  | [], memo => return memo
  | b :: row, memo => do
    let (n, memo) ← memo.state ⟨b, stop⟩ [stop, b.low, b.high] 0
    backwardRow n row memo

def backwardRows (stop : Nat) : List (List Bounds) → Memo Step → Build Unit
  | [], _ => return
  | row :: rows, memo => do
    let memo ← backwardRow stop row memo
    charge wayBytes
    backwardRows stop rows memo

/-- A choice between the rows of a class. -/
def backwardClass (rows : List (List Bounds)) : Build Unit := do
  let _ ← addState 0
  let stop ← addState 0
  backwardRows stop rows (.empty 1000)

/-! ## Classes, forwards -/

/-- A state that is still open: its finished steps, and the range of the step that leads to the next
open state. -/
structure OpenState where
  steps : List Step
  last : Option Bounds

/-- The steps of an open state whose last range leads to `next`. -/
def OpenState.allSteps (s : OpenState) (next : Nat) : List Step :=
  match s.last with
  | some b => s.steps ++ [⟨b, next⟩]
  | none => s.steps

/-- Closes a chain of open states, the last one first, and gives the number of the first. -/
def closeChain (stop : Nat) : List OpenState → Memo (List Step) → Build (Nat × Memo (List Step))
  | [], memo => return (stop, memo)
  | s :: chain, memo => do
    let (next, memo) ← closeChain stop chain memo
    let steps := s.allSteps next
    let row := steps.flatMap fun step => [step.bounds.low, step.bounds.high, step.next]
    memo.state steps row (stepBytes * steps.length)

/-- Open states for a row of byte ranges. -/
def openRow (row : List Bounds) : List OpenState := row.map fun b => ⟨[], some b⟩

/-- Adds a row to the chain of open states. What the row shares with the chain stays open, the rest
of the chain is closed. -/
def addRow (stop : Nat) : List OpenState → List Bounds → Memo (List Step) →
    Build (List OpenState × Memo (List Step))
  | s :: chain, b :: row, memo => do
    if s.last = some b then
      let (chain, memo) ← addRow stop chain row memo
      return (s :: chain, memo)
    else
      let (next, memo) ← closeChain stop chain memo
      return (⟨s.allSteps next, some b⟩ :: openRow row, memo)
  | _, row, memo => return (openRow row, memo)

/-- Adds the rows in ascending order and closes what is open at the end. -/
def forwardRows (stop : Nat) (chain : List OpenState) :
    List (List Bounds) → Memo (List Step) → Build Unit
  | [], memo => do
    let _ ← closeChain stop chain memo
  | row :: rows, memo => do
    let (chain, memo) ← addRow stop chain row memo
    forwardRows stop chain rows memo

/-- The least automaton for the rows of a class. -/
def forwardClass (rows : List (List Bounds)) : Build Unit := do
  let stop ← addState 0
  forwardRows stop [⟨[], none⟩] rows (.empty 10000)

/-! ## Words -/

/-- What follows each of the bytes that the words begin with. -/
def byFirst (words : List (List Nat)) : List (List (List Nat)) :=
  (words.filterMap List.head?).eraseDups.map fun b =>
    words.filterMap fun w => if w.head? = some b then some w.tail else none

/-- The words between those that end here. Of words that end before all others one counts. -/
def chunks (words : List (List Nat)) : List (List (List Nat)) :=
  let rest := words.dropWhile List.isEmpty
  if rest.length = words.length then Text.splitWhere List.isEmpty rest
  else [] :: Text.splitWhere List.isEmpty rest

/-- Adds the states behind a common start of words, `fuel` bytes deep. -/
def addWords : Nat → List (List Nat) → Build Unit
  | 0, _ => return
  | fuel + 1, words => do
    if words.all List.isEmpty then return
    let parts := chunks words
    for part in parts do
      let groups := byFirst part
      for group in groups do addWords fuel group
      match groups.length with
      | 0 => pure ()
      | 1 => addStates 1
      | n => let _ ← addState (stepBytes * n)
    let _ ← addState (wayBytes * ((parts.filter (!·.isEmpty)).length + (parts.length - 1)))

/-! ## Patterns

A pattern is built with the bytes of going on behind it as the result: those of a way out if it ends
in a state that chooses, and none otherwise. -/

/-- More copies of a body, one behind the other. -/
def addMore (body : Build Nat) (leaving : Nat) : Nat → Build Nat
  | 0 => return leaving
  | count + 1 => do
    let next ← body
    charge leaving
    addMore body next count

def addCopies (body : Build Nat) (count : Nat) : Build Nat := do
  match count with
  | 0 =>
    addStates 1
    return 0
  | count + 1 => addMore body (← body) count

/-- More copies of a body, each of which can be left out together with those behind it. -/
def addOptional (body : Build Nat) (leaving : Nat) : Nat → Build Nat
  | 0 => return leaving
  | count + 1 => do
    addStates 1
    let next ← body
    charge (leaving + 2 * wayBytes)
    addOptional body next count

/-- Between `least` and `most` copies of a body. -/
def addBounded (body : Build Nat) (least most : Nat) : Build Nat := do
  if least = 0 ∧ most = 1 then
    addStates 1
    let leaving ← body
    addStates 1
    charge (leaving + 2 * wayBytes)
    return 0
  else
    let leaving ← addCopies body least
    if most = least then return leaving
    addStates 1
    charge (← addOptional body leaving (most - least))
    return 0

/-- At least so many copies of a body. -/
def addUnbounded (body : Build Nat) (least : Nat) (mayBeEmpty : Bool) : Build Nat := do
  match least with
  | 0 =>
    if mayBeEmpty then
      let leaving ← body
      addStates 3
      charge (leaving + 4 * wayBytes)
      return 0
    else
      addStates 1
      charge ((← body) + wayBytes)
      return wayBytes
  | 1 =>
    let leaving ← body
    addStates 1
    charge (leaving + wayBytes)
    return wayBytes
  | least + 2 =>
    let leaving ← addCopies body (least + 1)
    let last ← body
    addStates 1
    charge (leaving + last + wayBytes)
    return wayBytes

namespace Sketch

/-- Joins one more alternative to those before it. The state that chooses and the one where all meet
come behind the second alternative. -/
def join (second : Bool) (leaving : Nat) : Build Unit := do
  if second then
    addStates 2
    charge wayBytes
  charge (leaving + wayBytes)

mutual

def build : Sketch → Build Nat
  | states count => do
    addStates count
    return 0
  | branch ranges => do
    addStates 1
    let _ ← addState (stepBytes * ranges)
    return 0
  | backwardRows rows => do
    backwardClass rows
    return 0
  | forwardRows rows => do
    forwardClass rows
    return 0
  | words ws => do
    addStates 1
    addWords ((ws.map List.length).foldl (· + ·) 1) ws
    return 0
  | chain a b => do
    charge (← a.build)
    b.build
  | choice a b => do
    let leaving ← a.build
    b.buildOthers true leaving
    return 0
  | repetition body least most mayBeEmpty =>
    match most with
    | some most => addBounded body.build least most
    | none => addUnbounded body.build least mayBeEmpty
  | noted body => do
    addStates 1
    let leaving ← body.build
    addStates 1
    charge leaving
    return 0

/-- Builds the alternatives behind the first one, behind which going on takes `leaving` bytes. -/
def buildOthers (second : Bool) (leaving : Nat) : Sketch → Build Unit
  | choice a b => do
    let next ← a.build
    join second (leaving + next)
    b.buildOthers false 0
  | s => do
    let next ← s.build
    join second (leaving + next)

end

end Sketch

/-- The automaton of a whole pattern: a way to skip the text before a match unless that is held at
the end of the text, the pattern, and a state that accepts. -/
def Node.build (backwards : Bool) (n : Node) : Build Unit := do
  if n.isHeld backwards then addStates 1
  else
    addStates 2
    let _ ← addState stepBytes
    charge (2 * wayBytes)
  let s := n.sketch backwards
  charge (← (if backwards then s else s.noted).build)
  addStates 1

/-- Whether both automata of a pattern keep to the limit. -/
def Node.fits (n : Node) : Bool :=
  [false, true].all fun backwards => ((n.build backwards).run ⟨0, 0⟩).isSome

end BenchSweep.Regex
