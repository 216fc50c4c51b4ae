import BenchSweep.Regex.Syntax

/-! Patterns as programs for a machine that tries all choices at once. A program is a list of
instructions; each names the places where its matches go on. -/
set_option autoImplicit false

namespace BenchSweep.Regex

inductive Instruction where
  /-- Takes one character of the class. -/
  | take (set : CharClass) (next : Nat)
  | check (anchor : Anchor) (next : Nat)
  /-- Goes on at both places, the first one before the second. -/
  | choose (first second : Nat)
  /-- Notes the place in the text where group 1 begins. -/
  | groupStart (next : Nat)
  | groupEnd (next : Nat)
  | accept

abbrev Code := Array Instruction

/-- Adds an instruction and gives its place. -/
def Code.emit (code : Code) (i : Instruction) : Nat × Code := (code.size, code.push i)

/-- A choice between going on and stopping, in the order of a greedy or a lazy repetition. -/
def choice (greedy : Bool) (goOn stop : Nat) : Instruction :=
  if greedy then .choose goOn stop else .choose stop goOn

/-- `count` copies of a body before `next`. -/
def copies (body : Nat → Code → Nat × Code) : Nat → Nat → Code → Nat × Code
  | 0, next, code => (next, code)
  | count + 1, next, code =>
    let (start, code) := body next code
    copies body count start code

/-- Up to `count` copies of a body before `next`, each with a way out to `out`. -/
def optionalCopies (body : Nat → Code → Nat × Code) (greedy : Bool) (out : Nat) :
    Nat → Nat → Code → Nat × Code
  | 0, next, code => (next, code)
  | count + 1, next, code =>
    let (start, code) := body next code
    let (fork, code) := code.emit (choice greedy start out)
    optionalCopies body greedy out count fork code

/-- One or more rounds of a body: the place where the first begins, and the fork behind each. -/
def rounds (body : Nat → Code → Nat × Code) (greedy : Bool) (next : Nat) (code : Code) :
    Nat × Nat × Code :=
  let (fork, code) := code.emit .accept
  let (start, code) := body fork code
  (start, fork, code.setIfInBounds fork (choice greedy start next))

/-- The instructions of a pattern that go on at `next`, added to `code`, and where they begin. -/
def Node.compile : Node → Nat → Code → Nat × Code
  | .empty, next, code => (next, code)
  | .char set, next, code => code.emit (.take set next)
  | .anchor a, next, code => code.emit (.check a next)
  | .concat a b, next, code =>
    let (middle, code) := b.compile next code
    a.compile middle code
  | .alternate a b, next, code =>
    let (first, code) := a.compile next code
    let (second, code) := b.compile next code
    code.emit (.choose first second)
  | .repetition body least (some most) greedy, next, code =>
    let (start, code) := optionalCopies body.compile greedy next (most - least) next code
    copies body.compile least start code
  | .repetition body 0 none greedy, next, code =>
    let (start, fork, code) := rounds body.compile greedy next code
    if body.minLength = 0 then code.emit (choice greedy start next) else (fork, code)
  | .repetition body (least + 1) none greedy, next, code =>
    let (start, _, code) := rounds body.compile greedy next code
    copies body.compile least start code
  | .group index body, next, code =>
    if index = 1 then
      let (stop, code) := code.emit (.groupEnd next)
      let (start, code) := body.compile stop code
      code.emit (.groupStart start)
    else body.compile next code

/-- A pattern ready to search with. -/
structure Program where
  code : Code
  start : Nat
  groups : Nat

/-- The instruction at a place. -/
def Program.instruction? (p : Program) (place : Nat) : Option Instruction := p.code[place]?

def Node.program (n : Node) : Program :=
  let (stop, code) := Code.emit #[] .accept
  let (start, code) := n.compile stop code
  ⟨code, start, n.groupCount⟩

end BenchSweep.Regex
