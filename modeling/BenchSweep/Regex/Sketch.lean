import BenchSweep.Regex.Alternation
import BenchSweep.Regex.ByteRanges

/-! What the automaton of a pattern is made of when it reads the bytes of UTF-8, forwards or
backwards. Classes are rows of byte ranges, and alternatives that are words stand together. -/
set_option autoImplicit false

namespace BenchSweep.Regex

inductive Sketch where
  /-- So many states in a row that take one range of bytes each or none. -/
  | states (count : Nat)
  /-- A choice between so many bytes or ranges of them. -/
  | branch (ranges : Nat)
  /-- A class, each row read from its last byte to its first. -/
  | backwardRows (rows : List (List Bounds))
  /-- A class, each row read from its first byte to its last. -/
  | forwardRows (rows : List (List Bounds))
  /-- A choice between words. -/
  | words (words : List (List Nat))
  | chain (first second : Sketch)
  | choice (first second : Sketch)
  | repetition (body : Sketch) (least : Nat) (most : Option Nat) (mayBeEmpty : Bool)
  /-- A part of the text whose two ends are noted. -/
  | noted (body : Sketch)

/-- The bytes of a pattern that is a text, if it is one. -/
def Node.bytes? : Node → Option (List Nat)
  | .char set => set.only?.map encoding
  | .concat a b => return (← a.bytes?) ++ (← b.bytes?)
  | _ => none

/-- The words that a pattern chooses from, if it consists of words. -/
def Node.words? (n : Node) : Option (List (List Nat)) := n.choices.mapM Node.bytes?

def CharClass.sketch (backwards : Bool) (set : CharClass) : Sketch :=
  match set.only? with
  | some n => .states (encoding n).length
  | none =>
    if (set \ .ascii).isEmpty then .branch set.ranges.length
    else
      let rows := set.ranges.flatMap fun r => byteRows r.1 r.2
      if backwards then .backwardRows rows else .forwardRows rows

/-- The sketch of a pattern. Backwards nothing is noted. -/
def Node.sketch (backwards : Bool) : Node → Sketch
  | .empty => .states 1
  | .char set => set.sketch backwards
  | .anchor _ => .states 1
  | .concat a b =>
    if backwards then .chain (b.sketch backwards) (a.sketch backwards)
    else .chain (a.sketch backwards) (b.sketch backwards)
  | .alternate a b =>
    match (Node.alternate a b).words? with
    | some ws => .words (if backwards then ws.map List.reverse else ws)
    | none => .choice (a.sketch backwards) (sketchOthers b)
  | .repetition body least most _ =>
    .repetition (body.sketch backwards) least most (body.minLength = 0)
  | .group _ body => if backwards then body.sketch backwards else .noted (body.sketch backwards)
where
  /-- The alternatives behind the first one, words among them or not. -/
  sketchOthers : Node → Sketch
    | .alternate a b => .choice (a.sketch backwards) (sketchOthers b)
    | n => n.sketch backwards

/-- Whether every match begins at the start of the text, or backwards, ends at its end. -/
def Node.isHeld (backwards : Bool) : Node → Bool
  | .anchor a => a = (if backwards then .textEnd else .textStart)
  | .concat a b =>
    if backwards then b.isHeld backwards || (b.isWidthless && a.isHeld backwards)
    else a.isHeld backwards || (a.isWidthless && b.isHeld backwards)
  | .alternate a b => a.isHeld backwards && b.isHeld backwards
  | .repetition body least _ _ => 0 < least && body.isHeld backwards
  | .group _ body => body.isHeld backwards
  | _ => false

end BenchSweep.Regex
