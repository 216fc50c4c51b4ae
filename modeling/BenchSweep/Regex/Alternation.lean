import BenchSweep.Regex.Syntax

/-! Alternatives, written in a short form that tries the same choices in the same order: those that
are single characters become one class, and what all of them begin with is taken out in front. -/
set_option autoImplicit false

namespace BenchSweep.Regex.Node

/-- The alternatives of a pattern in order. -/
def choices : Node → List Node
  | alternate a b => a.choices ++ b.choices
  | n => [n]

def ofChoices : List Node → Node
  | [] => char ∅
  | [n] => n
  | n :: ns => alternate n (ofChoices ns)

/-- The class that a pattern consists of, if it is a class or a character. -/
def class? : Node → Option CharClass
  | char set => some set
  | _ => none

/-- Whether a pattern is one character. -/
def isLetter (n : Node) : Bool := n.class?.any (·.only?.isSome)

/-- The parts of a pattern, characters in a row taken together. -/
def units (n : Node) : List (List Node) := n.parts.splitBy fun a b => a.isLetter && b.isLetter

/-- What two lists begin with together. -/
def commonStart {α : Type} [DecidableEq α] : List α → List α → List α
  | a :: as, b :: bs => if a = b then a :: commonStart as bs else []
  | _, _ => []

/-- What all alternatives begin with, if each of them has more than one unit. -/
def sharedUnits (ns : List Node) : List (List Node) :=
  let lists := ns.map units
  match lists with
  | [] => []
  | first :: rest =>
    if lists.all (1 < ·.length) then rest.foldl commonStart first else []

/-- One pattern for the alternatives. After `fuel` common starts no more are taken out. -/
def alternation (fuel : Nat) (ns : List Node) : Node :=
  let ns := ns.flatMap choices
  match ns with
  | [] => char ∅
  | [n] => n
  | _ =>
    match ns.mapM class? with
    | some sets => char (.unions sets)
    | none =>
      let shared := sharedUnits ns
      match fuel with
      | 0 => ofChoices ns
      | fuel + 1 =>
        if shared.isEmpty then ofChoices ns
        else
          let rests := ns.map fun n => ofParts (n.units.drop shared.length).flatten
          sequence (shared.flatten ++ [alternation fuel rests])

end BenchSweep.Regex.Node
