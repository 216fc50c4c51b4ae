/-! Texts cut at separators. `splitWhere` cuts at single characters, `pieces` at the leftmost
occurrences of a mark that do not overlap, `splitOnce` at the first character of a kind. -/
set_option autoImplicit false

namespace BenchSweep.Text

/-- Puts `c` before the first piece. -/
def consPiece {α : Type} (c : α) : List (List α) → List (List α)
  | [] => [[c]]
  | p :: ps => (c :: p) :: ps

/-! ## Cuts at single characters -/

/-- The runs between the elements that satisfy `p`, empty runs included. -/
def splitWhere {α : Type} (p : α → Bool) : List α → List (List α)
  | [] => [[]]
  | c :: rest => if p c then [] :: splitWhere p rest else consPiece c (splitWhere p rest)

/-- What stands before and after the first `c`, if there is one. -/
def splitOnce {α : Type} [DecidableEq α] (c : α) : List α → Option (List α × List α)
  | [] => none
  | d :: rest =>
    if d = c then some ([], rest)
    else (splitOnce c rest).map (fun (before, after) => (d :: before, after))

theorem consPiece_ne_nil {α : Type} (c : α) (ps : List (List α)) : consPiece c ps ≠ [] := by
  cases ps <;> simp [consPiece]

theorem splitWhere_ne_nil {α : Type} (p : α → Bool) (s : List α) : splitWhere p s ≠ [] := by
  cases s with
  | nil => simp [splitWhere]
  | cons c rest =>
    rw [splitWhere]
    split
    · simp
    · exact consPiece_ne_nil c _

theorem splitOnce_eq_some_iff {α : Type} [DecidableEq α] (c : α) (s before after : List α) :
    splitOnce c s = some (before, after) ↔ s = before ++ c :: after ∧ c ∉ before := by
  induction s generalizing before after with
  | nil => simp [splitOnce]
  | cons d rest ih =>
    by_cases h : d = c
    · subst h
      cases before with
      | nil => simp [splitOnce]
      | cons b bs => simp [splitOnce]; rintro rfl; simp
    · cases before with
      | nil => simp [splitOnce, h]
      | cons b bs =>
        simp only [splitOnce, h, if_false, Option.map_eq_some_iff, Prod.exists, Prod.mk.injEq,
          List.cons.injEq, List.cons_append, List.mem_cons, not_or]
        constructor
        · rintro ⟨x, y, hxy, ⟨rfl, rfl⟩, rfl⟩
          have := (ih x y).1 hxy
          exact ⟨⟨rfl, this.1⟩, fun e => h e.symm, this.2⟩
        · rintro ⟨⟨rfl, e⟩, _, hm⟩
          exact ⟨bs, after, (ih bs after).2 ⟨e, hm⟩, ⟨rfl, rfl⟩, rfl⟩

/-! ## Cuts at a mark -/

/-- The texts between the occurrences of `mark`, found from the left; an empty mark occurs
nowhere. -/
def pieces (mark : List Char) : List Char → List (List Char)
  | [] => [[]]
  | c :: rest =>
    if mark ≠ [] ∧ mark.isPrefixOf (c :: rest) then [] :: pieces mark (rest.drop (mark.length - 1))
    else consPiece c (pieces mark rest)
termination_by s => s.length
decreasing_by
  · simp only [List.length_drop, List.length_cons]; omega
  · simp

/-- Whether `mark` occurs in the text. -/
def occurs (mark : List Char) : List Char → Bool
  | [] => mark.isEmpty
  | c :: rest => mark.isPrefixOf (c :: rest) || occurs mark rest

/-- The rest of a text after `mark` at its start. -/
def stripPrefix? (mark s : List Char) : Option (List Char) :=
  if mark.isPrefixOf s then some (s.drop mark.length) else none

end BenchSweep.Text
