import BenchSweep.Path
import BenchSweep.Proofs.Text.Pieces

/-! The parts of paths: a name below a path is one more part at its end. -/
set_option autoImplicit false

namespace BenchSweep

namespace Path

/-- Whether a text is one part of a path. -/
def IsPart (name : String) : Prop := name ≠ "" ∧ '/' ∉ name.toList

instance (name : String) : Decidable (IsPart name) :=
  inferInstanceAs (Decidable (name ≠ "" ∧ '/' ∉ name.toList))

/-- A part that leads downwards, so that it can be the name of a node. -/
def IsName (name : String) : Prop := IsPart name ∧ name ≠ "." ∧ name ≠ ".."

instance (name : String) : Decidable (IsName name) :=
  inferInstanceAs (Decidable (IsPart name ∧ name ≠ "." ∧ name ≠ ".."))

/-- The parts in a text. -/
def partsOf (s : List Char) : List String :=
  ((Text.splitWhere (· == '/') s).filter (!·.isEmpty)).map String.ofList

theorem parts_eq (p : Path) : p.parts = partsOf p.text.toList := rfl

theorem partsOf_append (s t : List Char) : partsOf (s ++ '/' :: t) = partsOf s ++ partsOf t := by
  unfold partsOf
  rw [Text.splitWhere_append (by rfl), List.filter_append, List.map_append]

theorem partsOf_part {name : String} (h : IsPart name) : partsOf name.toList = [name] := by
  have hs : Text.splitWhere (· == '/') name.toList = [name.toList] :=
    Text.splitWhere_of_not_mem h.2
  have hn : name.toList ≠ [] := fun e => h.1 (String.toList_eq_nil_iff.1 e)
  unfold partsOf
  rw [hs]
  simp [hn]

theorem isPart_of_mem_parts {p : Path} {part : String} (h : part ∈ p.parts) :
    IsPart part := by
  obtain ⟨s, hs, rfl⟩ := List.mem_map.1 h
  obtain ⟨hpiece, hne⟩ := List.mem_filter.1 hs
  constructor
  · intro he
    rw [String.ofList_eq_empty_iff] at he
    simp [he] at hne
  · intro hm
    rw [String.toList_ofList] at hm
    exact Text.not_mem_of_mem_splitWhere hpiece hm

theorem isRooted_part {name : String} (h : IsPart name) : (Path.mk name).isRooted = false := by
  unfold isRooted
  cases hn : name.toList with
  | nil => rfl
  | cons c rest =>
    have hc : c ≠ '/' := fun e => h.2 (by rw [hn, e]; exact List.mem_cons_self)
    simpa using hc

theorem child_eq (p : Path) {name : String} (h : IsPart name) :
    p.child name = if p.text = "" || p.endsWithSlash then ⟨p.text ++ name⟩
      else ⟨p.text ++ "/" ++ name⟩ := by
  unfold child join
  rw [isRooted_part h]
  rfl

theorem parts_child (p : Path) {name : String} (h : IsPart name) :
    (p.child name).parts = p.parts ++ [name] := by
  rw [child_eq p h, parts_eq p]
  by_cases he : p.text = ""
  · rw [he]
    have hp : partsOf [] = [] := rfl
    simp [parts_eq, partsOf_part h, hp]
  by_cases hs : p.endsWithSlash = true
  · have hl : p.text.toList.getLast? = some '/' := by simpa [endsWithSlash] using hs
    obtain ⟨s, hs'⟩ := List.getLast?_eq_some_iff.1 hl
    have hp : partsOf (s ++ ['/']) = partsOf s := by
      rw [partsOf_append]
      exact List.append_nil _
    simp [hs, parts_eq, hs', hp, partsOf_append, partsOf_part h]
  · simp [he, hs, parts_eq, partsOf_append, partsOf_part h]

theorem text_child_ne_empty (p : Path) {name : String} (h : IsPart name) :
    (p.child name).text ≠ "" := by
  intro he
  have hp := congrArg String.toList he
  rw [child_eq p h] at hp
  have hn : name.toList ≠ [] := fun e => h.1 (String.toList_eq_nil_iff.1 e)
  split at hp <;> simp [hn] at hp

theorem isRooted_child (p : Path) {name : String} (h : IsPart name) :
    (p.child name).isRooted = p.isRooted := by
  rw [child_eq p h]
  by_cases he : p.text = ""
  · simpa [he, isRooted] using isRooted_part h
  · obtain ⟨c, rest, hc⟩ := List.exists_cons_of_ne_nil fun e => he (String.toList_eq_nil_iff.1 e)
    split <;> simp [isRooted, hc]

end Path

end BenchSweep
