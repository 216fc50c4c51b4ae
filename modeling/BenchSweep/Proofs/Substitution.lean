import BenchSweep.Proofs.Filling

/-! Substitution in one pass. Since the mark of a fragment starts with a character that stands nowhere
else in it, two marks cannot overlap: a text has only one cut at its marks, and what is put between the
pieces is not looked at again. -/
set_option autoImplicit false

namespace BenchSweep

/-! ## Fragments -/

/-- The fragment is these pieces with a placeholder between each two of them, and no piece has a
placeholder inside. -/
structure Cut (fragment : String) (pieces : List (List Char)) : Prop where
  ne_nil : pieces ≠ []
  clean : ∀ p ∈ pieces, ¬ placeholder <:+: p
  joined : fragment.toList = placeholder.intercalate pieces

theorem cut_pieces (fragment : String) :
    Cut fragment (Text.pieces placeholder fragment.toList) where
  ne_nil := Text.pieces_ne_nil _ _
  clean p hp := Text.not_infix_of_mem_pieces (by decide) hp
  joined := (Text.intercalate_pieces _ _).symm

theorem Cut.eq_pieces {fragment : String} {pieces : List (List Char)} (h : Cut fragment pieces) :
    pieces = Text.pieces placeholder fragment.toList := by
  have hmark : placeholder = '<' :: "value>".toList := rfl
  have hclean := h.clean
  rw [hmark] at hclean
  rw [h.joined, hmark, Text.pieces_intercalate (by decide) h.ne_nil hclean]

theorem substitute_of_not_isInfix {fragment : String} (h : ¬ placeholder <:+: fragment.toList)
    (value : String) : substitute fragment value = fragment := by
  rw [substitute, Text.pieces_of_not_isInfix h, List.intercalate_singleton, String.ofList_toList]

/-- Every fragment has exactly one cut at its placeholders, and whatever the value is, it stands between
the pieces of that cut and nothing else has changed. So a placeholder that the value brings along, or
that comes about where it meets a piece, stays as it is; a fragment without placeholder stays the same,
and so does one that gets the placeholder itself. -/
theorem substitute_is_single_pass (fragment : String) :
    ∃ pieces, Cut fragment pieces ∧ (∀ others, Cut fragment others → others = pieces) ∧
      (∀ value, (substitute fragment value).toList = value.toList.intercalate pieces) ∧
      (¬ placeholder <:+: fragment.toList → ∀ value, substitute fragment value = fragment) ∧
      substitute fragment "<value>" = fragment := by
  have hvalue : ∀ value, (substitute fragment value).toList =
      value.toList.intercalate (Text.pieces placeholder fragment.toList) :=
    fun _ => String.toList_ofList
  have hsame : substitute fragment "<value>" = fragment := by
    rw [← String.toList_inj, hvalue]
    exact Text.intercalate_pieces placeholder fragment.toList
  exact ⟨_, cut_pieces fragment, fun others h => h.eq_pieces, hvalue, substitute_of_not_isInfix, hsame⟩

/-- A part of a placeholder before and behind one: without a text in between the parts form a
placeholder, which stays. -/
theorem substitute_is_single_pass_of_parts :
    substitute "<val<value>ue>" "" = "<value>" ∧
      substitute "<val<value>ue>" "<value>" = "<val<value>ue>" ∧
      substitute "<value" "10" = "<value" := by
  obtain ⟨pieces, -, hunique, hvalue, -, hsame⟩ := substitute_is_single_pass "<val<value>ue>"
  obtain ⟨-, -, -, -, hnone, -⟩ := substitute_is_single_pass "<value"
  have hcut : Cut "<val<value>ue>" ["<val".toList, "ue>".toList] :=
    ⟨by decide, by decide +kernel, by decide⟩
  refine ⟨?_, hsame, hnone (by decide +kernel) "10"⟩
  rw [← String.toList_inj, hvalue, ← hunique _ hcut]
  decide

end BenchSweep
