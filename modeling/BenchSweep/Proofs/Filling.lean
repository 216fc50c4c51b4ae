import BenchSweep.Proofs.Resolution
import BenchSweep.Proofs.Text.Pieces

/-! What command lines are filled in with. A fragment is cut at its placeholders and joined again
with the text of a value; a command line that can be filled in becomes the words of its tokens one
after the other, the first of which is its program. -/
set_option autoImplicit false

namespace BenchSweep

/-! ## Fragments -/

/-- `word` is `fragment` with `text` in place of each placeholder. -/
def Substituted (fragment text word : String) : Prop :=
  ∃ pieces : List (List Char), (∀ p ∈ pieces, ¬ placeholder <:+: p) ∧
    fragment.toList = placeholder.intercalate pieces ∧
    word.toList = text.toList.intercalate pieces

theorem substituted_substitute (fragment text : String) :
    Substituted fragment text (substitute fragment text) := by
  refine ⟨Text.pieces placeholder fragment.toList, ?_, ?_, ?_⟩
  · intro p hp
    exact Text.not_infix_of_mem_pieces (by decide) hp
  · exact (Text.intercalate_pieces placeholder fragment.toList).symm
  · exact String.toList_ofList

/-! ## Command lines -/

/-- The words of a command line: the program and what it is called with. -/
def Invocation.ofWords : List String → Invocation
  | [] => ⟨"", []⟩
  | program :: args => ⟨program, args⟩

/-- The words of a token if parameters have these texts. -/
def Binding.fill (b : Binding) (text : String → String) (settings : RunSettings) :
    Token → List String
  | .literal word => [word]
  | .group slot =>
    (((b.group slot).map (·.entries)).getD []).flatMap fun (name, fragments) =>
      fragments.map (substitute · (text name))
  | .setting s => [settings.text s]

namespace Resolver

/-- The text of a parameter; one without a value has none. -/
def text (r : Resolver) (name : String) : String :=
  ((r.params.get? name).map Value.toText).getD ""

theorem words_eq_ok {r : Resolver} {name : String} {fragments ws : List String}
    (h : r.words (name, fragments) = .ok ws) :
    ws = fragments.map (substitute · (r.text name)) := by
  unfold words at h
  unfold text
  cases hv : r.params.get? name with
  | none =>
    simp only [hv] at h
    cases h
  | some v =>
    simp only [hv, Except.ok.injEq] at h
    exact h.symm

theorem arguments_eq_ok {r : Resolver} {group : Option ArgumentGroup} {ws : List String}
    (h : r.arguments group = .ok ws) :
    ws = ((group.map (·.entries)).getD []).flatMap fun (name, fragments) =>
      fragments.map (substitute · (r.text name)) := by
  unfold arguments at h
  cases group with
  | none =>
    cases h
    rfl
  | some g =>
    obtain ⟨parts, hparts, rfl⟩ := map_eq_ok_iff.1 h
    rw [eq_map_of_mapM_eq_ok (fun e _ he => words_eq_ok he) hparts,
      List.flatMap_def]
    rfl

theorem expand_eq_ok {r : Resolver} {b : Binding} {t : Token} {ws : List String}
    (h : r.expand b t = .ok ws) : ws = b.fill r.text r.settings t := by
  cases t with
  | literal word =>
    cases h
    rfl
  | group slot => exact arguments_eq_ok h
  | setting s =>
    cases h
    rfl

/-- What comes out of filling in a command line are the words of its tokens. -/
theorem build_eq_ok {r : Resolver} {b : Binding} {c : Command} {i : Invocation}
    (h : r.build b c = .ok i) : i = .ofWords (c.flatMap (b.fill r.text r.settings)) := by
  unfold build at h
  obtain ⟨words, hwords, rfl⟩ := map_eq_ok_iff.1 h
  rw [eq_map_of_mapM_eq_ok (fun t _ ht => expand_eq_ok ht) hwords, List.flatMap_def]
  cases (c.map (b.fill r.text r.settings)).flatten <;> rfl

end Resolver

end BenchSweep
