import BenchSweep.Proofs.OrderedMap
import BenchSweep.Proofs.Steps
import BenchSweep.Resolution

/-! When command lines can be filled in: a group needs a value for each parameter that it refers to,
and a command line needs what its groups need. -/
set_option autoImplicit false

namespace BenchSweep

/-! ## Words of groups -/

namespace Resolver

theorem exists_words_iff (r : Resolver) (name : String) (fragments : List String) :
    (∃ ws, r.words (name, fragments) = .ok ws) ↔ name ∈ r.params.keys := by
  rw [OrderedMap.mem_keys_iff]
  cases h : r.params.get? name with
  | none => simp [words, h]
  | some v => simp [words, h]

/-- A group has words as soon as every parameter that it refers to has a value. -/
theorem exists_arguments_iff (r : Resolver) (group : Option ArgumentGroup) :
    (∃ ws, r.arguments group = .ok ws) ↔
      ∀ name ∈ (group.map (·.keys)).getD [], name ∈ r.params.keys := by
  cases group with
  | none => simp [arguments]
  | some g =>
    rw [arguments, exists_map_ok_iff, exists_mapM_ok_iff]
    constructor
    · intro h name hname
      obtain ⟨e, he, rfl⟩ := List.mem_map.1 hname
      exact (r.exists_words_iff e.1 e.2).1 (h e he)
    · intro h e he
      exact (r.exists_words_iff e.1 e.2).2 (h e.1 (List.mem_map.2 ⟨e, he, rfl⟩))

/-! ## Command lines -/

theorem exists_expand (r : Resolver) (b : Binding)
    (h : ∀ slot, ∃ ws, r.arguments (b.group slot) = .ok ws) (t : Token) :
    ∃ ws, r.expand b t = .ok ws := by
  cases t with
  | literal text => exact ⟨[text], rfl⟩
  | group slot => exact h slot
  | setting s => exact ⟨[r.settings.text s], rfl⟩

theorem exists_build (r : Resolver) (b : Binding)
    (h : ∀ slot, ∃ ws, r.arguments (b.group slot) = .ok ws) (c : Command) :
    ∃ i, r.build b c = .ok i := by
  rw [build, exists_map_ok_iff, exists_mapM_ok_iff]
  intro t _
  exact r.exists_expand b h t

end Resolver

end BenchSweep
