import BenchSweep.Proofs.Steps
import BenchSweep.Toml.Writer

/-! When a document has a spelling: as soon as all its values have one, whatever they are. -/
set_option autoImplicit false

namespace BenchSweep

namespace Toml

theorem Scalar.isSome_write_integer_iff (n : Int) :
    (Scalar.integer n).write.isSome = true ↔ -Nat.pow 2 63 ≤ n ∧ n < Nat.pow 2 63 := by
  rw [Scalar.write]
  split
  · rename_i h
    exact iff_of_true rfl h
  · rename_i h
    exact iff_of_false (by simp) h

theorem Scalar.isSome_write_natCast_iff (n : Nat) :
    (Scalar.integer n).write.isSome = true ↔ n < Nat.pow 2 63 := by
  rw [isSome_write_integer_iff]
  omega

theorem isSome_writePairs_iff (pairs : List Pair) :
    (writePairs pairs).isSome = true ↔ ∀ x ∈ pairs, x.2.write.isSome = true := by
  unfold writePairs
  rw [Option.isSome_map, isSome_mapM_iff]
  simp [writePair]

theorem Sheet.isSome_write_iff (s : Sheet) :
    s.write.isSome = true ↔ (∀ x ∈ s.pairs, x.2.write.isSome = true) ∧
      ∀ table ∈ s.tables, ∀ x ∈ table.2, x.2.write.isSome = true := by
  unfold Sheet.write
  rw [← isSome_writePairs_iff]
  cases writePairs s.pairs with
  | none => simp
  | some top =>
    have ht : ∀ texts : Option (List (List Char)),
        (some top >>= fun t => texts >>= fun ts => pure (writeBlocks (t :: ts))).isSome =
          texts.isSome := by
      rintro (_ | _) <;> rfl
    rw [ht, isSome_mapM_iff]
    simp [writeTable, isSome_writePairs_iff]

end Toml

end BenchSweep
