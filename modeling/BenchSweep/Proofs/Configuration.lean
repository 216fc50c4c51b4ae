import BenchSweep.Configuration
import BenchSweep.Proofs.CommandLine.Prediction
import BenchSweep.Proofs.Text.Utf8
import BenchSweep.Proofs.Toml.Document
import BenchSweep.Proofs.Toml.Writer

/-! A configuration that was loaded can be saved, and what is saved is the configuration in full. Only
its number of threads could lack a spelling, and one that is read is none of those. -/
set_option autoImplicit false

namespace BenchSweep

namespace Toml

/-! ## Fields -/

section

variable {α : Type} {fields : List (String × Value)} {name : String} {f : Value → Option α}

theorem withDefault_of_required {a : α} (h : required fields name f = some a) (default : α) :
    withDefault fields name f default = some a := by
  obtain ⟨v, hv, ha⟩ := Option.bind_eq_some_iff.1 h
  unfold withDefault optional
  rw [hv]
  dsimp only
  rw [ha]
  rfl

/-- A field with a default holds it or a value that is read. -/
theorem exists_of_withDefault {default a : α} (h : withDefault fields name f default = some a) :
    a = default ∨ ∃ v, f v = some a := by
  unfold withDefault optional at h
  split at h
  · exact .inl (Option.some.inj h).symm
  · obtain ⟨x, hx, rfl⟩ := Option.map_eq_some_iff.1 h
    obtain ⟨y, hy, rfl⟩ := Option.map_eq_some_iff.1 hx
    exact .inr ⟨_, hy⟩

theorem exists_of_optional {a : α} (h : optional fields name f = some (some a)) :
    ∃ v, f v = some a := by
  unfold optional at h
  split at h
  · cases h
  · obtain ⟨y, hy, heq⟩ := Option.map_eq_some_iff.1 h
    exact ⟨_, hy.trans heq⟩

end

theorem nat?_value {n limit : Nat} (hlimit : n < limit) (h : n < 2 ^ 63) :
    (Scalar.integer n).value.nat? limit = some n := by
  have hn : (Int64.ofInt n).toInt = n := Int64.toInt_ofInt_of_le (by omega) (by omega)
  unfold Scalar.value Value.nat?
  dsimp only
  rw [hn, if_pos ⟨by omega, by omega⟩, Int.toNat_natCast]

theorem lt_of_nat? {v : Value} {n limit : Nat} (h : v.nat? limit = some n) : n < 2 ^ 63 := by
  unfold Value.nat? at h
  split at h
  · rename_i i
    obtain ⟨-, h⟩ := Option.ite_none_right_eq_some.1 h
    obtain rfl := Option.some.inj h
    have hlt := i.toInt_lt
    omega
  · cases h

end Toml

namespace Configuration

/-! ## Settings -/

theorem iterations?_value (n : UInt32) :
    iterations? (Toml.Scalar.integer n.toNat).value = some n := by
  unfold iterations?
  rw [Toml.nat?_value n.toNat_lt (Nat.lt_trans n.toNat_lt (by decide)), Option.map_some,
    UInt32.ofNat_toNat]

theorem threads?_value {n : UInt64} (h : n.toNat < 2 ^ 63) :
    threads? (Toml.Scalar.integer n.toNat).value = some n := by
  unfold threads?
  rw [Toml.nat?_value n.toNat_lt h, Option.map_some, UInt64.ofNat_toNat]

theorem lt_of_threads? {v : Toml.Value} {n : UInt64} (h : threads? v = some n) :
    n.toNat < 2 ^ 63 := by
  obtain ⟨m, hm, rfl⟩ := Option.map_eq_some_iff.1 h
  have hlt := Toml.lt_of_nat? hm
  rwa [UInt64.toNat_ofNat_of_lt' (by simp [UInt64.size]; omega)]

/-- The number of threads of a configuration that was read has a spelling. -/
theorem threads_lt_of_ofToml? {text : String} {c : Configuration} (h : ofToml? text = some c)
    {n : UInt64} (hn : c.run.threads = some n) : n.toNat < 2 ^ 63 := by
  obtain ⟨fields, -, h⟩ := Option.bind_eq_some_iff.1 h
  obtain ⟨run, hrun, h⟩ := Option.bind_eq_some_iff.1 h
  obtain ⟨places, -, h⟩ := Option.bind_eq_some_iff.1 h
  obtain rfl := Option.some.inj h
  obtain rfl | ⟨v, hv⟩ := Toml.exists_of_withDefault hrun
  · cases hn
  obtain ⟨entries, -, hv⟩ := Option.bind_eq_some_iff.1 hv
  obtain ⟨iterations, -, hv⟩ := Option.bind_eq_some_iff.1 hv
  obtain ⟨threads, hthreads, hv⟩ := Option.bind_eq_some_iff.1 hv
  obtain ⟨flag, -, hv⟩ := Option.bind_eq_some_iff.1 hv
  obtain rfl := Option.some.inj hv
  rw [show threads = some n from hn] at hthreads
  obtain ⟨v, hv⟩ := Toml.exists_of_optional hthreads
  exact lt_of_threads? hv

/-! ## Texts in full -/

/-- Whether a text holds all settings of a configuration under their keys; a number of threads that is
open has no key. -/
def Explicit (c : Configuration) (text : String) : Prop :=
  ∃ run places, Toml.parse? text = some [("run", .table run), ("paths", .table places)] ∧
    Toml.required run "iterations" iterations? = some c.run.iterations ∧
    Toml.optional run "threads" threads? = some c.run.threads ∧
    Toml.required run "continue_on_error" Toml.Value.bool? = some c.run.continueOnError ∧
    Toml.required places "benchmarks_dir" path? = some c.places.benchmarks ∧
    Toml.required places "targets_dir" path? = some c.places.targets ∧
    Toml.required places "output_dir" path? = some c.places.output

theorem Explicit.ofToml?_eq {c : Configuration} {text : String} (h : c.Explicit text) :
    ofToml? text = some c := by
  obtain ⟨run, places, hparse, hiterations, hthreads, hflag, hbenchmarks, htargets, houtput⟩ := h
  have hrun : run? (.table run) = some c.run := by
    unfold run?
    simp only [Toml.Value.record?, Toml.Value.entries?, Option.bind_eq_bind, Option.bind_some,
      Toml.withDefault_of_required hiterations, hthreads, Toml.withDefault_of_required hflag,
      Option.pure_def]
  have hplaces : places? (.table places) = some c.places := by
    unfold places?
    simp only [Toml.Value.record?, Toml.Value.entries?, Option.bind_eq_bind, Option.bind_some,
      Toml.withDefault_of_required hbenchmarks, Toml.withDefault_of_required htargets,
      Toml.withDefault_of_required houtput, Option.pure_def]
  have hr : Toml.required [("run", .table run), ("paths", .table places)] "run" run? =
      some c.run := hrun
  have hp : Toml.required [("run", .table run), ("paths", .table places)] "paths" places? =
      some c.places := hplaces
  unfold ofToml?
  rw [hparse]
  simp only [Option.bind_eq_bind, Option.bind_some, Toml.withDefault_of_required hr,
    Toml.withDefault_of_required hp, Option.pure_def]

theorem distinct_sheet (c : Configuration) : c.sheet.Distinct where
  names := by simp [sheet]
  keys := by
    refine List.forall_mem_cons.2 ⟨?_, List.forall_mem_singleton.2 (by simp)⟩
    cases c.run.threads with
    | none => simp
    | some n => simp

theorem explicit_of_toToml? {c : Configuration} (h : ∀ n, c.run.threads = some n → n.toNat < 2 ^ 63)
    {text : String} (htext : c.toToml? = some text) : c.Explicit text := by
  refine ⟨_, _, Toml.parse?_write htext c.distinct_sheet, ?_, ?_, ?_, rfl, rfl, rfl⟩
  · exact iterations?_value c.run.iterations
  · cases hthreads : c.run.threads with
    | none => rfl
    | some n => exact congrArg (Option.map some) (threads?_value (h n hthreads))
  · cases c.run.threads with
    | none => rfl
    | some n => rfl

theorem exists_toToml? {c : Configuration} (h : ∀ n, c.run.threads = some n → n.toNat < 2 ^ 63) :
    ∃ text, c.toToml? = some text := by
  rw [← Option.isSome_iff_exists]
  refine (Toml.Sheet.isSome_write_iff c.sheet).2 ⟨nofun, ?_⟩
  have hnat : ∀ n : Nat, n < 2 ^ 63 → (Toml.Scalar.integer n).write.isSome = true := fun n hn =>
    (Toml.Scalar.isSome_write_natCast_iff n).2 hn
  refine List.forall_mem_cons.2 ⟨?_, List.forall_mem_singleton.2 ?_⟩
  · intro x hx
    simp only [List.mem_append, List.mem_singleton, List.mem_map, Option.mem_toList] at hx
    rcases hx with (rfl | ⟨n, hn, rfl⟩) | rfl
    · exact hnat _ (Nat.lt_trans c.run.iterations.toNat_lt (by decide))
    · exact hnat _ (h n hn)
    · rfl
  · intro x hx
    simp only [List.mem_cons, List.not_mem_nil, or_false] at hx
    rcases hx with rfl | rfl | rfl <;> rfl

/-! ## Saving what was loaded -/

open CommandLine in
/-- Let a configuration be read from a text, with whatever sections and keys. Then it has a spelling,
which is one in full, and which is read as the same configuration; what is read from it has this
spelling again. Wherever the spelling is saved in a file, the configuration is loaded from there. -/
theorem saved_configuration_loads {σ : Type} {text : String} {c : Configuration}
    (h : ofToml? text = some c) :
    ∃ saved, c.toToml? = some saved ∧ c.Explicit saved ∧ ofToml? saved = some c ∧
      (∀ c', ofToml? saved = some c' → c'.toToml? = some saved) ∧
      ∀ (w : World (Screen σ)) (p : Path) (place : Location), w.files.writable p = .ok place →
        ∃ fs, w.files.write p (Text.Utf8.bytes saved) = .ok fs ∧
          (readConfiguration p).on { w with files := fs } = (.ok c, { w with files := fs }) := by
  have hthreads : ∀ n, c.run.threads = some n → n.toNat < 2 ^ 63 := fun _ => threads_lt_of_ofToml? h
  obtain ⟨saved, hsaved⟩ := exists_toToml? hthreads
  have hexplicit := explicit_of_toToml? hthreads hsaved
  have hread := hexplicit.ofToml?_eq
  refine ⟨saved, hsaved, hexplicit, hread, ?_, ?_⟩
  · intro c' hc'
    obtain rfl := Option.some.inj (hread.symm.trans hc')
    exact hsaved
  · intro w p place hplace
    refine ⟨_, Files.write_eq_ok_iff.2 ⟨place, hplace, rfl⟩, ?_⟩
    rw [on_readConfiguration, configurationAt, Files.readText_put hplace]
    dsimp only
    rw [hread]

open CommandLine in
/-- Settings in a row, most of them missing, and a path with quotes, a backslash and a line end. -/
theorem saved_configuration_loads_of_quoted_path :
    let text := "run = [5]\n[paths]\noutput_dir = \"\x27\x27\x27\\\"\\\\\\né\"\n"
    let c : Configuration := ⟨⟨5, none, false⟩, ⟨⟨"conf/benchmark"⟩, ⟨"conf/target"⟩,
      ⟨"\x27\x27\x27\"\\\né"⟩⟩⟩
    let w : World (Screen Unit) := ⟨⟨.empty, []⟩, 0, [], ⟨[], ()⟩⟩
    ofToml? text = some c ∧ ∃ saved fs, c.toToml? = some saved ∧
      w.files.write ⟨"bench-runner.toml"⟩ (Text.Utf8.bytes saved) = .ok fs ∧
      (readConfiguration ⟨"bench-runner.toml"⟩).on { w with files := fs } =
        (.ok c, { w with files := fs }) := by
  intro text c w
  have h : ofToml? text = some c := by decide +kernel
  have hplace : w.files.writable ⟨"bench-runner.toml"⟩ = .ok ["bench-runner.toml"] := by decide +kernel
  obtain ⟨saved, hsaved, -, -, -, hload⟩ := saved_configuration_loads (σ := Unit) h
  obtain ⟨fs, hwrite, hread⟩ := hload w _ _ hplace
  exact ⟨h, saved, fs, hsaved, hwrite, hread⟩

end Configuration

end BenchSweep
