import BenchSweep.Compatibility
import BenchSweep.Proofs.Resolution
import Mathlib.Tactic.ByContra

/-! The gate before a run lets exactly those configurations pass whose command lines can be filled
in. -/
set_option autoImplicit false

namespace BenchSweep

namespace Report

theorem passed_iff (r : Report) : r.passed = true ↔ ∀ d ∈ r.diagnostics, d.severity = .warning := by
  rw [passed, beq_iff_eq, errorCount, List.countP_eq_zero]
  refine forall_congr' fun d => forall_congr' fun _ => ?_
  cases d <;> simp [Diagnostic.severity]

end Report

namespace Binding

theorem warns_undeclared_iff (b : Binding) (declared : List String) :
    (∀ d ∈ b.undeclared declared, d.severity = .warning) ↔
      ∀ slot, ∀ name ∈ b.references slot, name ∈ declared := by
  constructor
  · intro h slot name hname
    by_contra hn
    have hd : Diagnostic.undeclaredParameter name slot ∈ b.undeclared declared :=
      List.mem_flatMap.2 ⟨slot, slot.mem_all,
        List.mem_map.2 ⟨name, List.mem_filter.2 ⟨hname, by simpa using hn⟩, rfl⟩⟩
    cases h _ hd
  · intro h d hd
    obtain ⟨slot, _, hd⟩ := List.mem_flatMap.1 hd
    obtain ⟨name, hname, rfl⟩ := List.mem_map.1 hd
    obtain ⟨hname, hn⟩ := List.mem_filter.1 hname
    exact absurd (h slot name hname) (by simpa using hn)

theorem warns_unused (b : Binding) (declared : List String) :
    ∀ d ∈ b.unused declared, d.severity = .warning := by
  intro d hd
  obtain ⟨name, _, rfl⟩ := List.mem_map.1 hd
  rfl

end Binding

namespace Benchmark

theorem check_passed_iff (b : Benchmark) (target : String) :
    (b.check target).passed = true ↔
      ∃ binding, b.binding? target = some binding ∧
        ∀ slot, ∀ name ∈ binding.references slot, name ∈ b.params.keys := by
  rw [Report.passed_iff, check]
  cases h : b.binding? target with
  | none => simp [Diagnostic.severity]
  | some binding =>
    simp only [List.forall_mem_append, binding.warns_undeclared_iff, Option.some.injEq,
      exists_eq_left']
    exact ⟨fun hp => hp.1, fun hp => ⟨hp, binding.warns_unused _⟩⟩

/-- The gate and the filling in of command lines accept the same configurations, although one looks
at names alone and the other at the values. -/
theorem check_passed_iff_arguments (b : Benchmark) (target : String) (settings : RunSettings) :
    (b.check target).passed = true ↔
      ∃ binding, b.binding? target = some binding ∧
        ∀ slot, ∃ ws, (Resolver.mk b.params settings).arguments (binding.group slot) = .ok ws := by
  rw [check_passed_iff]
  simp only [Resolver.exists_arguments_iff]
  rfl

theorem exists_build_of_check_passed {b : Benchmark} {target : String} {binding : Binding}
    (hp : (b.check target).passed = true) (hb : b.binding? target = some binding)
    (settings : RunSettings) (c : Command) :
    ∃ i, (Resolver.mk b.params settings).build binding c = .ok i := by
  obtain ⟨other, ho, h⟩ := (b.check_passed_iff_arguments target settings).1 hp
  rw [hb, Option.some.injEq] at ho
  subst ho
  exact Resolver.exists_build _ binding h c

end Benchmark

end BenchSweep
