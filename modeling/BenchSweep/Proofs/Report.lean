import BenchSweep.Proofs.Compatibility
import Mathlib.Data.List.Nodup

/-! The report on a benchmark and a target, diagnostic by diagnostic: what it holds, in which order, and
what it counts. -/
set_option autoImplicit false

namespace BenchSweep

open scoped List

namespace Binding

variable {b : Binding} {declared : List String} {slot : Slot} {name : String}

/-- Whether the group in a slot names a parameter. -/
def Names (b : Binding) (slot : Slot) (name : String) : Prop :=
  ∃ group, b.group slot = some group ∧ name ∈ group.keys

theorem mem_references_iff : name ∈ b.references slot ↔ b.Names slot name := by
  unfold references Names
  cases b.group slot <;> simp

/-! ## References that dangle -/

/-- The names that groups refer to but nobody declares, each with the slot of its group. -/
def dangling (b : Binding) (declared : List String) : List (String × Slot) :=
  Slot.all.flatMap fun slot => ((b.references slot).filter (· ∉ declared)).map (·, slot)

/-- A reference goes before another if its slot does, or its name does in the group of one slot. -/
def Before (b : Binding) (x y : String × Slot) : Prop :=
  [x.2, y.2] <+ [.gen, .compile, .run] ∨
    x.2 = y.2 ∧ ∃ group, b.group x.2 = some group ∧ [x.1, y.1] <+ group.keys

theorem undeclared_eq (b : Binding) (declared : List String) :
    b.undeclared declared =
      (b.dangling declared).map fun x => .undeclaredParameter x.1 x.2 := by
  unfold undeclared dangling
  rw [List.map_flatMap]
  simp only [List.map_map, Function.comp_def]

theorem mem_dangling_iff :
    (name, slot) ∈ b.dangling declared ↔ b.Names slot name ∧ name ∉ declared := by
  unfold dangling
  rw [← mem_references_iff, List.mem_flatMap]
  constructor
  · rintro ⟨s, -, h⟩
    obtain ⟨n, hn, he⟩ := List.mem_map.1 h
    cases he
    simpa using hn
  · intro h
    exact ⟨slot, slot.mem_all, List.mem_map.2 ⟨name, by simpa using h, rfl⟩⟩

theorem before_of_sublist {x y : String} (h : [x, y] <+ b.references slot) :
    b.Before (x, slot) (y, slot) := by
  unfold references at h
  cases hg : b.group slot with
  | none =>
    rw [hg] at h
    cases h
  | some group =>
    rw [hg] at h
    exact .inr ⟨rfl, group, hg, h⟩

theorem pairwise_dangling (b : Binding) (declared : List String) :
    (b.dangling declared).Pairwise b.Before := by
  unfold dangling
  rw [List.pairwise_flatMap]
  constructor
  · intro slot _
    rw [List.pairwise_map]
    refine List.pairwise_of_forall_sublist fun h => ?_
    exact before_of_sublist (h.trans List.filter_sublist)
  · refine List.pairwise_of_forall_sublist fun {s t} h x hx y hy => ?_
    obtain ⟨_, -, rfl⟩ := List.mem_map.1 hx
    obtain ⟨_, -, rfl⟩ := List.mem_map.1 hy
    exact .inl h

theorem Before.ne {x y : String × Slot} (h : b.Before x y) : x ≠ y := by
  rintro rfl
  rcases h with h | ⟨-, group, -, h⟩
  · exact List.nodup_iff_sublist.1 (by decide) x.2 h
  · exact List.nodup_iff_sublist.1 group.nodup_keys x.1 h

theorem nodup_dangling (b : Binding) (declared : List String) : (b.dangling declared).Nodup :=
  (b.pairwise_dangling declared).imp Before.ne

/-- Only the names that groups refer to decide what dangles. -/
theorem dangling_congr {other : List String}
    (h : ∀ slot name, b.Names slot name → (name ∈ other ↔ name ∈ declared)) :
    b.dangling other = b.dangling declared := by
  unfold dangling
  congr 1
  funext slot
  congr 1
  refine List.filter_congr fun name hname => ?_
  rw [decide_eq_decide, h slot name (mem_references_iff.1 hname)]

/-! ## Parameters without a reference -/

/-- The declared names that no group refers to. -/
def idle (b : Binding) (declared : List String) : List String :=
  declared.filter (· ∉ Slot.all.flatMap b.references)

theorem mem_idle_iff :
    name ∈ b.idle declared ↔ name ∈ declared ∧ ∀ slot, ¬b.Names slot name := by
  unfold idle
  rw [List.mem_filter, decide_eq_true_iff, List.mem_flatMap]
  refine and_congr_right fun _ => ?_
  constructor
  · intro h slot hn
    exact h ⟨slot, slot.mem_all, mem_references_iff.2 hn⟩
  · rintro h ⟨slot, -, hn⟩
    exact h slot (mem_references_iff.1 hn)

end Binding

/-! ## The report -/

namespace Benchmark

variable {b : Benchmark} {target : String} {binding : Binding}

theorem diagnostics_of_unsupported (h : b.binding? target = none) :
    (b.check target).diagnostics = [.unsupportedTarget b.name target] := by
  unfold check
  rw [h]

theorem diagnostics_of_binding (h : b.binding? target = some binding) :
    (b.check target).diagnostics =
      (binding.dangling b.params.keys).map (fun x => .undeclaredParameter x.1 x.2) ++
        (binding.idle b.params.keys).map .unusedParameter := by
  unfold check
  rw [h, ← Binding.undeclared_eq]
  rfl

theorem nodup_diagnostics (b : Benchmark) (target : String) :
    (b.check target).diagnostics.Nodup := by
  cases h : b.binding? target with
  | none =>
    rw [diagnostics_of_unsupported h]
    exact List.nodup_singleton _
  | some binding =>
    rw [diagnostics_of_binding h]
    refine List.nodup_append'.2 ⟨?_, ?_, ?_⟩
    · refine (binding.nodup_dangling _).map ?_
      rintro ⟨n, s⟩ ⟨n', s'⟩ he
      cases he
      rfl
    · exact (b.params.nodup_keys.filter _).map fun _ _ he => by cases he; rfl
    · intro d hd hd'
      obtain ⟨_, -, rfl⟩ := List.mem_map.1 hd
      obtain ⟨_, -, he⟩ := List.mem_map.1 hd'
      cases he

theorem errorCount_of_binding (h : b.binding? target = some binding) :
    (b.check target).errorCount = (binding.dangling b.params.keys).length := by
  unfold Report.errorCount
  rw [diagnostics_of_binding h, List.countP_append, List.countP_map, List.countP_map,
    List.countP_eq_length.2 (by simp [Diagnostic.severity]),
    List.countP_eq_zero.2 (by simp [Diagnostic.severity]), Nat.add_zero]

/-- The report on a target without a binding is one diagnostic, an error. Otherwise it names first the
references that dangle, slot by slot and in the order of each group, then in the order of declaration
the parameters that no group names, and nothing twice. The errors are the references that dangle: it
passes if there are none, and what else is declared makes no difference to that. -/
theorem report_is_exact (b : Benchmark) (target : String) :
    let report := b.check target
    report.diagnostics.Nodup ∧
    (report.passed = true ↔ ∃ binding, b.binding? target = some binding ∧
      ∀ slot name, binding.Names slot name → name ∈ b.params.keys) ∧
    (b.binding? target = none →
      report.diagnostics = [.unsupportedTarget b.name target] ∧ report.errorCount = 1) ∧
    ∀ binding, b.binding? target = some binding →
      ∃ (dangling : List (String × Slot)) (idle : List String),
        report.diagnostics = dangling.map (fun x => .undeclaredParameter x.1 x.2) ++
          idle.map .unusedParameter ∧
        (∀ name slot, (name, slot) ∈ dangling ↔
          binding.Names slot name ∧ name ∉ b.params.keys) ∧
        dangling.Pairwise binding.Before ∧ dangling.Nodup ∧
        (∀ name, name ∈ idle ↔ name ∈ b.params.keys ∧ ∀ slot, ¬binding.Names slot name) ∧
        idle <+ b.params.keys ∧
        report.errorCount = dangling.length ∧
        ∀ params : Params,
          (∀ slot name, binding.Names slot name → (name ∈ params.keys ↔ name ∈ b.params.keys)) →
          let other := ({ b with params := params } : Benchmark).check target
          other.errorCount = report.errorCount ∧ other.passed = report.passed := by
  intro report
  refine ⟨nodup_diagnostics b target, ?_, ?_, ?_⟩
  · rw [check_passed_iff]
    simp only [Binding.mem_references_iff]
  · intro h
    have hd := diagnostics_of_unsupported h
    refine ⟨hd, ?_⟩
    unfold Report.errorCount
    rw [hd]
    rfl
  · intro binding h
    refine ⟨binding.dangling b.params.keys, binding.idle b.params.keys, diagnostics_of_binding h,
      fun _ _ => Binding.mem_dangling_iff, binding.pairwise_dangling _, binding.nodup_dangling _,
      fun _ => Binding.mem_idle_iff, List.filter_sublist, errorCount_of_binding h, ?_⟩
    intro params hparams
    have h' : ({ b with params := params } : Benchmark).binding? target = some binding := h
    have hcount : (({ b with params := params } : Benchmark).check target).errorCount =
        (b.check target).errorCount := by
      rw [errorCount_of_binding h', errorCount_of_binding h, Binding.dangling_congr hparams]
    refine ⟨hcount, ?_⟩
    unfold Report.passed
    rw [hcount]

/-- Two groups that name three parameters nobody declares, one of them twice. -/
theorem report_is_exact_of_four_references :
    let binding : Binding := ⟨some (.ofList [("seed", []), ("depth", ["<value>"])]), none,
      some (.ofList [("mode", []), ("size", []), ("seed", [])]), none⟩
    let b : Benchmark := ⟨"b", .ofList [("limit", .integer 1), ("size", .integer 2)],
      .ofList [("t", binding)]⟩
    (b.check "u").diagnostics = [.unsupportedTarget "b" "u"] ∧
      (∃ dangling : List (String × Slot), (b.check "t").errorCount = dangling.length ∧
        ("seed", Slot.gen) ∈ dangling ∧ ("seed", Slot.run) ∈ dangling ∧
        ("size", Slot.run) ∉ dangling) ∧
      (({ b with params := .ofList [("size", .integer 2)] } : Benchmark).check "t").errorCount =
        4 := by
  intro binding b
  obtain ⟨-, -, hnone, -⟩ := report_is_exact b "u"
  obtain ⟨-, -, -, hsome⟩ := report_is_exact b "t"
  obtain ⟨dangling, -, -, hmem, -, -, -, -, hcount, hothers⟩ := hsome binding (by decide)
  refine ⟨(hnone (by decide)).1, ⟨dangling, hcount, ?_, ?_, ?_⟩, ?_⟩
  · exact (hmem "seed" .gen).2 ⟨⟨_, rfl, by decide⟩, by decide⟩
  · exact (hmem "seed" .run).2 ⟨⟨_, rfl, by decide⟩, by decide⟩
  · exact fun h => ((hmem "size" .run).1 h).2 (by decide)
  · have hfour : (b.check "t").errorCount = 4 := by decide
    refine (hothers (.ofList [("size", .integer 2)]) ?_).1.trans hfour
    rintro slot name ⟨group, hgroup, hname⟩
    cases slot with
    | gen =>
      cases hgroup
      revert name
      decide
    | compile => cases hgroup
    | run =>
      cases hgroup
      revert name
      decide

end Benchmark

end BenchSweep
