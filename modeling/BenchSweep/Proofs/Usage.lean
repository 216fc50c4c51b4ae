import BenchSweep.Proofs.CommandShape
import BenchSweep.Proofs.Report

/-! Parameters that command lines use. A command line takes in the groups of its slots, the report looks
at all groups of the binding; so a parameter that is reported as unused is in no command line, and one
that is in no command line is reported unless a group names it that no command line takes in. -/
set_option autoImplicit false

namespace BenchSweep

variable {t : Target} {binding : Binding} {name : String}

namespace Target

/-- Whether some command line of the target takes in the group in this slot. -/
def Takes (t : Target) (slot : Slot) : Prop := ∃ s c, t.command s = some c ∧ slot ∈ c.slots

/-- Whether some command line of the target takes in a group that names the parameter. -/
def Uses (t : Target) (binding : Binding) (name : String) : Prop :=
  ∃ s c, t.command s = some c ∧ ∃ slot ∈ c.slots, binding.Names slot name

theorem uses_iff : t.Uses binding name ↔ ∃ slot, binding.Names slot name ∧ t.Takes slot := by
  constructor
  · rintro ⟨s, c, hc, slot, hslot, hname⟩
    exact ⟨slot, hname, s, c, hc, hslot⟩
  · rintro ⟨slot, hname, s, c, hc, hslot⟩
    exact ⟨s, c, hc, slot, hslot, hname⟩

/-- The value of a parameter that no command line uses changes none of them. -/
theorem build_insert_of_not_uses (h : ¬t.Uses binding name) {s : Stage} {c : Command}
    (hc : t.command s = some c) {r : Resolver} {i : Invocation} (hi : r.build binding c = .ok i)
    (v : Value) :
    (Resolver.mk (r.params.insert name v) r.settings).build binding c = .ok i := by
  refine Resolver.build_congr hi rfl fun slot hslot other hother => ?_
  have hne : other ≠ name := by
    rintro rfl
    exact h ⟨s, c, hc, slot, hslot, Binding.mem_references_iff.1 hother⟩
  exact (OrderedMap.get?_insert _ _ _ _).trans (if_neg hne)

end Target

namespace Benchmark

variable {b : Benchmark}

theorem unused_mem_diagnostics_iff (h : b.binding? t.name = some binding) :
    Diagnostic.unusedParameter name ∈ (b.check t.name).diagnostics ↔
      name ∈ b.params.keys ∧ ∀ slot, ¬binding.Names slot name := by
  rw [diagnostics_of_binding h, List.mem_append, ← Binding.mem_idle_iff]
  simp

/-- Let a benchmark support a target and declare a parameter. The report calls the parameter unused
exactly if no command line of the target takes in a group that names it and no group that no command
line takes in names it either, that is, if no group names it at all. Its value then makes no difference
to any command line. -/
theorem unused_is_reported_iff (h : b.binding? t.name = some binding) (hname : name ∈ b.params.keys) :
    let reported := Diagnostic.unusedParameter name ∈ (b.check t.name).diagnostics
    (reported ↔ ∀ slot, ¬binding.Names slot name) ∧
    (reported ↔ ¬t.Uses binding name ∧ ∀ slot, binding.Names slot name → t.Takes slot) ∧
    (reported → ∀ s c, t.command s = some c → ∀ (r : Resolver) (i : Invocation) (v : Value),
      r.build binding c = .ok i →
        (Resolver.mk (r.params.insert name v) r.settings).build binding c = .ok i) := by
  intro reported
  have hreported : reported ↔ ∀ slot, ¬binding.Names slot name :=
    (unused_mem_diagnostics_iff h).trans (and_iff_right hname)
  have huses : reported → ¬t.Uses binding name := by
    intro hr hu
    obtain ⟨slot, hslot, -⟩ := Target.uses_iff.1 hu
    exact hreported.1 hr slot hslot
  refine ⟨hreported, ⟨fun hr => ⟨huses hr, fun slot hslot => ?_⟩, ?_⟩, ?_⟩
  · exact (hreported.1 hr slot hslot).elim
  · rintro ⟨hu, htakes⟩
    exact hreported.2 fun slot hslot => hu (Target.uses_iff.2 ⟨slot, hslot, htakes slot hslot⟩)
  · intro hr s c hc r i v hi
    exact Target.build_insert_of_not_uses (huses hr) hc hi v

/-- A parameter without a group is reported, one in a group that the run takes in is not. -/
theorem unused_is_reported_iff_of_two_parameters :
    let binding : Binding := ⟨none, none, some (.ofList [("size", ["<value>"])]), none⟩
    let b : Benchmark := ⟨"b", .ofList [("size", .integer 1), ("seed", .integer 2)],
      .ofList [("t", binding)]⟩
    let t : Target := ⟨"t", .empty, none, none, none, none, none, some [.literal "sort", .group .run]⟩
    .unusedParameter "seed" ∈ (b.check "t").diagnostics ∧
      .unusedParameter "size" ∉ (b.check "t").diagnostics ∧ t.Uses binding "size" ∧
      ¬t.Uses binding "seed" := by
  intro binding b t
  have hbinding : b.binding? t.name = some binding := by decide
  have hkeys : "seed" ∈ b.params.keys ∧ "size" ∈ b.params.keys := by decide
  obtain ⟨hseed, hunused, -⟩ := unused_is_reported_iff hbinding hkeys.1
  obtain ⟨hsize, -, -⟩ := unused_is_reported_iff hbinding hkeys.2
  have hreported : Diagnostic.unusedParameter "seed" ∈ (b.check t.name).diagnostics := by decide
  have hnames : binding.Names .run "size" := ⟨_, rfl, by decide⟩
  exact ⟨hreported, fun h => hsize.1 h .run hnames, ⟨.run, _, rfl, .run, by decide, hnames⟩,
    (hunused.1 hreported).1⟩

/-- A group that no command line takes in keeps its parameters from being reported, although none of
them is in any command line. -/
theorem idle_group_hides_parameter :
    let binding : Binding := ⟨some (.ofList [("size", ["--n", "<value>"])]), none, none, none⟩
    let b : Benchmark := ⟨"b", .ofList [("size", .integer 1)], .ofList [("t", binding)]⟩
    let t : Target := ⟨"t", .empty, none, none, none, none, none, some [.literal "true"]⟩
    b.binding? t.name = some binding ∧ "size" ∈ b.params.keys ∧
      ¬(.unusedParameter "size" ∈ (b.check t.name).diagnostics ↔ ¬t.Uses binding "size") := by
  intro binding b t
  have hreported : Diagnostic.unusedParameter "size" ∉ (b.check t.name).diagnostics := by decide
  have huses : ¬t.Uses binding "size" := by
    rintro ⟨s, c, hc, slot, hslot, -⟩
    cases s <;> cases hc
    cases hslot
  exact ⟨by decide, by decide, fun h => hreported (h.2 huses)⟩

end Benchmark

end BenchSweep
