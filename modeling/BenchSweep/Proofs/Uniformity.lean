import BenchSweep.Proofs.Campaign
import BenchSweep.Proofs.Gate
import BenchSweep.Proofs.Toml.Writer

/-! The points of a campaign stand or fall together before anything is executed. What decides there,
the gate, the format of the samples, the record and whether there is a last stage, looks at the names
of the parameters and never at their values, so what is wrong with one point is wrong with the
first. -/
set_option autoImplicit false

namespace BenchSweep

variable {σ : Type}

/-! ## The gate -/

/-- The gate sees the names of the parameters only. -/
theorem Benchmark.check_with_params (b : Benchmark) {params : Params}
    (h : params.keys = b.params.keys) (target : String) :
    ({ b with params := params } : Benchmark).check target = b.check target := by
  unfold check binding?
  rw [h]

/-! ## The record -/

namespace Plan

theorem isSome_write_pair (x : String × Value) : (pair x).2.write.isSome = true := by
  obtain ⟨name, v⟩ := x
  cases v with
  | integer n => exact (Toml.Scalar.isSome_write_integer_iff _).2 ⟨n.le_toInt, n.toInt_lt⟩
  | _ => rfl

/-- The record has a spelling unless there are too many threads for it. -/
theorem isSome_write_manifest_iff (p : Plan) (startedAt : Nat) :
    ((p.manifest startedAt).write).isSome = true ↔ p.settings.threads.toNat < Nat.pow 2 63 := by
  have hiterations : p.settings.iterations.toNat < Nat.pow 2 63 :=
    Nat.lt_trans p.settings.iterations.toNat_lt (by decide)
  have hparams : ∀ params : Params, ∀ x ∈ params.entries.map pair, x.2.write.isSome = true := by
    intro params x hx
    obtain ⟨y, -, rfl⟩ := List.mem_map.1 hx
    exact isSome_write_pair y
  rw [Toml.Sheet.isSome_write_iff]
  constructor
  · rintro ⟨hpairs, -⟩
    exact (Toml.Scalar.isSome_write_natCast_iff _).1 (hpairs ("threads", _) (by simp [manifest]))
  · intro hthreads
    refine ⟨?_, ?_⟩
    · intro x hx
      simp only [manifest, List.mem_cons, List.not_mem_nil, or_false] at hx
      rcases hx with rfl | rfl | rfl | rfl | rfl | rfl
      · rfl
      · rfl
      · rfl
      · exact (Toml.Scalar.isSome_write_natCast_iff _).2 hiterations
      · exact (Toml.Scalar.isSome_write_natCast_iff _).2 hthreads
      · rfl
    · intro table ht
      simp only [manifest, List.mem_cons, List.not_mem_nil, or_false] at ht
      rcases ht with rfl | rfl
      · exact hparams _
      · exact hparams _

/-! ## Faults -/

/-- Whether the plan fails before anything is executed, whatever the host answers. -/
def Faulty (p : Plan) : Prop :=
  p.report.passed = false ∧ p.policy = .abort ∨
    p.report.passed = true ∧ ((∃ f, p.format = .error f) ∨
      Nat.pow 2 63 ≤ p.settings.threads.toNat ∨ p.target.run = none)

end Plan

/-- The failures whose cause is the configuration and not the host, a command or its output. -/
def Failure.OfConfiguration : Failure → Prop
  | .incompatible _ _ _ => True
  | .noFormat _ => True
  | .invalidPattern _ => True
  | .manifest => True
  | .noRunCommand _ => True
  | _ => False

theorem Failure.OfExecution.not_ofConfiguration {f : Failure} (h : f.OfExecution) :
    ¬ f.OfConfiguration := by
  cases f with
  | host fault => exact id
  | unstartable program fault => exact id
  | commandFailed program code => exact id
  | _ => exact h.elim

namespace Plan

theorem record_eq_none_of_prepareFiles {p : Plan} {record : Option String} {fs fs' : Files}
    (h : p.prepareFiles record fs = (fs', .error .manifest)) : record = none := by
  cases record with
  | none => rfl
  | some text =>
    unfold prepareFiles recordFiles at h
    split at h
    · cases h
    · rename_i made _
      dsimp only at h
      cases hw : made.write p.manifestPath (Text.Utf8.bytes text) with
      | ok recorded =>
        rw [hw] at h
        cases h
      | error fault =>
        rw [hw] at h
        cases h

theorem prepareFiles_none (p : Plan) (fs : Files) :
    (p.prepareFiles none fs).2 ≠ .ok () := by
  unfold prepareFiles recordFiles
  rcases fs.makeDirectories p.directory with ⟨made, _ | fault⟩
  · simp
  · simp

section

variable {p : Plan} {execute : Executor σ} {w : World σ} {calls : List Call} {fs : Files}

theorem faulty_of_manifest (hp : p.report.passed = true) {startedAt : Nat}
    (h : (p.manifest startedAt).write = none) : p.Faulty := by
  refine .inr ⟨hp, .inr (.inl ?_)⟩
  by_contra hlt
  have hs := (p.isSome_write_manifest_iff startedAt).2 (Nat.lt_of_not_le hlt)
  rw [h] at hs
  cases hs

/-- A run that fails with a failure of the configuration is that of a faulty plan. -/
theorem Runs.faulty {f : Failure} (h : p.Runs execute w calls (.error f) fs)
    (he : execute.FailsByExecution) (hf : f.OfConfiguration) : p.Faulty := by
  generalize hout : (Except.error f : Except Failure Outcome) = out at h
  cases h with
  | refused hp =>
    unfold refusal at hout
    cases hpolicy : p.policy with
    | goOn =>
      rw [hpolicy] at hout
      cases hout
    | abort => exact .inl ⟨hp, hpolicy⟩
  | unread hp hformat => exact .inr ⟨hp, .inl ⟨_, hformat⟩⟩
  | unprepared hp hformat hr hprep =>
    cases hout
    rcases prepareFiles_eq_error hprep with rfl | ⟨fault, rfl⟩
    · rw [record_eq_none_of_prepareFiles hprep] at hr
      exact faulty_of_manifest hp hr
    · exact hf.elim
  | unmeasured hp hformat hr hprep hrun => exact .inr ⟨hp, .inr (.inr hrun)⟩
  | measured hp hformat hr hprep hrun hperf hends =>
    rcases finish_eq_error hout.symm with rfl | ⟨fault, rfl⟩
    · rcases hends.eq_error with rfl | ⟨e, hread⟩
      · have hx := ofExecution_of_performs hp (binding_of_format_eq_ok hformat) he hperf
        exact (hx.not_ofConfiguration hf).elim
      · obtain ⟨line, reason, rfl⟩ := Sampler.exists_of_samples_eq_error hread
        exact hf.elim
    · exact hf.elim

/-- A faulty plan fails before it calls anything. -/
theorem Runs.of_faulty {out : Except Failure Outcome} (h : p.Runs execute w calls out fs)
    (hf : p.Faulty) : calls = [] ∧ ∃ f, out = .error f := by
  cases h with
  | refused hp =>
    rcases hf with ⟨-, hpolicy⟩ | ⟨hp', -⟩
    · unfold refusal
      rw [hpolicy]
      exact ⟨rfl, _, rfl⟩
    · rw [hp] at hp'
      cases hp'
  | measured hp hformat hr hprep hrun hperf hends =>
    rcases hf with ⟨hp', -⟩ | ⟨-, ⟨f, hf⟩ | hthreads | hn⟩
    · rw [hp] at hp'
      cases hp'
    · rw [hformat] at hf
      cases hf
    · have hnone := mt (p.isSome_write_manifest_iff w.clock).1 (Nat.not_lt_of_le hthreads)
      rw [hr, Option.not_isSome_iff_eq_none] at hnone
      rw [hnone] at hprep
      exact (p.prepareFiles_none w.files (congrArg Prod.snd hprep)).elim
    · rw [hrun] at hn
      cases hn
  | _ => exact ⟨rfl, _, rfl⟩

theorem Runs.not_skipped {out : Except Failure Outcome} (h : p.Runs execute w calls out fs)
    (hp : p.report.passed = true) (report : Report) : out ≠ .ok (.skipped report) := by
  intro hout
  cases h with
  | refused hn =>
    rw [hp] at hn
    cases hn
  | @measured record b sampler fs c calls fault x w' w'' _ hf hr hprep hrun hperf hends =>
    unfold finish at hout
    cases x with
    | error f => cases hout
    | ok times =>
      dsimp only at hout
      split at hout <;> cases hout
  | _ => cases hout

end

/-- Whether a run did not get past the gate. -/
def Refused (out : Except Failure Outcome) : Prop :=
  (∃ report, out = .ok (.skipped report)) ∨
    ∃ benchmark target n, out = .error (.incompatible benchmark target n)

theorem refused_run_iff (p : Plan) {execute : Executor σ} (he : execute.FailsByExecution)
    (w : World σ) : Refused ((p.run execute).on w).1 ↔ p.report.passed = false := by
  constructor
  · intro h
    by_contra hp
    rw [Bool.not_eq_false] at hp
    obtain ⟨calls, -, hruns⟩ := p.run_runs execute w
    rcases h with ⟨report, h⟩ | ⟨benchmark, target, n, h⟩
    · rw [h] at hruns
      exact hruns.not_skipped hp report rfl
    · rw [h] at hruns
      rcases hruns.eq_error_of_passed hp he with
        h | ⟨fault, h⟩ | h | h | ⟨reader, line, reason, h⟩ | h
      case inr.inr.inr.inr.inr => exact h
      all_goals cases h
  · intro hp
    rw [run_of_not_passed hp]
    unfold refusal
    cases p.policy with
    | goOn => exact .inl ⟨_, rfl⟩
    | abort => exact .inr ⟨_, _, _, rfl⟩

end Plan

/-! ## Campaigns -/

namespace Campaign

variable {c : Campaign} {points : List Params}

theorem mem_plans {startedAt : Nat} {plans : List Plan} (hpoints : c.points = .ok points)
    (h : c.plans startedAt = .ok plans) {p : Plan} (hp : p ∈ plans) :
    ∃ params directory, params.keys = c.benchmark.params.keys ∧ c.plan params directory = p := by
  obtain ⟨i, hi⟩ := List.mem_iff_getElem?.1 hp
  obtain ⟨params, directory, hparams, -, he⟩ := (getElem?_plans_iff hpoints h).1 hi
  exact ⟨params, directory, keys_of_mem_sweep hpoints (List.mem_of_getElem? hparams), he⟩

theorem report_plan {params : Params} (h : params.keys = c.benchmark.params.keys)
    (directory : Path) : (c.plan params directory).report = c.benchmark.check c.target.name :=
  c.benchmark.check_with_params h c.target.name

theorem faulty_plan_iff {params params' : Params} (h : params.keys = c.benchmark.params.keys)
    (h' : params'.keys = c.benchmark.params.keys) (directory directory' : Path) :
    (c.plan params directory).Faulty ↔ (c.plan params' directory').Faulty := by
  unfold Plan.Faulty
  rw [report_plan h, report_plan h']
  exact Iff.rfl

theorem plan_of_mem_turns (hpoints : c.points = .ok points) {execute : Plan → Executor σ}
    {announce : Announcement σ} {w : World σ} {t : Turn σ} (h : t ∈ c.turns execute announce w) :
    ∃ params directory, params.keys = c.benchmark.params.keys ∧
      c.plan params directory = t.plan := by
  have hplans := plans_of_points hpoints w.clock
  exact mem_plans hpoints hplans ((map_plan_turns_isPrefix execute announce hplans).subset (List.mem_map_of_mem h))

/-- Of the runs that are reached, one whose failure is due to the configuration is the first. -/
theorem eq_singleton_of_configuration (hpoints : c.points = .ok points)
    {execute : Plan → Executor σ} (he : ∀ p, (execute p).FailsByExecution)
    {announce : Announcement σ} {w : World σ} {t : Turn σ}
    (ht : (c.turns execute announce w).getLast? = some t) {f : Failure} (hf : t.outcome = .error f)
    (hc : f.OfConfiguration) : c.turns execute announce w = [t] ∧ t.calls = [] := by
  have hmem := List.mem_of_getLast? ht
  have hruns := runs_of_mem_turns hmem
  rw [hf] at hruns
  have hfaulty := hruns.faulty (he t.plan) hc
  have hfirst : ∀ t₁ ∈ c.turns execute announce w, t₁.calls = [] ∧ ∃ f₁, t₁.outcome = .error f₁ := by
    intro t₁ ht₁
    refine (runs_of_mem_turns ht₁).of_faulty ?_
    obtain ⟨params, directory, hkeys, hp⟩ := plan_of_mem_turns hpoints hmem
    obtain ⟨params₁, directory₁, hkeys₁, hp₁⟩ := plan_of_mem_turns hpoints ht₁
    rw [← hp₁, faulty_plan_iff hkeys₁ hkeys directory₁ directory, hp]
    exact hfaulty
  refine ⟨?_, (hfirst t hmem).1⟩
  cases hturns : c.turns execute announce w with
  | nil =>
    rw [hturns] at ht
    cases ht
  | cons t₁ more =>
    rw [hturns] at ht
    cases more with
    | nil =>
      cases ht
      rfl
    | cons t₂ more =>
      obtain ⟨-, f₁, hf₁⟩ := hfirst t₁ (hturns ▸ List.mem_cons_self)
      obtain ⟨outcome, ho⟩ := outcome_of_mem_dropLast_turns (t := t₁) (by
        rw [hturns, List.dropLast_cons_cons]
        exact List.mem_cons_self)
      rw [hf₁] at ho
      cases ho

/-- The report on every point of a campaign is that on the declared parameters, so either all of its
runs are refused or none is. If the campaign fails with a failure that is due to the configuration,
its first run does, and nothing is called. -/
theorem points_stand_or_fall_together (hpoints : c.points = .ok points)
    {execute : Plan → Executor σ} (he : ∀ p, (execute p).FailsByExecution)
    (announce : Announcement σ) (w : World σ) :
    let plans := List.zipWith c.plan points (c.directories w.clock points.length)
    let out := ((c.run execute announce).on w).1
    (∀ point ∈ points, ∀ target,
      ({ c.benchmark with params := point } : Benchmark).check target =
        c.benchmark.check target) ∧
    c.plans w.clock = .ok plans ∧
    (∀ p ∈ plans, ∀ v, Plan.Refused ((p.run (execute p)).on v).1 ↔
      (c.benchmark.check c.target.name).passed = false) ∧
    ∀ f, f.OfConfiguration → out = .error f → c.calls execute announce w = [] ∧
      ∃ t, c.turns execute announce w = [t] ∧ plans.head? = some t.plan ∧
        t.outcome = .error f := by
  intro plans out
  have hplans : c.plans w.clock = .ok plans := plans_of_points hpoints w.clock
  refine ⟨?_, hplans, ?_, ?_⟩
  · intro point hpoint target
    exact c.benchmark.check_with_params (keys_of_mem_sweep hpoints hpoint) target
  · intro p hp v
    obtain ⟨params, directory, hkeys, rfl⟩ := mem_plans hpoints hplans hp
    rw [Plan.refused_run_iff _ (he _), report_plan hkeys]
  · intro f hf hout
    obtain ⟨t, ht, hfault⟩ := (run_eq_error_iff hplans).1 hout
    obtain ⟨hone, hcalls⟩ := eq_singleton_of_configuration hpoints he ht hfault hf
    obtain ⟨rest, hrest⟩ := map_plan_turns_isPrefix execute announce hplans
    rw [hone] at hrest
    refine ⟨?_, t, hone, by rw [← hrest]; rfl, hfault⟩
    rw [c.calls_eq, hone, List.flatMap_singleton, hcalls]

/-- Two points of a target without a last stage: the first ends the campaign. -/
theorem points_stand_or_fall_together_without_run :
    let binding : Binding := ⟨none, none, some (.ofList [("depth", ["<value>"])]), none⟩
    let b : Benchmark := ⟨"b", .ofList [("depth", .integer 1)], .ofList [("t", binding)]⟩
    let t : Target := ⟨"t", .empty, some (.known .akka), some [.literal "make"], none, none, none, none⟩
    let c : Campaign := ⟨b, t, ⟨1, 1⟩, .goOn, [⟨"depth", [.integer 2, .integer 3]⟩], ⟨"/out"⟩⟩
    let points : List Params := [.ofList [("depth", .integer 2)], .ofList [("depth", .integer 3)]]
    let execute : Plan → Executor Unit := fun p =>
      processExecutor p.policy (fun _ => pure (.error .notFound)) logSink
    let announce : Announcement Unit := fun _ _ w => w
    let w : World Unit := ⟨⟨.empty, []⟩, 0, [], ()⟩
    c.points = .ok points ∧
      ((c.run execute announce).on w).1 = .error (.noRunCommand "t") ∧
      c.calls execute announce w = [] ∧ ∃ t, c.turns execute announce w = [t] := by
  intro binding b t c points execute announce w
  have hpoints : c.points = .ok points := by decide +kernel
  have he : ∀ p, (execute p).FailsByExecution := fun p => processExecutor_failsByExecution _ _ _
  have hout : ((c.run execute announce).on w).1 = .error (.noRunCommand "t") := by decide +kernel
  obtain ⟨-, -, -, hfirst⟩ := points_stand_or_fall_together hpoints he announce w
  obtain ⟨hcalls, t', hturns, -⟩ := hfirst (.noRunCommand "t") trivial hout
  exact ⟨hpoints, hout, hcalls, t', hturns⟩

end Campaign

end BenchSweep
