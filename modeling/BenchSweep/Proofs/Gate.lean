import BenchSweep.Proofs.Execution
import BenchSweep.Proofs.Plan
import BenchSweep.Proofs.Sampling

/-! What can go wrong in a run. The gate accepts a configuration exactly if its command lines can be
filled in, so a run that gets past it never misses a parameter or a binding. -/
set_option autoImplicit false

namespace BenchSweep

variable {σ : Type}

/-! ## Failures of the parts -/

theorem Sampler.exists_of_samples_eq_error {s : Sampler} {lines : List String} {f : Failure}
    (h : s.samples lines = .error f) :
    ∃ line reason, f = .unreadableSample s.label line reason := by
  obtain ⟨-, line, -, -, -, hline⟩ := samples_eq_error_iff.1 h
  obtain ⟨reason, -, hf⟩ := line_eq_error_iff.1 hline
  exact ⟨line, reason, hf⟩

namespace Plan

theorem prepareFiles_eq_error {p : Plan} {record : Option String} {fs fs' : Files} {f : Failure}
    (h : p.prepareFiles record fs = (fs', .error f)) : f = .manifest ∨ ∃ fault, f = .host fault := by
  unfold prepareFiles at h
  split at h
  · cases h
    exact .inr ⟨_, rfl⟩
  · unfold recordFiles at h
    cases record with
    | none =>
      cases h
      exact .inl rfl
    | some text =>
      rename_i made _
      dsimp only at h
      cases hw : made.write p.manifestPath (Text.Utf8.bytes text) with
      | ok recorded =>
        rw [hw] at h
        cases h
      | error fault =>
        rw [hw] at h
        cases h
        exact .inr ⟨_, rfl⟩

theorem finish_eq_error {p : Plan} {fs : Files} {x : Except Failure (List Binary64)} {f : Failure}
    (h : (p.finish fs x).1 = .error f) : x = .error f ∨ ∃ fault, f = .host fault := by
  unfold finish at h
  cases x with
  | error g =>
    cases h
    exact .inl rfl
  | ok times =>
    dsimp only at h
    split at h
    · cases h
    · cases h
      exact .inr ⟨_, rfl⟩

/-! ## Behind the gate -/

variable {p : Plan} {execute : Executor σ} {w w' : World σ} {b : Binding}

theorem binding_of_format_eq_ok {sampler : Sampler} (hf : p.format = .ok (b, sampler)) :
    p.benchmark.binding? p.target.name = some b := by
  unfold format binding at hf
  cases hb : p.benchmark.binding? p.target.name with
  | none =>
    rw [hb] at hf
    cases hf
  | some b' =>
    rw [hb] at hf
    dsimp only at hf
    cases hs : p.sampler b' with
    | error g =>
      rw [hs] at hf
      cases hf
    | ok s =>
      rw [hs] at hf
      cases hf
      rfl

/-- The stages of a plan behind the gate stop only where the executor fails. -/
theorem ofExecution_of_performs (hp : p.report.passed = true)
    (hb : p.benchmark.binding? p.target.name = some b) (he : execute.FailsByExecution)
    {cmds : List (Stage × Command)} {calls : List Call} {f : Failure}
    (h : p.target.Performs execute p.resolver b w cmds calls (some f) w') : f.OfExecution := by
  rcases h.of_fault with ⟨c, hc, hf⟩ | ⟨-, hf⟩
  · let I : List Call → World σ → Prop :=
      fun cs _ => ∀ c ∈ cs, ∀ f, c.answer = .error f → f.OfExecution
    have hstart : I [] w := by simp [I]
    have hcall : ∀ cs w i, I cs w →
        I (cs ++ [⟨i, ((execute i).on w).1⟩]) ((execute i).on w).2 := by
      intro cs w i hcs c hc
      rcases List.mem_append.1 hc with hc | hc
      · exact hcs c hc
      · rw [List.mem_singleton.1 hc]
        exact he i w
    have hall : I calls w' := h.invariant (fun cs w es hcs => hcs) hcall hstart
    exact hall c (List.mem_of_getLast? hc) f hf
  · obtain ⟨x, -, hx⟩ := List.mem_map.1 (List.mem_of_getElem? hf)
    obtain ⟨i, hi⟩ := Benchmark.exists_build_of_check_passed hp hb p.settings x.2
    change (Resolver.mk p.benchmark.params p.settings).build b x.2 = _ at hx
    rw [hi] at hx
    cases hx

/-- How a run behind the gate can fail if its executor fails by execution only. -/
theorem Runs.eq_error_of_passed {calls : List Call} {fs : Files} {f : Failure}
    (h : p.Runs execute w calls (.error f) fs) (hp : p.report.passed = true)
    (he : execute.FailsByExecution) :
    f = .noFormat p.target.name ∨ (∃ fault, f = .invalidPattern fault) ∨ f = .manifest ∨
      f = .noRunCommand p.target.name ∨
      (∃ reader line reason, f = .unreadableSample reader line reason) ∨ f.OfExecution := by
  generalize hout : (Except.error f : Except Failure Outcome) = out at h
  cases h with
  | refused hn =>
    rw [hp] at hn
    cases hn
  | unread _ hf =>
    cases hout
    obtain ⟨b, hb, -⟩ := (Benchmark.check_passed_iff _ _).1 hp
    rcases (p.sampler_eq_error_iff b f).1 ((format_eq_error_iff hb f).1 hf) with
      ⟨-, h⟩ | ⟨pattern, scale, fault, -, -, h⟩
    · exact .inl h
    · exact .inr (.inl ⟨fault, h⟩)
  | unprepared _ hf hr hprep =>
    cases hout
    rcases prepareFiles_eq_error hprep with h | ⟨fault, rfl⟩
    · exact .inr (.inr (.inl h))
    · exact .inr (.inr (.inr (.inr (.inr trivial))))
  | unmeasured _ hf hr hprep hrun =>
    cases hout
    exact .inr (.inr (.inr (.inl rfl)))
  | measured _ hf hr hprep hrun hperf hends =>
    rcases finish_eq_error hout.symm with rfl | ⟨fault, rfl⟩
    · rcases hends.eq_error with rfl | ⟨e, hread⟩
      · exact .inr (.inr (.inr (.inr (.inr
          (ofExecution_of_performs hp (binding_of_format_eq_ok hf) he hperf)))))
      · obtain ⟨line, reason, h⟩ := Sampler.exists_of_samples_eq_error hread
        exact .inr (.inr (.inr (.inr (.inl ⟨_, line, reason, h⟩))))
    · exact .inr (.inr (.inr (.inr (.inr trivial))))

/-- How a run can fail if its executor fails by execution only. -/
theorem run_eq_error (he : execute.FailsByExecution) {f : Failure}
    (h : ((p.run execute).on w).1 = .error f) :
    f = .incompatible p.benchmark.name p.target.name p.report.errorCount ∨
      f = .noFormat p.target.name ∨ (∃ fault, f = .invalidPattern fault) ∨ f = .manifest ∨
      f = .noRunCommand p.target.name ∨
      (∃ reader line reason, f = .unreadableSample reader line reason) ∨ f.OfExecution := by
  cases hp : p.report.passed with
  | true =>
    obtain ⟨calls, -, hruns⟩ := p.run_runs execute w
    rw [h] at hruns
    exact .inr (hruns.eq_error_of_passed hp he)
  | false =>
    rw [run_of_not_passed hp] at h
    unfold refusal at h
    cases hpolicy : p.policy with
    | goOn =>
      rw [hpolicy] at h
      cases h
    | abort =>
      rw [hpolicy] at h
      cases h
      exact .inl rfl

/-- The gate lets a configuration pass exactly if the target has a binding and all of its groups can be
filled in. Then every command line can be filled in, whatever its tokens are, and no run with an
executor that fails by execution only fails for want of a parameter or a binding. -/
theorem gate_agrees_with_resolution (b : Benchmark) (target : String) (settings : RunSettings) :
    ((b.check target).passed = true ↔
      ∃ binding, b.binding? target = some binding ∧
        ∀ slot, ∃ ws, (Resolver.mk b.params settings).arguments (binding.group slot) = .ok ws) ∧
    ((b.check target).passed = true → ∀ binding, b.binding? target = some binding →
      ∀ c, ∃ i, (Resolver.mk b.params settings).build binding c = .ok i) ∧
    ∀ (p : Plan) (execute : Executor σ), execute.FailsByExecution →
      ∀ w f, ((p.run execute).on w).1 = .error f →
        (∀ name, f ≠ .unknownParameter name) ∧
          ∀ benchmark target, f ≠ .unsupportedTarget benchmark target := by
  refine ⟨b.check_passed_iff_arguments target settings, ?_, ?_⟩
  · intro hp binding hb c
    exact Benchmark.exists_build_of_check_passed hp hb settings c
  · intro p execute he w f h
    rcases run_eq_error he h with
      rfl | rfl | ⟨fault, rfl⟩ | rfl | rfl | ⟨reader, line, reason, rfl⟩ | h
    case inr.inr.inr.inr.inr.inr =>
      cases f with
      | host fault => simp
      | unstartable program fault => simp
      | commandFailed program code => simp
      | _ => exact h.elim
    all_goals simp

/-- A benchmark that passes the gate although neither side says how its samples are read. -/
theorem gate_agrees_with_resolution_without_format :
    let binding : Binding := ⟨none, none, some (.ofList [("depth", ["-d", "<value>"])]), none⟩
    let b : Benchmark := ⟨"b", .ofList [("depth", .bool true)], .ofList [("t", binding)]⟩
    let t : Target := ⟨"t", .empty, none, none, none, none, none, some [.literal "bench", .group .run]⟩
    let p : Plan := ⟨b, t, ⟨1, 1⟩, .abort, ⟨"out"⟩⟩
    let execute : Executor Unit := processExecutor .abort (fun _ => pure (.error .notFound)) logSink
    let w : World Unit := ⟨⟨.empty, []⟩, 0, [], ()⟩
    (b.check "t").passed = true ∧ b.binding? "t" = some binding ∧
      (∃ i, (Resolver.mk b.params ⟨1, 1⟩).build binding [.group .run, .group .run] = .ok i) ∧
      ((p.run execute).on w).1 = .error (.noFormat "t") ∧
      ∀ name, Failure.noFormat "t" ≠ .unknownParameter name := by
  intro binding b t p execute w
  have hp : (b.check "t").passed = true := by decide
  have hb : b.binding? "t" = some binding := by decide
  have hf : ((p.run execute).on w).1 = .error (.noFormat "t") := rfl
  obtain ⟨-, hbuild, hrun⟩ := gate_agrees_with_resolution (σ := Unit) b "t" ⟨1, 1⟩
  refine ⟨hp, hb, hbuild hp binding hb _, hf, ?_⟩
  exact (hrun p execute (processExecutor_failsByExecution _ _ _) w _ hf).1

end Plan

end BenchSweep
