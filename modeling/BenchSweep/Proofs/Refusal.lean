import BenchSweep.Proofs.Uniformity

/-! Campaigns that do not pass the gate. Their executors are never asked, so all that they do is known:
under the one policy the first run fails, under the other each run is skipped, and either way no more
than messages and announcements is left behind. -/
set_option autoImplicit false

namespace BenchSweep

variable {σ : Type}

/-! ## One run -/

namespace Plan

theorem turn_of_not_passed {p : Plan} (hp : p.report.passed = false) (execute : Executor σ)
    (w : World σ) :
    p.turn execute w = ⟨p, w, [], p.refusal, w.told (p.announcement ++ p.refusalEvents)⟩ := by
  unfold turn Run.calls
  rw [run_of_not_passed hp, run_of_not_passed hp]
  rfl

/-- The messages of a run that does not pass the gate. -/
def refusedEvents (p : Plan) : List Event := p.directoryEvent :: (p.announcement ++ p.refusalEvents)

/-- The world after a run that is skipped. -/
def skip (announce : Announcement σ) (w : World σ) (p : Plan) : World σ :=
  announce p (.skipped p.report) (w.told p.refusedEvents)

theorem on_run_of_not_passed {p : Plan} (hp : p.report.passed = false) (execute : Executor σ)
    (w : World σ) :
    (p.run execute).on (w.told [p.directoryEvent]) = (p.refusal, w.told p.refusedEvents) := by
  rw [run_of_not_passed hp, World.told_told]
  rfl

end Plan

/-! ## Runs in turn -/

section Turns

variable (execute : Plan → Executor σ) (announce : Announcement σ)

theorem runInTurn_of_skipped {plans : List Plan}
    (h : ∀ p ∈ plans, p.report.passed = false ∧ p.policy = .goOn) (w : World σ) :
    (runInTurn execute announce plans).on w = (.ok (), plans.foldl (Plan.skip announce) w) := by
  induction plans generalizing w with
  | nil => rfl
  | cons p rest ih =>
    obtain ⟨hp, hpolicy⟩ := h p List.mem_cons_self
    have hrun := Plan.on_run_of_not_passed hp (execute p) w
    rw [Plan.refusal, hpolicy] at hrun
    rw [runInTurn_cons_of_ok execute announce hrun,
      ih (fun q hq => h q (List.mem_cons_of_mem p hq))]
    rfl

end Turns

/-! ## Campaigns -/

namespace Campaign

variable {c : Campaign} {points : List Params} {execute : Plan → Executor σ}
  {announce : Announcement σ} {w : World σ}

def report (c : Campaign) : Report := c.benchmark.check c.target.name

theorem calls_eq_nil_of_not_passed (hpoints : c.points = .ok points)
    (hreport : c.report.passed = false) : c.calls execute announce w = [] := by
  rw [c.calls_eq, List.flatMap_eq_nil_iff]
  intro t ht
  obtain ⟨plans, hplans, hmem⟩ := exists_plans_of_mem_turns ht
  obtain ⟨params, directory, hkeys, hp⟩ := plan_of_mem_turns hpoints ht
  have hpassed : t.plan.report.passed = false := by rw [← hp, report_plan hkeys]; exact hreport
  rw [(turn_of_mem_turns execute announce hmem).2, Plan.turn_of_not_passed hpassed]

/-- The failure of a campaign that does not pass the gate. -/
def incompatible (c : Campaign) : Failure :=
  .incompatible c.benchmark.name c.target.name c.report.errorCount

theorem exists_cons_plans (hpoints : c.points = .ok points) (hne : points ≠ []) (startedAt : Nat) :
    ∃ p rest, c.plans startedAt = .ok (p :: rest) := by
  rw [plans_of_points hpoints]
  cases h : List.zipWith c.plan points (c.directories startedAt points.length) with
  | nil =>
    have hlength := congrArg List.length h
    rw [List.length_zipWith, c.length_directories, Nat.min_self] at hlength
    exact (hne (List.length_eq_zero_iff.1 hlength)).elim
  | cons p rest => exact ⟨p, rest, rfl⟩

theorem shared_of_mem_plans (hpoints : c.points = .ok points) {startedAt : Nat} {plans : List Plan}
    (hplans : c.plans startedAt = .ok plans) {p : Plan} (hp : p ∈ plans) :
    p.benchmark.name = c.benchmark.name ∧ p.target = c.target ∧ p.policy = c.policy ∧
      p.report = c.report := by
  obtain ⟨params, directory, hkeys, rfl⟩ := mem_plans hpoints hplans hp
  exact ⟨rfl, rfl, rfl, report_plan hkeys directory⟩

variable (execute announce) in
/-- If the policy is to abort, the first run fails and no other is reached. -/
theorem run_of_aborted (hpoints : c.points = .ok points) (hne : points ≠ [])
    (hreport : c.report.passed = false) (hpolicy : c.policy = .abort) :
    (∃ t, c.turns execute announce w = [t] ∧ t.outcome = .error c.incompatible) ∧
      ∃ events, (c.run execute announce).on w = (.error c.incompatible, w.told events) := by
  obtain ⟨p, rest, hplans⟩ := exists_cons_plans hpoints hne w.clock
  obtain ⟨hname, htarget, hpol, hr⟩ := shared_of_mem_plans hpoints hplans List.mem_cons_self
  have hrefusal : p.refusal = .error c.incompatible := by
    unfold Plan.refusal incompatible
    rw [hpol, hpolicy, hname, htarget, hr]
  have hrun := Plan.on_run_of_not_passed (hr ▸ hreport) (execute p)
    (w.told (sweepEvents (p :: rest).length))
  rw [hrefusal] at hrun
  rw [c.turns_of_ok execute announce hplans, c.on_run_of_ok execute announce hplans,
    turns_cons_of_error execute announce hrun, runInTurn_cons_of_error execute announce hrun]
  exact ⟨⟨_, rfl, congrArg Prod.fst hrun⟩, _, congrArg (Prod.mk _) (World.told_told w _ _)⟩

variable (execute announce) in
/-- If the policy is to continue, every run is skipped. -/
theorem run_of_skipped (hpoints : c.points = .ok points) (hreport : c.report.passed = false)
    (hpolicy : c.policy = .goOn) {plans : List Plan} (hplans : c.plans w.clock = .ok plans) :
    (c.run execute announce).on w =
      (.ok (), plans.foldl (Plan.skip announce) (w.told (sweepEvents plans.length))) := by
  rw [c.on_run_of_ok execute announce hplans]
  refine runInTurn_of_skipped execute announce ?_ _
  intro p hp
  obtain ⟨-, -, hpol, hr⟩ := shared_of_mem_plans hpoints hplans hp
  exact ⟨hr ▸ hreport, hpol.trans hpolicy⟩

/-- A campaign that passes the gate has no run that is refused. -/
theorem not_refused_of_passed (hpoints : c.points = .ok points)
    (he : ∀ p, (execute p).FailsByExecution) (hreport : c.report.passed = true) {t : Turn σ}
    (ht : t ∈ c.turns execute announce w) : ¬ Plan.Refused t.outcome := by
  obtain ⟨plans, hplans, hmem⟩ := exists_plans_of_mem_turns ht
  obtain ⟨hplan, hturn⟩ := turn_of_mem_turns execute announce hmem
  obtain ⟨-, -, -, hr⟩ := shared_of_mem_plans hpoints hplans hplan
  rw [hturn]
  refine mt (t.plan.refused_run_iff (he t.plan) t.before).1 ?_
  rw [hr, hreport]
  decide

theorem run_ne_incompatible_of_passed (hpoints : c.points = .ok points)
    (he : ∀ p, (execute p).FailsByExecution) (hreport : c.report.passed = true)
    (benchmark target : String) (n : Nat) :
    ((c.run execute announce).on w).1 ≠ .error (.incompatible benchmark target n) := by
  intro hout
  obtain ⟨t, ht, hf⟩ := (run_eq_error_iff (plans_of_points hpoints w.clock)).1 hout
  exact not_refused_of_passed hpoints he hreport (List.mem_of_getLast? ht)
    (.inr ⟨benchmark, target, n, hf⟩)

end Campaign

end BenchSweep
