import BenchSweep.Campaign
import BenchSweep.Proofs.Plan
import BenchSweep.Proofs.Sweep

/-! The runs that a campaign reaches. They are the first of its plans up to the one that fails, each
starts where the one before it ended, and the campaign calls, answers and leaves what they do. -/
set_option autoImplicit false

namespace BenchSweep

variable {σ : Type}

/-- A run of a plan: where it starts, what it calls and answers, and where it ends. -/
structure Turn (σ : Type) where
  plan : Plan
  before : World σ
  calls : List Call
  outcome : Except Failure Outcome
  after : World σ

namespace Plan

/-- The run of the plan that starts in a world. -/
def turn (p : Plan) (execute : Executor σ) (w : World σ) : Turn σ where
  plan := p
  before := w
  calls := Run.calls (p.run ·) execute w
  outcome := ((p.run execute).on w).1
  after := ((p.run execute).on w).2

def directoryEvent (p : Plan) : Event :=
  ⟨.info, s!"Output directory: {p.directory.text}", none⟩

theorem notes_run (p : Plan) (execute : Executor σ) (w : World σ) :
    Notes (p.run execute) (p.run execute.noting) w (p.turn execute w).calls := by
  obtain ⟨calls, hn, -⟩ := p.run_runs execute w
  have hc : (p.turn execute w).calls = calls := hn.calls_eq p.run
  rwa [hc]

theorem runs_turn (p : Plan) (execute : Executor σ) (w : World σ) :
    p.Runs execute w (p.turn execute w).calls (p.turn execute w).outcome
      (p.turn execute w).after.files := by
  obtain ⟨calls, hn, hruns⟩ := p.run_runs execute w
  have hc : (p.turn execute w).calls = calls := hn.calls_eq p.run
  rwa [hc]

end Plan

/-! ## Plans in turn -/

def Announcement.noting (announce : Announcement σ) : Announcement (List Call × σ) :=
  fun p outcome w => (announce p outcome w.plain).noting w.state.1

/-- The runs of plans in turn, up to the first that fails. -/
def turns (execute : Plan → Executor σ) (announce : Announcement σ) :
    List Plan → World σ → List (Turn σ)
  | [], _ => []
  | p :: rest, w =>
    let t := p.turn (execute p) (w.told [p.directoryEvent])
    match t.outcome with
    | .ok outcome => t :: turns execute announce rest (announce p outcome t.after)
    | .error _ => [t]

section Turns

variable (execute : Plan → Executor σ) (announce : Announcement σ)

theorem turns_cons_of_ok {p : Plan} {w w' : World σ} {outcome : Outcome}
    (h : (p.run (execute p)).on (w.told [p.directoryEvent]) = (.ok outcome, w'))
    (rest : List Plan) :
    turns execute announce (p :: rest) w = p.turn (execute p) (w.told [p.directoryEvent]) ::
      turns execute announce rest (announce p outcome w') := by
  rw [turns]
  simp only [Plan.turn, h]

theorem turns_cons_of_error {p : Plan} {w w' : World σ} {f : Failure}
    (h : (p.run (execute p)).on (w.told [p.directoryEvent]) = (.error f, w')) (rest : List Plan) :
    turns execute announce (p :: rest) w = [p.turn (execute p) (w.told [p.directoryEvent])] := by
  rw [turns]
  simp only [Plan.turn, h]

theorem runInTurn_cons_of_ok {p : Plan} {w w' : World σ} {outcome : Outcome}
    (h : (p.run (execute p)).on (w.told [p.directoryEvent]) = (.ok outcome, w'))
    (rest : List Plan) :
    (runInTurn execute announce (p :: rest)).on w =
      (runInTurn execute announce rest).on (announce p outcome w') := by
  rw [runInTurn, Run.on_bind_ok (Run.on_report _ _ w)]
  refine (Run.on_bind_ok h _).trans ?_
  rw [Run.on_bind_ok (Run.on_modify _ _)]

theorem runInTurn_cons_of_error {p : Plan} {w w' : World σ} {f : Failure}
    (h : (p.run (execute p)).on (w.told [p.directoryEvent]) = (.error f, w')) (rest : List Plan) :
    (runInTurn execute announce (p :: rest)).on w = (.error f, w') := by
  rw [runInTurn, Run.on_bind_ok (Run.on_report _ _ w)]
  exact Run.on_bind_error h _

/-- The calls of plans in turn are those of the runs that are reached. -/
theorem notes_runInTurn (plans : List Plan) (w : World σ) :
    Notes (runInTurn execute announce plans)
      (runInTurn (fun p => (execute p).noting) announce.noting plans) w
      ((turns execute announce plans w).flatMap Turn.calls) := by
  induction plans generalizing w with
  | nil => exact Notes.pure _ w
  | cons p rest ih =>
    intro notes
    have hnotes : (p.run (execute p).noting).on ((w.noting notes).told [p.directoryEvent]) = _ :=
      p.notes_run (execute p) (w.told [p.directoryEvent]) notes
    rcases h : (p.run (execute p)).on (w.told [p.directoryEvent]) with ⟨f | outcome, w'⟩
    · rw [h] at hnotes
      rw [runInTurn_cons_of_error execute announce h, turns_cons_of_error execute announce h,
        runInTurn_cons_of_error (fun p => (execute p).noting) announce.noting hnotes,
        List.flatMap_singleton]
    · rw [h] at hnotes
      rw [runInTurn_cons_of_ok execute announce h, turns_cons_of_ok execute announce h,
        runInTurn_cons_of_ok (fun p => (execute p).noting) announce.noting hnotes,
        List.flatMap_cons, ← List.append_assoc]
      exact ih (announce p outcome w') _

theorem turns_isPrefix (plans : List Plan) (w : World σ) :
    (turns execute announce plans w).map Turn.plan <+: plans := by
  induction plans generalizing w with
  | nil => exact List.prefix_rfl
  | cons p rest ih =>
    rcases h : (p.run (execute p)).on (w.told [p.directoryEvent]) with ⟨f | outcome, w'⟩
    · rw [turns_cons_of_error execute announce h]
      exact List.cons_prefix_cons.2 ⟨rfl, List.nil_prefix⟩
    · rw [turns_cons_of_ok execute announce h]
      exact List.cons_prefix_cons.2 ⟨rfl, ih _⟩

theorem turn_of_mem_turns {plans : List Plan} {w : World σ} {t : Turn σ}
    (h : t ∈ turns execute announce plans w) :
    t.plan ∈ plans ∧ t = t.plan.turn (execute t.plan) t.before := by
  refine ⟨(turns_isPrefix execute announce plans w).subset (List.mem_map_of_mem h), ?_⟩
  induction plans generalizing w with
  | nil => cases h
  | cons p rest ih =>
    rcases hr : (p.run (execute p)).on (w.told [p.directoryEvent]) with ⟨f | outcome, w'⟩
    · rw [turns_cons_of_error execute announce hr] at h
      rw [List.mem_singleton.1 h]
      rfl
    · rw [turns_cons_of_ok execute announce hr] at h
      rcases List.mem_cons.1 h with rfl | h
      · rfl
      · exact ih h

/-- Plans in turn fail with the failure of the last run that is reached. -/
theorem runInTurn_eq_error_iff {plans : List Plan} {w : World σ} {f : Failure} :
    ((runInTurn execute announce plans).on w).1 = .error f ↔
      ∃ t, (turns execute announce plans w).getLast? = some t ∧ t.outcome = .error f := by
  induction plans generalizing w with
  | nil =>
    constructor
    · intro h
      cases h
    · rintro ⟨t, h, -⟩
      cases h
  | cons p rest ih =>
    rcases h : (p.run (execute p)).on (w.told [p.directoryEvent]) with ⟨g | outcome, w'⟩
    · have ht : (p.turn (execute p) (w.told [p.directoryEvent])).outcome = .error g :=
        congrArg Prod.fst h
      rw [runInTurn_cons_of_error execute announce h, turns_cons_of_error execute announce h,
        List.getLast?_singleton]
      simp [ht]
    · have ht : (p.turn (execute p) (w.told [p.directoryEvent])).outcome = .ok outcome :=
        congrArg Prod.fst h
      rw [runInTurn_cons_of_ok execute announce h, turns_cons_of_ok execute announce h, ih,
        List.getLast?_cons]
      cases (turns execute announce rest (announce p outcome w')).getLast? with
      | none => simp [ht]
      | some t => simp

/-- No run but the last that is reached fails. -/
theorem outcome_of_mem_dropLast {plans : List Plan} {w : World σ} :
    ∀ t ∈ (turns execute announce plans w).dropLast, ∃ outcome, t.outcome = .ok outcome := by
  induction plans generalizing w with
  | nil => simp [turns]
  | cons p rest ih =>
    rcases h : (p.run (execute p)).on (w.told [p.directoryEvent]) with ⟨g | outcome, w'⟩
    · rw [turns_cons_of_error execute announce h]
      simp
    · rw [turns_cons_of_ok execute announce h]
      intro t ht
      cases hmore : turns execute announce rest (announce p outcome w') with
      | nil =>
        rw [hmore] at ht
        cases ht
      | cons t' more =>
        rw [hmore, List.dropLast_cons_cons] at ht
        rcases List.mem_cons.1 ht with rfl | ht
        · exact ⟨outcome, congrArg Prod.fst h⟩
        · exact ih t (hmore ▸ ht)

theorem plans_of_runInTurn_eq_ok {plans : List Plan} {w : World σ}
    (h : ((runInTurn execute announce plans).on w).1 = .ok ()) :
    (turns execute announce plans w).map Turn.plan = plans := by
  induction plans generalizing w with
  | nil => rfl
  | cons p rest ih =>
    rcases hr : (p.run (execute p)).on (w.told [p.directoryEvent]) with ⟨g | outcome, w'⟩
    · rw [runInTurn_cons_of_error execute announce hr] at h
      cases h
    · rw [runInTurn_cons_of_ok execute announce hr] at h
      rw [turns_cons_of_ok execute announce hr, List.map_cons, ih h]
      rfl

/-! ### Files -/

/-- An announcement that leaves the files alone. -/
def Announcement.KeepsFiles (announce : Announcement σ) : Prop :=
  ∀ p outcome w, (announce p outcome w).files = w.files

variable {announce}

theorem files_runInTurn (ha : announce.KeepsFiles) (plans : List Plan) (w : World σ) :
    ((runInTurn execute announce plans).on w).2.files =
      (((turns execute announce plans w).getLast?).map (·.after.files)).getD w.files := by
  induction plans generalizing w with
  | nil => rfl
  | cons p rest ih =>
    rcases h : (p.run (execute p)).on (w.told [p.directoryEvent]) with ⟨f | outcome, w'⟩
    · rw [runInTurn_cons_of_error execute announce h, turns_cons_of_error execute announce h]
      exact congrArg (fun x => x.2.files) h.symm
    · rw [runInTurn_cons_of_ok execute announce h, turns_cons_of_ok execute announce h, ih,
        ha p outcome w', List.getLast?_cons]
      cases (turns execute announce rest (announce p outcome w')).getLast? with
      | none => exact congrArg (fun x => x.2.files) h.symm
      | some t => rfl

/-- What holds of the files before the first run and outlasts each run that does not fail holds
before every run that is reached. -/
theorem files_before_of_step (ha : announce.KeepsFiles) {I : Nat → Files → Prop}
    {plans : List Plan} {w : World σ} (h0 : I 0 w.files)
    (hstep : ∀ i t, (turns execute announce plans w)[i]? = some t → I i t.before.files →
      (∃ outcome, t.outcome = .ok outcome) → I (i + 1) t.after.files) :
    ∀ i t, (turns execute announce plans w)[i]? = some t → I i t.before.files := by
  induction plans generalizing w I with
  | nil =>
    intro i t ht
    cases ht
  | cons p rest ih =>
    rcases h : (p.run (execute p)).on (w.told [p.directoryEvent]) with ⟨f | outcome, w'⟩
    · rw [turns_cons_of_error execute announce h]
      intro i t ht
      cases i with
      | zero =>
        cases ht
        exact h0
      | succ i => cases ht
    · rw [turns_cons_of_ok execute announce h] at hstep ⊢
      have hnext : I 1 (announce p outcome w').files := by
        rw [ha p outcome w']
        have hafter := hstep 0 _ rfl h0 ⟨outcome, congrArg Prod.fst h⟩
        rwa [show (p.turn (execute p) (w.told [p.directoryEvent])).after = w' from
          congrArg Prod.snd h] at hafter
      intro i t ht
      cases i with
      | zero =>
        cases ht
        exact h0
      | succ i =>
        exact ih (I := fun k => I (k + 1)) hnext (fun k t hk => hstep (k + 1) t hk) i t ht

end Turns

/-! ## Campaigns -/

namespace Campaign

/-- The message before several runs. -/
def sweepEvents (count : Nat) : List Event :=
  if 1 < count then [⟨.info, s!"Sweeping {count} parameter combinations", none⟩] else []

section

variable (c : Campaign) (execute : Plan → Executor σ) (announce : Announcement σ)

/-- The runs that the campaign reaches. -/
def turns (w : World σ) : List (Turn σ) :=
  match c.plans w.clock with
  | .ok plans => BenchSweep.turns execute announce plans (w.told (sweepEvents plans.length))
  | .error _ => []

def calls (w : World σ) : List Call :=
  ((c.run (fun p => (execute p).noting) announce.noting).on (w.noting [])).2.state.1

theorem on_run_of_ok {w : World σ} {plans : List Plan} (h : c.plans w.clock = .ok plans) :
    (c.run execute announce).on w =
      (runInTurn execute announce plans).on (w.told (sweepEvents plans.length)) := by
  unfold run sweepEvents
  rw [Run.on_bind_ok (Run.on_now w), Run.on_bind_ok (Run.on_of _ w |>.trans (by rw [h]))]
  split
  · rw [Run.on_bind_ok (Run.on_report _ _ w)]
  · rw [World.told_nil]

theorem on_run_of_error {w : World σ} {f : Failure} (h : c.plans w.clock = .error f) :
    (c.run execute announce).on w = (.error f, w) := by
  unfold run
  rw [Run.on_bind_ok (Run.on_now w), Run.on_bind_error (Run.on_of _ w |>.trans (by rw [h]))]

theorem turns_of_ok {w : World σ} {plans : List Plan} (h : c.plans w.clock = .ok plans) :
    c.turns execute announce w =
      BenchSweep.turns execute announce plans (w.told (sweepEvents plans.length)) := by
  unfold turns
  rw [h]

theorem calls_eq (w : World σ) :
    c.calls execute announce w = (c.turns execute announce w).flatMap Turn.calls := by
  unfold calls turns
  cases h : c.plans w.clock with
  | error f => rw [c.on_run_of_error _ _ (w := w.noting []) h]; rfl
  | ok plans =>
    rw [c.on_run_of_ok _ _ (w := w.noting []) h]
    exact congrArg (fun x => x.2.state.1)
      (notes_runInTurn execute announce plans (w.told (sweepEvents plans.length))).on_eq

variable {c execute announce} {w : World σ} {t : Turn σ}

theorem exists_plans_of_mem_turns (h : t ∈ c.turns execute announce w) :
    ∃ plans, c.plans w.clock = .ok plans ∧
      t ∈ BenchSweep.turns execute announce plans (w.told (sweepEvents plans.length)) := by
  unfold turns at h
  cases hplans : c.plans w.clock with
  | error f =>
    rw [hplans] at h
    cases h
  | ok plans =>
    rw [hplans] at h
    exact ⟨plans, rfl, h⟩

theorem runs_of_mem_turns (h : t ∈ c.turns execute announce w) :
    t.plan.Runs (execute t.plan) t.before t.calls t.outcome t.after.files := by
  obtain ⟨plans, -, ht⟩ := exists_plans_of_mem_turns h
  have hruns := t.plan.runs_turn (execute t.plan) t.before
  rwa [← (turn_of_mem_turns execute announce ht).2] at hruns

variable (execute announce) in
theorem map_plan_turns_isPrefix {plans : List Plan} (h : c.plans w.clock = .ok plans) :
    (c.turns execute announce w).map Turn.plan <+: plans := by
  rw [c.turns_of_ok execute announce h]
  exact turns_isPrefix execute announce plans _

theorem run_eq_error_iff {plans : List Plan} (h : c.plans w.clock = .ok plans) {f : Failure} :
    ((c.run execute announce).on w).1 = .error f ↔
      ∃ t, (c.turns execute announce w).getLast? = some t ∧ t.outcome = .error f := by
  rw [c.on_run_of_ok execute announce h, c.turns_of_ok execute announce h]
  exact runInTurn_eq_error_iff execute announce

theorem plans_of_run_eq_ok {plans : List Plan} (h : c.plans w.clock = .ok plans)
    (hok : ((c.run execute announce).on w).1 = .ok ()) :
    (c.turns execute announce w).map Turn.plan = plans := by
  rw [c.on_run_of_ok execute announce h] at hok
  rw [c.turns_of_ok execute announce h]
  exact plans_of_runInTurn_eq_ok execute announce hok

theorem files_run (ha : announce.KeepsFiles) :
    ((c.run execute announce).on w).2.files =
      (((c.turns execute announce w).getLast?).map (·.after.files)).getD w.files := by
  cases h : c.plans w.clock with
  | error f =>
    rw [c.on_run_of_error execute announce h]
    unfold turns
    rw [h]
    rfl
  | ok plans =>
    rw [c.on_run_of_ok execute announce h, c.turns_of_ok execute announce h]
    exact files_runInTurn execute ha plans _

/-- What holds of the files before a campaign and outlasts each run that does not fail holds before
every run that is reached. -/
theorem files_before_turn (ha : announce.KeepsFiles) {I : Nat → Files → Prop} (h0 : I 0 w.files)
    (hstep : ∀ i t, (c.turns execute announce w)[i]? = some t → I i t.before.files →
      (∃ outcome, t.outcome = .ok outcome) → I (i + 1) t.after.files) :
    ∀ i t, (c.turns execute announce w)[i]? = some t → I i t.before.files := by
  cases h : c.plans w.clock with
  | error f =>
    intro i t ht
    unfold turns at ht
    rw [h] at ht
    cases ht
  | ok plans =>
    rw [c.turns_of_ok execute announce h] at hstep ⊢
    exact files_before_of_step execute ha (w := w.told (sweepEvents plans.length)) h0 hstep

/-- What holds of the files before a campaign and outlasts each run holds behind the campaign. -/
theorem files_after_turns (ha : announce.KeepsFiles) {I : Nat → Files → Prop} (h0 : I 0 w.files)
    (hstep : ∀ i t, (c.turns execute announce w)[i]? = some t → I i t.before.files →
      I (i + 1) t.after.files) :
    I (c.turns execute announce w).length ((c.run execute announce).on w).2.files := by
  have hbefore := files_before_turn ha h0 fun i t ht h _ => hstep i t ht h
  rw [files_run ha, List.getLast?_eq_getElem?]
  cases hlast : (c.turns execute announce w)[(c.turns execute announce w).length - 1]? with
  | none =>
    have hnil : (c.turns execute announce w).length = 0 := by
      have hle := List.getElem?_eq_none_iff.1 hlast
      omega
    rw [hnil]
    exact h0
  | some last =>
    have hlt := (List.getElem?_eq_some_iff.1 hlast).1
    have hend := hstep _ last hlast (hbefore _ last hlast)
    rwa [Nat.sub_add_cancel (by omega)] at hend

theorem outcome_of_mem_dropLast_turns (h : t ∈ (c.turns execute announce w).dropLast) :
    ∃ outcome, t.outcome = .ok outcome := by
  obtain ⟨plans, hplans, -⟩ := exists_plans_of_mem_turns (List.dropLast_subset _ h)
  rw [c.turns_of_ok execute announce hplans] at h
  exact outcome_of_mem_dropLast execute announce t h

end

/-! ### Plans -/

theorem length_directories (c : Campaign) (startedAt count : Nat) :
    (c.directories startedAt count).length = count := by
  unfold directories
  dsimp only
  split
  · rename_i h
    exact h.symm
  · rw [List.length_map, List.length_range]

theorem plans_of_points {c : Campaign} {points : List Params} (h : c.points = .ok points)
    (startedAt : Nat) :
    c.plans startedAt =
      .ok (List.zipWith c.plan points (c.directories startedAt points.length)) := by
  unfold plans
  rw [h]
  rfl

theorem getElem?_plans_iff {c : Campaign} {points : List Params} {startedAt : Nat}
    {plans : List Plan} (hpoints : c.points = .ok points) (h : c.plans startedAt = .ok plans)
    {i : Nat} {p : Plan} :
    plans[i]? = some p ↔ ∃ params directory, points[i]? = some params ∧
      (c.directories startedAt points.length)[i]? = some directory ∧
      c.plan params directory = p := by
  rw [plans_of_points hpoints] at h
  cases h
  exact List.getElem?_zipWith_eq_some

/-- A run that is reached is that of the point and the directory of its number. -/
theorem plan_of_turn {c : Campaign} {points : List Params} {execute : Plan → Executor σ}
    {announce : Announcement σ} {w : World σ} (hpoints : c.points = .ok points) {i : Nat}
    {t : Turn σ} (ht : (c.turns execute announce w)[i]? = some t) :
    ∃ params d, points[i]? = some params ∧
      (c.directories w.clock points.length)[i]? = some d ∧ c.plan params d = t.plan := by
  have hplans := plans_of_points hpoints w.clock
  obtain ⟨rest, hrest⟩ := map_plan_turns_isPrefix execute announce hplans
  have hp : ((c.turns execute announce w).map Turn.plan)[i]? = some t.plan := by
    rw [List.getElem?_map, ht]
    rfl
  refine (getElem?_plans_iff hpoints hplans).1 ?_
  rw [← hrest, List.getElem?_append_left (List.getElem?_eq_some_iff.1 hp).1, hp]

end Campaign

end BenchSweep
