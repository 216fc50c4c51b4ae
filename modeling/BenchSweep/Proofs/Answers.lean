import BenchSweep.Proofs.Directories
import BenchSweep.Proofs.ResultsFile
import BenchSweep.Proofs.Uniformity

/-! Runs whose executor answers each command line in one way. Such a run is decided by its plan, by
the spelling of its record and by the files at its start; of the files it sees no more than the way
to its directory and what stands below that, and it changes nothing else. -/
set_option autoImplicit false

namespace BenchSweep

variable {σ : Type}

/-- Whether an executor answers every command line in this way, whenever it is asked, and leaves the
files alone. -/
def Executor.Answers (execute : Executor σ) (answer : Invocation → Except Failure Execution) : Prop :=
  ∀ i w, ((execute i).on w).1 = answer i ∧ ((execute i).on w).2.files = w.files

namespace Target

variable (answer : Invocation → Except Failure Execution)

/-- The calls that stages make of an executor with these answers, and the fault that stops them. -/
def exchange (r : Resolver) (b : Binding) : List (Stage × Command) → List Call × Option Failure
  | [] => ([], none)
  | (_, c) :: rest =>
    match r.build b c with
    | .error f => ([], some f)
    | .ok i =>
      match answer i with
      | .error f => ([⟨i, .error f⟩], some f)
      | .ok e =>
        let later := exchange r b rest
        (⟨i, .ok e⟩ :: later.1, later.2)

/-- The samples behind an exchange. -/
def samplesOf (read : OutputReader) : List Call × Option Failure → Except Failure (List Binary64)
  | (_, some f) => .error f
  | (calls, none) =>
    match calls.getLast? with
    | some c => c.answer.bind fun e => read e.lines
    | none => read []

variable {answer} {t : Target} {execute : Executor σ} {r : Resolver} {b : Binding}

theorem Performs.eq_exchange (ha : execute.Answers answer) {w w' : World σ}
    {cmds : List (Stage × Command)} {calls : List Call} {fault : Option Failure}
    (h : Performs t execute r b w cmds calls fault w') :
    exchange answer r b cmds = (calls, fault) ∧ w'.files = w.files := by
  induction h with
  | done w => exact ⟨rfl, rfl⟩
  | unbuilt hc =>
    rw [exchange, hc]
    exact ⟨rfl, rfl⟩
  | @failed w w' s c rest i f hc hi =>
    obtain ⟨hanswer, hfiles⟩ := ha i (w.told [t.stageEvent s])
    rw [hi] at hanswer hfiles
    rw [exchange, hc]
    dsimp only
    rw [← hanswer]
    exact ⟨rfl, hfiles⟩
  | @next w w' w'' s c rest i e calls fault hc hi h ih =>
    obtain ⟨hanswer, hfiles⟩ := ha i (w.told [t.stageEvent s])
    rw [hi] at hanswer hfiles
    rw [exchange, hc]
    dsimp only
    rw [← hanswer, ih.1]
    exact ⟨rfl, ih.2.trans hfiles⟩

theorem Ends.eq_samplesOf {read : OutputReader} {calls : List Call} {fault : Option Failure}
    {w : World σ} {out : Except Failure (List Binary64) × World σ}
    (h : Ends read calls fault w out) : out.1 = samplesOf read (calls, fault) := by
  cases h with
  | fault calls f w => rfl
  | read before i e w =>
    unfold samplesOf
    dsimp only
    rw [List.getLast?_concat]
    rfl

end Target

/-! ## Plans -/

namespace Plan

structure Behaviour where
  calls : List Call
  outcome : Except Failure Outcome
  files : Files

variable (p : Plan) (answer : Invocation → Except Failure Execution)

/-- What a plan that is prepared does. -/
def behaviourFrom (b : Binding) (sampler : Sampler) (fs : Files) : Behaviour :=
  if p.target.run = none then ⟨[], .error (.noRunCommand p.target.name), fs⟩
  else
    let said := Target.exchange answer p.resolver b p.target.commands
    let x := Target.samplesOf sampler.samples said
    ⟨said.1, (p.finish fs x).1, (p.finish fs x).2⟩

/-- What a plan does whose record has this spelling. -/
def behaviour (record : Option String) (fs : Files) : Behaviour :=
  if p.report.passed = false then ⟨[], p.refusal, fs⟩
  else
    match p.format with
    | .error f => ⟨[], .error f, fs⟩
    | .ok (b, sampler) =>
      match p.prepareFiles record fs with
      | (fs, .error f) => ⟨[], .error f, fs⟩
      | (fs, .ok ()) => p.behaviourFrom answer b sampler fs

variable {p}

theorem behaviour_of_refused (hp : p.report.passed = false) (record : Option String) (fs : Files) :
    p.behaviour answer record fs = ⟨[], p.refusal, fs⟩ := by
  unfold behaviour
  rw [if_pos hp]

theorem behaviour_of_unread (hp : p.report.passed = true) {f : Failure} (hf : p.format = .error f)
    (record : Option String) (fs : Files) :
    p.behaviour answer record fs = ⟨[], .error f, fs⟩ := by
  unfold behaviour
  rw [if_neg (by rw [hp]; decide), hf]

section Prepared

variable (hp : p.report.passed = true) {b : Binding} {sampler : Sampler}
  (hf : p.format = .ok (b, sampler)) {record : Option String} {fs fs' : Files}

include hp hf

theorem behaviour_of_unprepared {f : Failure} (h : p.prepareFiles record fs = (fs', .error f)) :
    p.behaviour answer record fs = ⟨[], .error f, fs'⟩ := by
  unfold behaviour
  rw [if_neg (by rw [hp]; decide), hf]
  dsimp only
  rw [h]

theorem behaviour_of_prepared (h : p.prepareFiles record fs = (fs', .ok ())) :
    p.behaviour answer record fs = p.behaviourFrom answer b sampler fs' := by
  unfold behaviour
  rw [if_neg (by rw [hp]; decide), hf]
  dsimp only
  rw [h]

end Prepared

/-- Of all that an executor is, only its answers decide what a run does. -/
theorem Runs.eq_behaviour {answer} {execute : Executor σ} {w : World σ} {calls : List Call}
    {out : Except Failure Outcome} {fs : Files} (h : p.Runs execute w calls out fs)
    (ha : execute.Answers answer) :
    p.behaviour answer (p.manifest w.clock).write w.files = ⟨calls, out, fs⟩ := by
  cases h with
  | refused hp => exact behaviour_of_refused answer hp _ _
  | unread hp hf => exact behaviour_of_unread answer hp hf _ _
  | unprepared hp hf hr hprep =>
    rw [hr]
    exact behaviour_of_unprepared answer hp hf hprep
  | unmeasured hp hf hr hprep hrun =>
    rw [hr, behaviour_of_prepared answer hp hf hprep]
    exact if_pos hrun
  | @measured record b sampler fs c calls fault x w' w'' hp hf hr hprep hrun hperf hends =>
    obtain ⟨hsaid, hfiles⟩ := hperf.eq_exchange ha
    have hx : x = Target.samplesOf sampler.samples (calls, fault) := hends.eq_samplesOf
    have hsome : p.target.run ≠ none := by
      rw [hrun]
      simp
    rw [hr, behaviour_of_prepared answer hp hf hprep]
    unfold behaviourFrom
    rw [if_neg hsome, hsaid]
    dsimp only
    rw [← hx, hfiles]

end Plan

end BenchSweep
