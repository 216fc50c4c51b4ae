import BenchSweep.Proofs.Gate
import BenchSweep.Proofs.ResultsFile
import BenchSweep.Proofs.Toml.Writer

/-! What the policy decides. Let the processes of all stages be given in advance: to continue means
that their codes make no difference, to abort means to stop behind the first code other than zero,
and if there is none the two policies end alike. -/
set_option autoImplicit false

namespace BenchSweep

/-! ## Processes given in advance -/

/-- Answers calls with the processes that are left, one after the other. -/
def scripted : Launcher (List Process) := fun _ w =>
  match w.state with
  | [] => (.error .notFound, w)
  | process :: rest => (.ok process, { w with state := rest })

/-- Executes with processes that are given in advance. -/
def Policy.executor (policy : Policy) : Executor (List Process) :=
  processExecutor policy scripted logSink

/-- The processes of stages in order. -/
def script (outcome : Stage → Process) (cmds : List (Stage × Command)) : List Process :=
  cmds.map fun x => outcome x.1

theorem logSink_take {σ : Type} (source : String) (lines : List String) (w : World σ) :
    logSink.take source lines w = w.told (lines.map fun line => ⟨.info, line, some source⟩) := by
  induction lines generalizing w with
  | nil => exact (World.told_nil w).symm
  | cons line rest ih =>
    change logSink.take source rest (w.told [⟨.info, line, some source⟩]) = _
    rw [ih, World.told_told]
    rfl

theorem scripted_run (i : Invocation) {w : World (List Process)} {process : Process}
    {rest : List Process} (hs : w.state = process :: rest) :
    (scripted i).run w = (.ok process, { w with state := rest }) := by
  obtain ⟨files, clock, log, state⟩ := w
  subst hs
  rfl

/-- A call takes the next process, tells about it and hands its code to the policy. -/
theorem Policy.executor_on (policy : Policy) (i : Invocation) {w : World (List Process)}
    {process : Process} {rest : List Process} (hs : w.state = process :: rest) :
    ∃ events, (policy.executor i).on w =
      (policy.answer i process, { w with state := rest }.told events) := by
  have hl : (scripted i).run (w.told [i.event]) =
      (.ok process, { w with state := rest }.told [i.event]) := scripted_run i hs
  unfold executor
  rw [processExecutor_on_ok hl, logSink_take, World.told_told, World.told_told]
  exact ⟨_, rfl⟩

namespace Target

variable {t : Target} {policy : Policy} {r : Resolver} {b : Binding}

/-- The first of several stages takes the first process. -/
theorem Performs.cons_cases {w w' : World (List Process)} {s : Stage} {c : Command}
    {rest : List (Stage × Command)} {calls : List Call} {fault : Option Failure}
    (h : t.Performs policy.executor r b w ((s, c) :: rest) calls fault w') {process : Process}
    {more : List Process} (hs : w.state = process :: more) {i : Invocation}
    (hc : r.build b c = .ok i) :
    (policy.Accepts process.ending.code ∧ ∃ w₁ later,
        calls = ⟨i, .ok process.execution⟩ :: later ∧ w₁.files = w.files ∧ w₁.state = more ∧
        t.Performs policy.executor r b w₁ rest later fault w') ∨
      ¬ policy.Accepts process.ending.code ∧
        calls = [⟨i, .error (.commandFailed i.program process.ending.code)⟩] ∧
        fault = some (.commandFailed i.program process.ending.code) ∧ w'.files = w.files := by
  obtain ⟨events, he⟩ := policy.executor_on i (w := w.told [t.stageEvent s]) hs
  unfold Policy.answer at he
  -- `Performs` has a case for each answer, but only one of them is that of the policy
  cases h with
  | unbuilt hf =>
    rw [hc] at hf
    cases hf
  | failed hi hf =>
    rw [hc, Except.ok.injEq] at hi
    subst hi
    rw [he] at hf
    by_cases ha : policy.Accepts process.ending.code
    · rw [if_pos ha] at hf
      cases hf
    · rw [if_neg ha] at hf
      cases hf
      exact .inr ⟨ha, rfl, rfl, rfl⟩
  | next hi hf hr =>
    rw [hc, Except.ok.injEq] at hi
    subst hi
    rw [he] at hf
    by_cases ha : policy.Accepts process.ending.code
    · rw [if_pos ha] at hf
      cases hf
      refine .inl ⟨ha, { w with state := more }.told ([t.stageEvent s] ++ events), _, rfl, rfl, rfl, ?_⟩
      rw [← World.told_told]
      exact hr
    · rw [if_neg ha] at hf
      cases hf

variable {outcome : Stage → Process} {cmds : List (Stage × Command)}

/-- If the policy accepts all codes, all stages are executed. -/
theorem Performs.of_accepted {w w' : World (List Process)} {calls : List Call}
    {fault : Option Failure} (h : t.Performs policy.executor r b w cmds calls fault w')
    (hs : w.state = script outcome cmds) (hb : ∀ x ∈ cmds, ∃ i, r.build b x.2 = .ok i)
    (ha : ∀ x ∈ cmds, policy.Accepts (outcome x.1).ending.code) :
    fault = none ∧ w'.files = w.files ∧
      calls.map Call.answer = cmds.map fun x => .ok (outcome x.1).execution := by
  induction cmds generalizing w calls with
  | nil =>
    cases h
    exact ⟨rfl, rfl, rfl⟩
  | cons x rest ih =>
    obtain ⟨s, c⟩ := x
    obtain ⟨i, hi⟩ := hb _ List.mem_cons_self
    rcases h.cons_cases hs hi with ⟨-, w₁, later, rfl, hf, hs₁, hr⟩ | ⟨hn, -⟩
    · obtain ⟨hfault, hfiles, hanswers⟩ := ih hr hs₁ (fun y hy => hb y (List.mem_cons_of_mem _ hy))
        (fun y hy => ha y (List.mem_cons_of_mem _ hy))
      refine ⟨hfault, hfiles.trans hf, ?_⟩
      rw [List.map_cons, List.map_cons, hanswers]
    · exact (hn (ha _ List.mem_cons_self)).elim

/-- Otherwise they are executed up to the first whose code is not accepted. -/
theorem Performs.of_not_accepted {w w' : World (List Process)} {before after : List (Stage × Command)}
    {s : Stage} {c : Command} {calls : List Call} {fault : Option Failure}
    (h : t.Performs policy.executor r b w (before ++ (s, c) :: after) calls fault w')
    (hs : w.state = script outcome (before ++ (s, c) :: after))
    (hb : ∀ x ∈ before ++ (s, c) :: after, ∃ i, r.build b x.2 = .ok i)
    (ha : ∀ x ∈ before, policy.Accepts (outcome x.1).ending.code)
    (hn : ¬ policy.Accepts (outcome s).ending.code) :
    ∃ i, r.build b c = .ok i ∧
      fault = some (.commandFailed i.program (outcome s).ending.code) ∧ w'.files = w.files ∧
      calls.map Call.built = r.buildAll b (before ++ [(s, c)]) := by
  induction before generalizing w calls with
  | nil =>
    obtain ⟨i, hi⟩ := hb _ List.mem_cons_self
    rcases h.cons_cases hs hi with ⟨ha, -⟩ | ⟨-, rfl, hfault, hfiles⟩
    · exact (hn ha).elim
    · refine ⟨i, hi, hfault, hfiles, ?_⟩
      exact congrArg (fun x => [x]) hi.symm
  | cons x before ih =>
    obtain ⟨s', c'⟩ := x
    obtain ⟨j, hj⟩ := hb _ List.mem_cons_self
    rcases h.cons_cases hs hj with ⟨-, w₁, later, rfl, hf, hs₁, hr⟩ | ⟨hn', -⟩
    · obtain ⟨i, hi, hfault, hfiles, hcalls⟩ := ih hr hs₁
        (fun y hy => hb y (List.mem_cons_of_mem _ hy))
        (fun y hy => ha y (List.mem_cons_of_mem _ hy))
      refine ⟨i, hi, hfault, hfiles.trans hf, ?_⟩
      rw [List.map_cons, hcalls]
      exact congrArg (fun x => x :: r.buildAll b (before ++ [(s, c)])) hj.symm
    · exact (hn' (ha _ List.mem_cons_self)).elim

/-- If all stages are executed, the reader is given the lines of the last. -/
theorem Ends.eq_read_of_answers {c : Command} (hrun : t.run = some c) {read : OutputReader}
    {calls : List Call} {w w' : World (List Process)} {x : Except Failure (List Binary64)}
    (h : Ends read calls none w (x, w'))
    (ha : calls.map Call.answer = t.commands.map fun x => .ok (outcome x.1).execution) :
    x = read (outcome .run).execution.lines := by
  obtain ⟨before, i, e, rfl, hread⟩ := h.of_no_fault
  rw [t.commands_eq_of_run hrun, List.map_append, List.map_append] at ha
  have hlast := congrArg List.getLast? ha
  rw [List.map_singleton, List.map_singleton, List.getLast?_concat, List.getLast?_concat,
    Option.some.injEq, Except.ok.injEq] at hlast
  rw [← hlast]
  exact hread

end Target

namespace Plan

/-! ## Plans behind the gate -/

/-- Whether anything is executed behind the gate. -/
def Ready (p : Plan) (record : Option String) (fs : Files) : Prop :=
  (∃ x, p.format = .ok x) ∧ (p.prepareFiles record fs).2 = .ok () ∧ p.target.run ≠ none

/-- How a plan behind the gate ends if no stage stops it. Of all that the stages did, only the lines
of the last one count. -/
def verdict (p : Plan) (record : Option String) (fs : Files) (lines : List String) :
    Except Failure Outcome × Files :=
  match p.format with
  | .error f => (.error f, fs)
  | .ok (_, sampler) =>
    match p.prepareFiles record fs with
    | (fs, .error f) => (.error f, fs)
    | (fs, .ok ()) =>
      if p.target.run = none then (.error (.noRunCommand p.target.name), fs)
      else p.finish fs (sampler.samples lines)

theorem exists_build_of_passed {p : Plan} {b : Binding} (hp : p.report.passed = true)
    (hb : p.benchmark.binding? p.target.name = some b) {cmds : List (Stage × Command)} :
    ∀ x ∈ cmds, ∃ i, p.resolver.build b x.2 = .ok i :=
  fun x _ => Benchmark.exists_build_of_check_passed hp hb p.settings x.2

theorem binding_eq {p : Plan} {b b' : Binding} {sampler : Sampler}
    (hb : p.benchmark.binding? p.target.name = some b) (hf : p.format = .ok (b', sampler)) :
    b' = b :=
  Option.some.inj ((binding_of_format_eq_ok hf).symm.trans hb)

section

variable {p : Plan} {policy : Policy} {outcome : Stage → Process} {b : Binding}
  {record : Option String} {w : World (List Process)} {calls : List Call}
  {out : Except Failure Outcome} {fs : Files}

theorem Runs.of_accepted (h : p.Runs policy.executor w calls out fs)
    (hp : p.report.passed = true) (hb : p.benchmark.binding? p.target.name = some b)
    (hs : w.state = script outcome p.target.commands)
    (hr : (p.manifest w.clock).write = record)
    (ha : ∀ x ∈ p.target.commands, policy.Accepts (outcome x.1).ending.code) :
    (out, fs) = p.verdict record w.files (Output.lines (outcome .run).output) ∧
      (p.Ready record w.files ∧ calls.map Call.built = p.resolver.buildAll b p.target.commands ∨
        ¬ p.Ready record w.files ∧ calls = []) := by
  unfold verdict Ready
  cases h with
  | refused hp' =>
    rw [hp] at hp'
    cases hp'
  | unread hp' hf =>
    rw [hf]
    refine ⟨rfl, .inr ⟨?_, rfl⟩⟩
    rintro ⟨⟨x, hx⟩, -⟩
    cases hx
  | unprepared hp' hf hr' hprep =>
    rw [hr] at hr'
    subst hr'
    rw [hf, hprep]
    refine ⟨rfl, .inr ⟨?_, rfl⟩⟩
    rintro ⟨-, hx, -⟩
    cases hx
  | unmeasured hp' hf hr' hprep hrun =>
    rw [hr] at hr'
    subst hr'
    rw [hf, hprep]
    refine ⟨(if_pos hrun).symm, .inr ⟨?_, rfl⟩⟩
    rintro ⟨-, -, hx⟩
    exact hx hrun
  | @measured record' b' sampler fs' c calls fault x w' w'' hp' hf hr' hprep hrun hperf hends =>
    rw [hr] at hr'
    subst hr'
    obtain rfl : b' = b := binding_eq hb hf
    obtain ⟨hfault, hfiles, hanswers⟩ := hperf.of_accepted hs (exists_build_of_passed hp hb) ha
    subst hfault
    have hx := hends.eq_read_of_answers hrun hanswers
    have hsome : p.target.run ≠ none := by
      rw [hrun]
      simp
    rw [hf, hprep, hfiles, hx]
    refine ⟨(if_neg hsome).symm, .inl ⟨⟨⟨_, rfl⟩, rfl, hsome⟩, hperf.of_no_fault.1⟩⟩

/-- A plan that executes anything ends behind the first stage whose code is not accepted, with the
files as they were before the first stage. -/
theorem Runs.of_not_accepted (h : p.Runs policy.executor w calls out fs)
    (hp : p.report.passed = true) (hb : p.benchmark.binding? p.target.name = some b)
    (hs : w.state = script outcome p.target.commands)
    {before after : List (Stage × Command)} {s : Stage} {c : Command}
    (hcmds : p.target.commands = before ++ (s, c) :: after)
    (ha : ∀ x ∈ before, policy.Accepts (outcome x.1).ending.code)
    (hn : ¬ policy.Accepts (outcome s).ending.code) (hcalls : calls ≠ []) :
    ∃ i, p.resolver.build b c = .ok i ∧
      calls.map Call.built = p.resolver.buildAll b (before ++ [(s, c)]) ∧
      out = .error (.commandFailed i.program (outcome s).ending.code) ∧
      fs = (p.prepare.on w).2.files := by
  cases h with
  | refused hp' => exact (hcalls rfl).elim
  | unread hp' hf => exact (hcalls rfl).elim
  | unprepared hp' hf hr' hprep => exact (hcalls rfl).elim
  | unmeasured hp' hf hr' hprep hrun => exact (hcalls rfl).elim
  | @measured record' b' sampler fs' c' calls fault x w' w'' hp' hf hr' hprep hrun hperf hends =>
    obtain rfl : b' = b := binding_eq hb hf
    rw [hcmds] at hperf hs
    obtain ⟨i, hi, hfault, hfiles, hbuilt⟩ :=
      hperf.of_not_accepted hs (exists_build_of_passed hp hb) ha hn
    subst hfault
    have hx : x = .error (.commandFailed i.program (outcome s).ending.code) := by
      cases hends
      rfl
    rw [on_prepare hr', hprep, hx, hfiles]
    exact ⟨i, hi, hbuilt, rfl, rfl⟩

end

/-! ## Verdicts -/

/-- No verdict is that of a command. -/
theorem verdict_ne_commandFailed {p : Plan} {b : Binding}
    (hb : p.benchmark.binding? p.target.name = some b) (record : Option String) (fs : Files)
    (lines : List String) (program : String) (code : Int) :
    (p.verdict record fs lines).1 ≠ .error (.commandFailed program code) := by
  intro h
  unfold verdict at h
  cases hf : p.format with
  | error f =>
    rw [hf] at h
    cases h
    rcases (p.sampler_eq_error_iff b _).1 ((format_eq_error_iff hb _).1 hf) with
      ⟨-, h⟩ | ⟨pattern, scale, fault, -, -, h⟩
    · cases h
    · cases h
  | ok x =>
    obtain ⟨b', sampler⟩ := x
    rw [hf] at h
    rcases hprep : p.prepareFiles record fs with ⟨prepared, f | u⟩
    · rw [hprep] at h
      cases h
      rcases prepareFiles_eq_error hprep with h | ⟨fault, h⟩
      · cases h
      · cases h
    · rw [hprep] at h
      dsimp only at h
      split at h
      · cases h
      · rcases finish_eq_error h with h | ⟨fault, h⟩
        · obtain ⟨line, reason, h⟩ := Sampler.exists_of_samples_eq_error h
          cases h
        · cases h

theorem prepareFiles_alike (p : Plan) {record record' : Option String}
    (h : record.isSome = record'.isSome) (fs : Files) :
    (p.prepareFiles record' fs).2 = (p.prepareFiles record fs).2 ∧
      (p.prepareFiles record fs).1.Alike (p.prepareFiles record' fs).1 := by
  unfold prepareFiles recordFiles
  rcases fs.makeDirectories p.directory with ⟨made, _ | fault⟩
  · cases record with
    | none =>
      cases record' with
      | none => exact ⟨rfl, .rfl⟩
      | some text' => cases h
    | some text =>
      cases record' with
      | none => cases h
      | some text' =>
        dsimp only [Files.write]
        cases made.writable p.manifestPath with
        | error fault => exact ⟨rfl, .rfl⟩
        | ok place => exact ⟨rfl, Files.alike_put made place _ _⟩
  · exact ⟨rfl, .rfl⟩

theorem finish_alike (p : Plan) {fs fs' : Files} (h : fs.Alike fs')
    (x : Except Failure (List Binary64)) : (p.finish fs' x).1 = (p.finish fs x).1 := by
  unfold finish
  cases x with
  | error f => rfl
  | ok times =>
    dsimp only
    rw [h.writable_eq]
    cases fs.writable p.resultsPath <;> rfl

/-- Only whether there is a record decides a verdict, not what it says. -/
theorem verdict_alike (p : Plan) {record record' : Option String}
    (h : record.isSome = record'.isSome) (fs : Files) (lines : List String) :
    (p.verdict record' fs lines).1 = (p.verdict record fs lines).1 := by
  obtain ⟨hx, halike⟩ := p.prepareFiles_alike h fs
  unfold verdict
  cases p.format with
  | error f => rfl
  | ok y =>
    dsimp only
    rcases hprep : p.prepareFiles record fs with ⟨made, x⟩
    rcases hprep' : p.prepareFiles record' fs with ⟨made', x'⟩
    rw [hprep, hprep'] at hx halike
    dsimp only at hx halike
    subst hx
    cases x' with
    | error f => rfl
    | ok u =>
      dsimp only
      split
      · rfl
      · exact p.finish_alike halike _

/-! ## Two policies -/

/-- The plan under another policy. -/
def under (p : Plan) (policy : Policy) : Plan := { p with policy }

/-- The record notes the policy, but its spelling does not hang on that. -/
theorem isSome_write_manifest_under (p : Plan) (policy : Policy) (startedAt : Nat) :
    ((p.under policy).manifest startedAt).write.isSome = (p.manifest startedAt).write.isSome := by
  have hpairs : (∀ x ∈ ((p.under policy).manifest startedAt).pairs, x.2.write.isSome = true) ↔
      ∀ x ∈ (p.manifest startedAt).pairs, x.2.write.isSome = true := by
    simp [manifest, under, Toml.Scalar.write]
  rw [Bool.eq_iff_iff, Toml.Sheet.isSome_write_iff, Toml.Sheet.isSome_write_iff, hpairs]
  rfl

/-- The world in which the processes of the stages are given in advance. -/
def given (p : Plan) (outcome : Stage → Process) (w : World Unit) : World (List Process) :=
  ⟨w.files, w.clock, w.log, script outcome p.target.commands⟩

/-- The calls of the plan under a policy, its processes given in advance. -/
def callsUnder (p : Plan) (policy : Policy) (outcome : Stage → Process) (w : World Unit) :
    List Call :=
  Run.calls ((p.under policy).run ·) policy.executor (p.given outcome w)

/-- What the plan answers under a policy, its processes given in advance, and the world behind it. -/
def runUnder (p : Plan) (policy : Policy) (outcome : Stage → Process) (w : World Unit) :
    Except Failure Outcome × World (List Process) :=
  ((p.under policy).run policy.executor).on (p.given outcome w)

section

variable {p : Plan} {b : Binding} (hp : p.report.passed = true)
  (hb : p.benchmark.binding? p.target.name = some b) (policy : Policy) (w : World Unit)

theorem runs_under (p : Plan) (policy : Policy) (outcome : Stage → Process) (w : World Unit) :
    (p.under policy).Runs policy.executor (p.given outcome w) (p.callsUnder policy outcome w)
      (p.runUnder policy outcome w).1 (p.runUnder policy outcome w).2.files := by
  obtain ⟨calls, hn, hruns⟩ := (p.under policy).run_runs policy.executor (p.given outcome w)
  have hc : p.callsUnder policy outcome w = calls := hn.calls_eq (p.under policy).run
  rw [hc]
  exact hruns

include hp hb in
theorem runUnder_of_accepted {record : Option String} (outcome : Stage → Process)
    (hr : ((p.under policy).manifest w.clock).write = record)
    (ha : ∀ x ∈ p.target.commands, policy.Accepts (outcome x.1).ending.code) :
    ((p.runUnder policy outcome w).1, (p.runUnder policy outcome w).2.files) =
        p.verdict record w.files (Output.lines (outcome .run).output) ∧
      (p.Ready record w.files ∧ (p.callsUnder policy outcome w).map Call.built =
          p.resolver.buildAll b p.target.commands ∨
        ¬ p.Ready record w.files ∧ p.callsUnder policy outcome w = []) :=
  (p.runs_under policy outcome w).of_accepted hp hb rfl hr ha

end

theorem invocations_eq_of_built {cs ds : List Call} (h : cs.map Call.built = ds.map Call.built) :
    cs.map Call.invocation = ds.map Call.invocation := by
  have hi : ∀ i j : Invocation, (.ok i : Except Failure Invocation) = .ok j → i = j :=
    fun _ _ h => Except.ok.inj h
  have hc : ∀ cs : List Call, cs.map Call.built = (cs.map Call.invocation).map Except.ok := by
    intro cs
    rw [List.map_map]
    rfl
  rw [hc, hc] at h
  exact (List.map_inj_right hi).1 h

theorem not_ready_cases {p : Plan} {b : Binding}
    (hb : p.benchmark.binding? p.target.name = some b) {record : Option String} {w : World Unit}
    (hr : (p.manifest w.clock).write = record) (h : ¬ p.Ready record w.files) :
    (∃ f, p.sampler b = .error f) ∨ (∃ f, ((p.prepare : Run Unit Unit).on w).1 = .error f) ∨
      p.target.run = none := by
  cases hf : p.format with
  | error f => exact .inl ⟨f, (format_eq_error_iff hb f).1 hf⟩
  | ok x =>
    rw [on_prepare hr]
    cases hx : (p.prepareFiles record w.files).2 with
    | error f => exact .inr (.inl ⟨f, rfl⟩)
    | ok u =>
      refine .inr (.inr ?_)
      by_contra hrun
      exact h ⟨⟨x, hf⟩, hx, hrun⟩

theorem accepts_goOn (outcome : Stage → Process) (cmds : List (Stage × Command)) :
    ∀ x ∈ cmds, Policy.Accepts .goOn (outcome x.1).ending.code :=
  fun _ _ => .inr rfl

section

variable {p : Plan} {b : Binding} (hp : p.report.passed = true)
  (hb : p.benchmark.binding? p.target.name = some b) (w : World Unit)

include hp hb

theorem continue_alike {o o' : Stage → Process}
    (h : Output.lines (o .run).output = Output.lines (o' .run).output) :
    (p.callsUnder .goOn o w).map Call.invocation = (p.callsUnder .goOn o' w).map Call.invocation ∧
      (p.runUnder .goOn o w).1 = (p.runUnder .goOn o' w).1 ∧
      (p.runUnder .goOn o w).2.files = (p.runUnder .goOn o' w).2.files := by
  obtain ⟨hv, hc⟩ := runUnder_of_accepted hp hb .goOn w o rfl (accepts_goOn o _)
  obtain ⟨hv', hc'⟩ := runUnder_of_accepted hp hb .goOn w o' rfl (accepts_goOn o' _)
  rw [← h] at hv'
  obtain ⟨hout, hfiles⟩ := Prod.mk.inj (hv.trans hv'.symm)
  refine ⟨?_, hout, hfiles⟩
  rcases hc with ⟨hready, hc⟩ | ⟨hready, hc⟩
  · rcases hc' with ⟨-, hc'⟩ | ⟨hn, -⟩
    · exact invocations_eq_of_built (hc.trans hc'.symm)
    · exact (hn hready).elim
  · rcases hc' with ⟨hr, -⟩ | ⟨-, hc'⟩
    · exact (hready hr).elim
    · rw [hc, hc']

theorem continue_executes_all (o : Stage → Process) :
    ((p.callsUnder .goOn o w).map Call.built = p.resolver.buildAll b p.target.commands ∨
        p.callsUnder .goOn o w = [] ∧ ((∃ f, p.sampler b = .error f) ∨
          (∃ f, (((p.under .goOn).prepare : Run Unit Unit).on w).1 = .error f) ∨
          p.target.run = none)) ∧
      ∀ program code, (p.runUnder .goOn o w).1 ≠ .error (.commandFailed program code) := by
  obtain ⟨record, hr⟩ : ∃ record, ((p.under .goOn).manifest w.clock).write = record := ⟨_, rfl⟩
  obtain ⟨hv, hc⟩ := runUnder_of_accepted hp hb .goOn w o hr (accepts_goOn o _)
  constructor
  · rcases hc with ⟨-, hc⟩ | ⟨hn, hc⟩
    · exact .inl hc
    · exact .inr ⟨hc, not_ready_cases (p := p.under .goOn) hb hr hn⟩
  · intro program code h
    have hne := verdict_ne_commandFailed hb record w.files (Output.lines (o .run).output) program code
    rw [← hv] at hne
    exact hne h

theorem abort_stops {o : Stage → Process} {before after : List (Stage × Command)} {s : Stage}
    {c : Command} (hcmds : p.target.commands = before ++ (s, c) :: after)
    (ha : ∀ x ∈ before, (o x.1).ending.code = 0) (hn : (o s).ending.code ≠ 0)
    (hcalls : p.callsUnder .abort o w ≠ []) :
    ∃ i, p.resolver.build b c = .ok i ∧
      (p.callsUnder .abort o w).map Call.built = p.resolver.buildAll b (before ++ [(s, c)]) ∧
      (p.runUnder .abort o w).1 = .error (.commandFailed i.program (o s).ending.code) ∧
      (p.runUnder .abort o w).2.files = (((p.under .abort).prepare : Run Unit Unit).on w).2.files ∧
      p.Kept w.files (p.runUnder .abort o w).2.files := by
  obtain ⟨i, hi, hbuilt, hout, hfiles⟩ := (p.runs_under .abort o w).of_not_accepted hp hb rfl hcmds
    (fun x hx => .inl (ha x hx)) (fun h => h.elim hn (fun h => by cases h)) hcalls
  obtain ⟨record, hr⟩ : ∃ record, ((p.under .abort).manifest w.clock).write = record := ⟨_, rfl⟩
  have hprep := on_prepare (p := p.under .abort) (w := w) hr
  rw [on_prepare (w := p.given o w) hr] at hfiles
  rw [hprep]
  refine ⟨i, hi, hbuilt, hout, hfiles, ?_⟩
  rw [hfiles]
  exact kept_prepareFiles (p := p.under .abort) rfl

theorem abort_eq_continue {o : Stage → Process}
    (ha : ∀ x ∈ p.target.commands, (o x.1).ending.code = 0) :
    (p.runUnder .abort o w).1 = (p.runUnder .goOn o w).1 := by
  obtain ⟨hv, -⟩ := runUnder_of_accepted hp hb .goOn w o rfl (accepts_goOn o _)
  obtain ⟨hv', -⟩ := runUnder_of_accepted hp hb .abort w o rfl fun x hx => .inl (ha x hx)
  have hrecord : ((p.under .goOn).manifest w.clock).write.isSome =
      ((p.under .abort).manifest w.clock).write.isSome :=
    (p.isSome_write_manifest_under .goOn w.clock).trans
      (p.isSome_write_manifest_under .abort w.clock).symm
  have hverdict := p.verdict_alike hrecord w.files (Output.lines (o .run).output)
  rw [← hv, ← hv'] at hverdict
  exact hverdict

end

/-- Take a plan behind the gate and the processes of its stages, given in advance. To continue means
that runs whose last stages write the same lines execute the same command lines, those of all stages
or none, end alike and leave the same files, and none of them fails with a command. To abort means
that a run that executes anything stops behind the first code other than zero with the failure of
that command, the files being those before the first stage; without such a code it ends as if it
were to continue. -/
theorem policy_decides_on_codes (p : Plan) (hp : p.report.passed = true) {b : Binding}
    (hb : p.benchmark.binding? p.target.name = some b) (w : World Unit) :
    let built := p.resolver.buildAll b p.target.commands
    (∀ o o' : Stage → Process, Output.lines (o .run).output = Output.lines (o' .run).output →
      (p.callsUnder .goOn o w).map Call.invocation = (p.callsUnder .goOn o' w).map Call.invocation ∧
      (p.runUnder .goOn o w).1 = (p.runUnder .goOn o' w).1 ∧
      (p.runUnder .goOn o w).2.files = (p.runUnder .goOn o' w).2.files) ∧
    (∀ o : Stage → Process,
      ((p.callsUnder .goOn o w).map Call.built = built ∨ p.callsUnder .goOn o w = [] ∧
        ((∃ f, p.sampler b = .error f) ∨
          (∃ f, (((p.under .goOn).prepare : Run Unit Unit).on w).1 = .error f) ∨
          p.target.run = none)) ∧
      ∀ program code, (p.runUnder .goOn o w).1 ≠ .error (.commandFailed program code)) ∧
    (∀ (o : Stage → Process) (before after : List (Stage × Command)) (s : Stage) (c : Command),
      p.target.commands = before ++ (s, c) :: after →
      (∀ x ∈ before, (o x.1).ending.code = 0) → (o s).ending.code ≠ 0 →
      p.callsUnder .abort o w ≠ [] →
      ∃ i, p.resolver.build b c = .ok i ∧
        (p.callsUnder .abort o w).map Call.built = p.resolver.buildAll b (before ++ [(s, c)]) ∧
        (p.runUnder .abort o w).1 = .error (.commandFailed i.program (o s).ending.code) ∧
        (p.runUnder .abort o w).2.files =
          (((p.under .abort).prepare : Run Unit Unit).on w).2.files ∧
        p.Kept w.files (p.runUnder .abort o w).2.files) ∧
    ∀ o : Stage → Process, (∀ x ∈ p.target.commands, (o x.1).ending.code = 0) →
      (p.runUnder .abort o w).1 = (p.runUnder .goOn o w).1 :=
  ⟨fun _ _ h => continue_alike hp hb w h, fun o => continue_executes_all hp hb w o,
    fun _ _ _ _ _ hcmds ha hn hcalls => abort_stops hp hb w hcmds ha hn hcalls,
    fun _ ha => abort_eq_continue hp hb w ha⟩

/-- A first stage that ends with a code stops the run under one policy and does not count under the
other. -/
theorem policy_decides_on_codes_of_failing_setup :
    let binding : Binding := ⟨none, none, some (.ofList [("depth", ["<value>"])]), none⟩
    let b : Benchmark := ⟨"b", .ofList [("depth", .bool true)], .ofList [("t", binding)]⟩
    let t : Target := ⟨"t", .empty, some (.known .akka), some [.literal "make"], none, none, none,
      some [.literal "bench", .group .run]⟩
    let p : Plan := ⟨b, t, ⟨1, 1⟩, .abort, ⟨"out"⟩⟩
    let output : List (List UInt8) := [Text.Utf8.bytes "Iteration-1: total 2.5 ms"]
    let fails : Stage → Process := fun s =>
      if s = .prepare then ⟨[], .exited 2⟩ else ⟨output, .exited 0⟩
    let succeeds : Stage → Process := fun _ => ⟨output, .exited 0⟩
    let w : World Unit := ⟨⟨.empty, []⟩, 0, [], ()⟩
    p.report.passed = true ∧ b.binding? "t" = some binding ∧
      (p.runUnder .abort fails w).1 = .error (.commandFailed "make" 2) ∧
      (p.runUnder .goOn fails w).1 = (p.runUnder .goOn succeeds w).1 ∧
      (p.runUnder .abort succeeds w).1 = (p.runUnder .goOn succeeds w).1 := by
  intro binding b t p output fails succeeds w
  have hp : p.report.passed = true := by decide
  have hb : b.binding? "t" = some binding := by decide
  have hcalls : (p.callsUnder .abort fails w).isEmpty = false := by decide +kernel
  obtain ⟨hcontinue, -, habort, hzero⟩ := policy_decides_on_codes p hp hb w
  refine ⟨hp, hb, ?_, (hcontinue fails succeeds rfl).2.1, hzero succeeds fun _ _ => rfl⟩
  obtain ⟨i, hi, -, hout, -⟩ := habort fails [] [(.run, [.literal "bench", .group .run])] .prepare
    [.literal "make"] rfl (by simp) (by decide) (fun h => by rw [h] at hcalls; cases hcalls)
  cases hi
  exact hout

end Plan

end BenchSweep
