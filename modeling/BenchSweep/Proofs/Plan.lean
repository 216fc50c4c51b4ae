import BenchSweep.Plan
import BenchSweep.Proofs.Compatibility
import BenchSweep.Proofs.Files
import BenchSweep.Proofs.Lifecycle
import BenchSweep.Proofs.Results

/-! A run of a plan in its parts: what it tells before the gate, what it does to the files before the
first stage, the stages, and what it makes of their samples. Only the stages call the executor, and
everything else sees no more of the world than its files and its clock. -/
set_option autoImplicit false

namespace BenchSweep.Plan

variable {σ : Type}

/-! ## The gate -/

/-- The message about a diagnostic. -/
def diagnosticEvent (d : Diagnostic) : Event :=
  ⟨if d.severity = .error then .error else .warning, d.message, none⟩

/-- The messages up to the gate. -/
def announcement (p : Plan) : List Event :=
  ⟨.info, s!"Running {p.benchmark.name} using the {p.target.name} target.", none⟩ ::
    p.report.diagnostics.map diagnosticEvent

/-- What a plan that does not pass the gate answers. -/
def refusal (p : Plan) : Except Failure Outcome :=
  match p.policy with
  | .goOn => .ok (.skipped p.report)
  | .abort => .error (.incompatible p.benchmark.name p.target.name p.report.errorCount)

/-- The message about a plan that is skipped. -/
def refusalEvents (p : Plan) : List Event :=
  match p.policy with
  | .goOn =>
    [⟨.error, s!"Skipping {p.benchmark.name} on {p.target.name}: incompatible configuration", none⟩]
  | .abort => []

theorem on_tell (l : List Diagnostic) (w : World σ) :
    (l.forM tell : Run σ Unit).on w = (.ok (), w.told (l.map diagnosticEvent)) :=
  Run.on_forM_report _ _ l w

theorem on_announce (p : Plan) (next : Run σ Outcome) (w : World σ) :
    (do
      Run.report .info s!"Running {p.benchmark.name} using the {p.target.name} target."
      p.report.diagnostics.forM tell
      next : Run σ Outcome).on w = next.on (w.told p.announcement) := by
  rw [Run.on_bind_ok (Run.on_report _ _ w), Run.on_bind_ok (on_tell _ _), World.told_told]
  rfl

theorem run_of_passed {p : Plan} (hp : p.report.passed = true) (execute : Executor σ)
    (w : World σ) : (p.run execute).on w = (p.perform execute).on (w.told p.announcement) := by
  unfold run
  rw [on_announce, if_pos hp]

theorem run_of_not_passed {p : Plan} (hp : p.report.passed = false) (execute : Executor σ)
    (w : World σ) :
    (p.run execute).on w = (p.refusal, w.told (p.announcement ++ p.refusalEvents)) := by
  unfold run refusal refusalEvents
  rw [on_announce, if_neg (by rw [hp]; decide)]
  cases p.policy with
  | goOn =>
    rw [← World.told_told]
    rfl
  | abort =>
    rw [List.append_nil]
    rfl

/-! ## Before the stages -/

/-- The binding and the format of the samples. -/
def format (p : Plan) : Except Failure (Binding × Sampler) :=
  match p.binding with
  | .ok b => (p.sampler b).map (b, ·)
  | .error f => .error f

/-- The directory of the run and the record of its configuration. -/
def prepare (p : Plan) : Run σ Unit := do
  Run.makeDirectories p.directory
  p.writeManifest

/-- What the command lines of the run are filled in with. -/
def resolver (p : Plan) : Resolver := ⟨p.benchmark.params, p.settings⟩

/-- The stages and what comes behind them. -/
def measure (p : Plan) (execute : Executor σ) (b : Binding) (sampler : Sampler) :
    Run σ Outcome := do
  let times ← p.target.runStages execute p.resolver b sampler.samples
  p.writeResults times
  return .completed times.length p.resultsPath

theorem perform_eq (p : Plan) (execute : Executor σ) :
    p.perform execute =
      Run.of p.format >>= fun x => p.prepare >>= fun _ => p.measure execute x.1 x.2 := by
  unfold perform format prepare
  cases p.binding with
  | error f => rfl
  | ok b =>
    cases hs : p.sampler b with
    | error f =>
      simp only [Run.of, pure_bind, hs, Except.map]
      rfl
    | ok sampler =>
      simp only [Run.of, pure_bind, hs, Except.map, bind_assoc]
      rfl

/-- A plan has no format if neither side names one, or if it is a pattern that does not compile. -/
theorem sampler_eq_error_iff (p : Plan) (b : Binding) (f : Failure) :
    p.sampler b = .error f ↔
      (b.format <|> p.target.format) = none ∧ f = .noFormat p.target.name ∨
        ∃ pattern scale fault, (b.format <|> p.target.format) = some (.pattern pattern scale) ∧
          Regex.compile pattern = .error fault ∧ f = .invalidPattern fault := by
  unfold sampler
  cases (b.format <|> p.target.format) with
  | none => simp [eq_comm]
  | some format =>
    cases format with
    | known k => simp [SampleFormat.sampler]
    | pattern text scale =>
      simp only [SampleFormat.sampler]
      cases hc : Regex.compile text with
      | error fault => simp [hc, eq_comm]
      | ok program => simp [hc]

theorem format_eq_error_iff {p : Plan} {b : Binding}
    (hb : p.benchmark.binding? p.target.name = some b) (f : Failure) :
    p.format = .error f ↔ p.sampler b = .error f := by
  unfold format binding
  rw [hb]
  dsimp only
  cases p.sampler b with
  | error g => simp [Except.map]
  | ok sampler => simp [Except.map]

/-! ## The files before the stages

The record of the configuration is a parameter here: what happens to the files does not depend on
how it is spelled. -/

/-- The files with the record of the configuration, if it has a spelling. -/
def recordFiles (p : Plan) (record : Option String) (fs : Files) : Except Failure Files :=
  match record with
  | none => .error .manifest
  | some text => (fs.write p.manifestPath (Text.Utf8.bytes text)).mapError .host

/-- The files with the directory of the run and the record of its configuration, and what stands in
the way. -/
def prepareFiles (p : Plan) (record : Option String) (fs : Files) : Files × Except Failure Unit :=
  match fs.makeDirectories p.directory with
  | (made, some fault) => (made, .error (.host fault))
  | (made, none) =>
    match p.recordFiles record made with
    | .ok recorded => (recorded, .ok ())
    | .error f => (made, .error f)

theorem on_writeManifest {p : Plan} {w : World σ} {record : Option String}
    (hr : (p.manifest w.clock).write = record) :
    (p.writeManifest : Run σ Unit).on w =
      match p.recordFiles record w.files with
      | .ok recorded => (.ok (), { w with files := recorded })
      | .error f => (.error f, w) := by
  unfold writeManifest
  rw [Run.on_bind_ok (Run.on_now w), hr]
  cases record with
  | none => rfl
  | some text =>
    dsimp only [recordFiles]
    rw [Run.on_write]
    cases w.files.write p.manifestPath (Text.Utf8.bytes text) with
    | error fault => rfl
    | ok recorded => rfl

theorem on_prepare {p : Plan} {w : World σ} {record : Option String}
    (hr : (p.manifest w.clock).write = record) :
    (p.prepare : Run σ Unit).on w =
      ((p.prepareFiles record w.files).2, { w with files := (p.prepareFiles record w.files).1 }) := by
  have hm := Run.on_makeDirectories p.directory w
  have hw : ∀ fs, (p.writeManifest : Run σ Unit).on { w with files := fs } =
      match p.recordFiles record fs with
      | .ok recorded => (.ok (), { w with files := recorded })
      | .error f => (.error f, { w with files := fs }) :=
    fun fs => on_writeManifest (w := { w with files := fs }) hr
  unfold prepare prepareFiles
  rcases hd : w.files.makeDirectories p.directory with ⟨made, fault⟩
  rw [hd] at hm
  cases fault with
  | some fault => rw [Run.on_bind_error hm]
  | none =>
    rw [Run.on_bind_ok hm, hw]
    dsimp only
    cases p.recordFiles record made with
    | error f => rfl
    | ok recorded => rfl

/-! ## Behind the stages -/

/-- What becomes of the samples: a table under the path of the results, unless the host refuses
it. -/
def finish (p : Plan) (fs : Files) : Except Failure (List Binary64) → Except Failure Outcome × Files
  | .error f => (.error f, fs)
  | .ok times =>
    match fs.writable p.resultsPath with
    | .ok place =>
      (.ok (.completed times.length p.resultsPath), fs.put place (.file (p.context.table times)))
    | .error fault => (.error (.host fault), fs)

/-- The message about a table that was written. -/
def writtenEvent (p : Plan) (times : List Binary64) : Event :=
  ⟨.info, s!"Wrote {times.length} result rows to {p.resultsPath.text}", none⟩

/-- The file is made empty first, but once it is made nothing keeps the table from it. -/
theorem on_writeResults (p : Plan) (times : List Binary64) (w : World σ) :
    (p.writeResults times).on w =
      match w.files.writable p.resultsPath with
      | .ok place =>
        (.ok (), { w with files := w.files.put place (.file (p.context.table times)) }.told
          [p.writtenEvent times])
      | .error fault => (.error (.host fault), w) := by
  have hempty := Run.on_write (σ := σ) p.resultsPath [] w
  unfold writeResults
  cases hw : w.files.writable p.resultsPath with
  | error fault =>
    unfold Files.write at hempty
    rw [hw] at hempty
    rw [Run.on_bind_error hempty]
  | ok place =>
    have hmade : w.files.write p.resultsPath [] = .ok (w.files.put place (.file [])) := by
      unfold Files.write
      rw [hw]
      rfl
    have htable := Run.on_write (σ := σ) p.resultsPath (p.context.table times)
      { w with files := w.files.put place (.file []) }
    rw [hmade] at hempty
    rw [Files.write_write hmade, Files.write, hw] at htable
    rw [Run.on_bind_ok hempty, RunContext.write_eq_table]
    change (Run.write p.resultsPath (p.context.table times) >>= _).on _ = _
    rw [Run.on_bind_ok htable]
    rfl

/-! ## Runs -/

/-- How a run of a plan goes: the calls that it makes, what it answers and the files that it leaves.
Only a plan that passes the gate, has a format, is prepared and has a last stage calls anything. -/
inductive Runs (p : Plan) (execute : Executor σ) (w : World σ) :
    List Call → Except Failure Outcome → Files → Prop
  | refused (hp : p.report.passed = false) : Runs p execute w [] p.refusal w.files
  | unread {f : Failure} (hp : p.report.passed = true) (hf : p.format = .error f) :
      Runs p execute w [] (.error f) w.files
  | unprepared {record : Option String} {b : Binding} {sampler : Sampler} {f : Failure} {fs : Files}
      (hp : p.report.passed = true) (hf : p.format = .ok (b, sampler))
      (hr : (p.manifest w.clock).write = record)
      (hprep : p.prepareFiles record w.files = (fs, .error f)) : Runs p execute w [] (.error f) fs
  | unmeasured {record : Option String} {b : Binding} {sampler : Sampler} {fs : Files}
      (hp : p.report.passed = true) (hf : p.format = .ok (b, sampler))
      (hr : (p.manifest w.clock).write = record)
      (hprep : p.prepareFiles record w.files = (fs, .ok ())) (hrun : p.target.run = none) :
      Runs p execute w [] (.error (.noRunCommand p.target.name)) fs
  | measured {record : Option String} {b : Binding} {sampler : Sampler} {fs : Files} {c : Command}
      {calls : List Call} {fault : Option Failure} {x : Except Failure (List Binary64)}
      {w' w'' : World σ}
      (hp : p.report.passed = true) (hf : p.format = .ok (b, sampler))
      (hr : (p.manifest w.clock).write = record)
      (hprep : p.prepareFiles record w.files = (fs, .ok ())) (hrun : p.target.run = some c)
      (hperf : p.target.Performs execute p.resolver b
        { w.told p.announcement with files := fs } p.target.commands calls fault w')
      (hends : Target.Ends sampler.samples calls fault w' (x, w'')) :
      Runs p execute w calls (p.finish w'.files x).1 (p.finish w'.files x).2

theorem notes_prepare (p : Plan) (w : World σ) : Notes (p.prepare : Run σ Unit) p.prepare w [] := by
  intro notes
  obtain ⟨record, hr⟩ : ∃ record, (p.manifest w.clock).write = record := ⟨_, rfl⟩
  rw [on_prepare (w := w) hr, on_prepare (w := w.noting notes) hr, List.append_nil]
  rfl

theorem notes_writeResults (p : Plan) (times : List Binary64) (w : World σ) :
    Notes (p.writeResults times : Run σ Unit) (p.writeResults times) w [] :=
  (Notes.write _ _ w).bind_silent fun _ v _ =>
    (Notes.of _ v).bind_silent fun _ v _ =>
      (Notes.write _ _ v).bind_silent fun _ v _ => Notes.report _ _ v

theorem on_measure (p : Plan) {execute : Executor σ} {b : Binding} {sampler : Sampler}
    {w w' : World σ} {x : Except Failure (List Binary64)} {calls : List Call}
    (hx : (p.target.runStages execute p.resolver b sampler.samples).on w = (x, w'))
    (hn : Notes (p.target.runStages execute p.resolver b sampler.samples)
      (p.target.runStages execute.noting p.resolver b sampler.samples) w calls) :
    Notes (p.measure execute b sampler) (p.measure execute.noting b sampler) w calls ∧
      ((p.measure execute b sampler).on w).1 = (p.finish w'.files x).1 ∧
      ((p.measure execute b sampler).on w).2.files = (p.finish w'.files x).2 := by
  unfold measure
  cases x with
  | error f =>
    refine ⟨hn.bind_error hx, ?_⟩
    rw [Run.on_bind_error hx]
    exact ⟨rfl, rfl⟩
  | ok times =>
    refine ⟨?_, ?_⟩
    · rw [← List.append_nil calls]
      exact hn.bind_ok hx ((p.notes_writeResults times w').bind_silent fun _ v _ => Notes.pure _ v)
    have hr := p.on_writeResults times w'
    rw [Run.on_bind_ok hx]
    unfold finish
    cases hw : w'.files.writable p.resultsPath with
    | error fault =>
      rw [hw] at hr
      rw [Run.on_bind_error hr]
      exact ⟨rfl, rfl⟩
    | ok place =>
      rw [hw] at hr
      rw [Run.on_bind_ok hr]
      exact ⟨rfl, rfl⟩

theorem measure_runs {p : Plan} {record : Option String} {b : Binding} {sampler : Sampler}
    {fs : Files} {w : World σ} (hp : p.report.passed = true) (hf : p.format = .ok (b, sampler))
    (hr : (p.manifest w.clock).write = record)
    (hprep : p.prepareFiles record w.files = (fs, .ok ())) (execute : Executor σ) {w₁ : World σ}
    (hw : w₁ = { w.told p.announcement with files := fs }) :
    ∃ calls, Notes (p.measure execute b sampler) (p.measure execute.noting b sampler) w₁ calls ∧
      Runs p execute w calls ((p.measure execute b sampler).on w₁).1
        ((p.measure execute b sampler).on w₁).2.files := by
  cases hrun : p.target.run with
  | none =>
    obtain ⟨hn, ho, hfs⟩ := p.on_measure (p.target.runStages_of_no_run execute hrun sampler.samples w₁)
      (p.target.notes_runStages_of_no_run execute hrun sampler.samples w₁)
    refine ⟨[], hn, ?_⟩
    rw [ho, hfs, hw]
    exact .unmeasured hp hf hr hprep hrun
  | some c =>
    obtain ⟨calls, fault, w', hperf, hns, hends⟩ :=
      p.target.runStages_performs execute (r := p.resolver) (b := b) hrun
        sampler.samples w₁
    rcases hx : (p.target.runStages execute p.resolver b sampler.samples).on w₁ with ⟨x, w''⟩
    rw [hx] at hends
    obtain ⟨hn, ho, hfs⟩ := p.on_measure hx hns
    refine ⟨calls, hn, ?_⟩
    have hfiles : w''.files = w'.files := hends.files_eq
    rw [ho, hfs, hfiles]
    rw [hw] at hperf
    exact .measured hp hf hr hprep hrun hperf hends

theorem perform_runs {p : Plan} (hp : p.report.passed = true) (execute : Executor σ)
    (w : World σ) :
    ∃ calls, Notes (p.perform execute) (p.perform execute.noting) (w.told p.announcement) calls ∧
      Runs p execute w calls ((p.perform execute).on (w.told p.announcement)).1
        ((p.perform execute).on (w.told p.announcement)).2.files := by
  have hof := Run.on_of p.format (w.told p.announcement)
  have hnof := Notes.of p.format (w.told p.announcement)
  rw [perform_eq, perform_eq]
  cases hf : p.format with
  | error f =>
    rw [hf] at hof hnof
    refine ⟨[], hnof.bind_error hof, ?_⟩
    rw [Run.on_bind_error hof]
    exact .unread hp hf
  | ok y =>
    obtain ⟨b, sampler⟩ := y
    rw [hf] at hof hnof
    obtain ⟨record, hr⟩ : ∃ record, (p.manifest w.clock).write = record := ⟨_, rfl⟩
    have hprepare := on_prepare (w := w.told p.announcement) hr
    have hnprepare := p.notes_prepare (w.told p.announcement)
    rw [World.told_files] at hprepare
    rcases hprep : p.prepareFiles record w.files with ⟨fs, f | u⟩
    · rw [hprep] at hprepare
      refine ⟨[], hnof.bind_ok hof (hnprepare.bind_error hprepare), ?_⟩
      rw [Run.on_bind_ok hof, Run.on_bind_error hprepare]
      exact .unprepared hp hf hr hprep
    · rw [hprep] at hprepare
      obtain ⟨calls, hn, hruns⟩ := measure_runs hp hf hr hprep execute rfl
      refine ⟨calls, hnof.bind_ok hof (hnprepare.bind_ok hprepare hn), ?_⟩
      rw [Run.on_bind_ok hof, Run.on_bind_ok hprepare]
      exact hruns

/-- Every run of a plan is one of `Runs`, whatever its executor answers. -/
theorem run_runs (p : Plan) (execute : Executor σ) (w : World σ) :
    ∃ calls, Notes (p.run execute) (p.run execute.noting) w calls ∧
      Runs p execute w calls ((p.run execute).on w).1 ((p.run execute).on w).2.files := by
  cases hp : p.report.passed with
  | false =>
    refine ⟨[], ?_, ?_⟩
    · intro notes
      rw [run_of_not_passed hp, run_of_not_passed hp, List.append_nil]
      rfl
    · rw [run_of_not_passed hp]
      exact .refused hp
  | true =>
    obtain ⟨calls, hn, hruns⟩ := perform_runs hp execute w
    refine ⟨calls, ?_, ?_⟩
    · intro notes
      rw [run_of_passed hp, run_of_passed hp, World.told_noting, hn]
    · rw [run_of_passed hp]
      exact hruns

end BenchSweep.Plan
