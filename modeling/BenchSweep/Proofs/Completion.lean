import BenchSweep.Proofs.Filling
import BenchSweep.Proofs.Plan

/-! Runs that complete. Such a run has passed the gate, has recorded its configuration, has executed
the command lines of all stages and has written the samples that were read from the last of them. -/
set_option autoImplicit false

namespace BenchSweep

variable {σ : Type}

theorem Target.Performs.invocations_eq {t : Target} {execute : Executor σ} {r : Resolver}
    {b : Binding} {w w' : World σ} {cmds : List (Stage × Command)} {calls : List Call}
    (h : t.Performs execute r b w cmds calls none w') :
    calls.map Call.invocation =
      cmds.map fun x => .ofWords (x.2.flatMap (b.fill r.text r.settings)) := by
  generalize hn : (none : Option Failure) = n at h
  induction h with
  | done w => rfl
  | unbuilt hc => cases hn
  | failed hc hi => cases hn
  | next hc hi h ih =>
    rw [List.map_cons, List.map_cons, ih hn, Resolver.build_eq_ok hc]

theorem Target.Ends.fault_eq_none {read : OutputReader} {calls : List Call} {fault : Option Failure}
    {w w' : World σ} {times : List Binary64} (h : Target.Ends read calls fault w (.ok times, w')) :
    fault = none := by
  generalize hout : (Except.ok times, w') = out at h
  cases h with
  | fault calls f w => cases hout
  | read before i e w => rfl

namespace Plan

/-- How a run of a plan completed that made these calls and left these files. -/
structure Completion (p : Plan) (execute : Executor σ) (w : World σ) (calls : List Call)
    (fs : Files) where
  binding : Binding
  sampler : Sampler
  /-- The record of the configuration. -/
  record : String
  /-- The files before the first stage. -/
  prepared : Files
  /-- The world behind the last stage. -/
  measured : World σ
  times : List Binary64
  /-- Where the results stand. -/
  place : Location
  passed : p.report.passed = true
  format_eq : p.format = .ok (binding, sampler)
  record_eq : (p.manifest w.clock).write = some record
  prepared_eq : p.prepareFiles (some record) w.files = (prepared, .ok ())
  performs : p.target.Performs execute p.resolver binding
    { w.told p.announcement with files := prepared } p.target.commands calls none measured
  lastRead : Target.LastRead sampler.samples calls (.ok times)
  writable : measured.files.writable p.resultsPath = .ok place
  files_eq : fs = measured.files.put place (.file (p.context.table times))

variable {p : Plan} {execute : Executor σ} {w : World σ} {calls : List Call} {fs : Files}

theorem finish_eq_ok {fs : Files} {x : Except Failure (List Binary64)} {o : Outcome}
    (h : (p.finish fs x).1 = .ok o) :
    ∃ times place, x = .ok times ∧ o = .completed times.length p.resultsPath ∧
      fs.writable p.resultsPath = .ok place ∧
      (p.finish fs x).2 = fs.put place (.file (p.context.table times)) := by
  unfold finish at h ⊢
  cases x with
  | error f => cases h
  | ok times =>
    dsimp only at h ⊢
    cases hw : fs.writable p.resultsPath with
    | error fault =>
      rw [hw] at h
      cases h
    | ok place =>
      rw [hw] at h
      cases h
      exact ⟨times, place, rfl, rfl, rfl, rfl⟩

theorem prepareFiles_eq_ok {record : Option String} {before after : Files}
    (h : p.prepareFiles record before = (after, .ok ())) :
    ∃ text made, record = some text ∧ before.makeDirectories p.directory = (made, none) ∧
      made.write p.manifestPath (Text.Utf8.bytes text) = .ok after := by
  unfold prepareFiles at h
  split at h
  · cases h
  · rename_i made hmade
    cases record with
    | none => cases h
    | some text =>
      unfold recordFiles at h
      dsimp only at h
      cases hw : made.write p.manifestPath (Text.Utf8.bytes text) with
      | error fault =>
        rw [hw] at h
        cases h
      | ok recorded =>
        rw [hw] at h
        cases h
        exact ⟨text, made, rfl, hmade, hw⟩

/-- A run that completes passes through all of its parts. -/
theorem Runs.exists_completion {out : Except Failure Outcome} (h : p.Runs execute w calls out fs)
    {n : Nat} {path : Path} (hout : out = .ok (.completed n path)) :
    ∃ done : p.Completion execute w calls fs, done.times.length = n ∧ path = p.resultsPath := by
  cases h with
  | refused hp =>
    unfold refusal at hout
    cases hpolicy : p.policy <;> rw [hpolicy] at hout <;> cases hout
  | unread hp hf => cases hout
  | unprepared hp hf hr hprep => cases hout
  | unmeasured hp hf hr hprep hrun => cases hout
  | @measured record b sampler prepared c calls fault x w' w'' hp hf hr hprep hrun hperf hends =>
    obtain ⟨times, place, rfl, ho, hplace, hfs⟩ := finish_eq_ok hout
    obtain ⟨record, made, rfl, -⟩ := prepareFiles_eq_ok hprep
    obtain ⟨-, -, hlast⟩ := (hends.ok_iff hperf times).1 rfl
    obtain rfl := hends.fault_eq_none
    cases ho
    exact ⟨⟨b, sampler, record, prepared, w', times, place, hp, hf, hr, hprep, hperf, hlast,
      hplace, hfs⟩, rfl, rfl⟩

theorem Completion.look_results (done : p.Completion execute w calls fs) :
    fs.look p.resultsPath = .ok (.file (p.context.table done.times)) :=
  (congrArg (fun files : Files => files.look _) done.files_eq).trans (Files.look_put done.writable _)

end Plan

end BenchSweep
