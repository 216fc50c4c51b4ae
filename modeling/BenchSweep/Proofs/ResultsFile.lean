import BenchSweep.Proofs.Completion

/-! When a run touches anything. Nothing is executed or written before the plan has passed the gate
and has a format, nothing is executed before the directory and the record stand, and the table of
results is written at the very end or not at all. -/
set_option autoImplicit false

namespace BenchSweep

variable {σ : Type}

/-! ## The place of the results -/

/-- An executor that leaves alone what stands at a place. -/
def Executor.Spares (execute : Executor σ) (place : Location) : Prop :=
  ∀ i w, ((execute i).on w).2.files.node? place = w.files.node? place

theorem Target.Performs.node?_eq {t : Target} {execute : Executor σ} {r : Resolver} {b : Binding}
    {w w' : World σ} {cmds : List (Stage × Command)} {calls : List Call} {fault : Option Failure}
    (h : t.Performs execute r b w cmds calls fault w') {place : Location}
    (hs : execute.Spares place) : w'.files.node? place = w.files.node? place :=
  h.invariant (I := fun _ v => v.files.node? place = w.files.node? place)
    (fun _ _ _ hv => hv) (fun _ v i hv => (hs i v).trans hv) rfl

namespace Plan

/-- The place at which the results of the plan stand. -/
def resultsPlace (p : Plan) (fs : Files) : Location := fs.place p.resultsPath

theorem resultsPlace_eq (p : Plan) (fs : Files) :
    p.resultsPlace fs = fs.place p.directory ++ ["results.csv"] :=
  fs.place_child p.directory (by decide) (by decide)

theorem manifestPlace_eq (p : Plan) (fs : Files) :
    fs.place p.manifestPath = fs.place p.directory ++ ["run.toml"] :=
  fs.place_child p.directory (by decide) (by decide)

theorem manifestPlace_ne (p : Plan) (fs fs' : Files) :
    p.resultsPlace fs ≠ fs'.place p.manifestPath := by
  rw [resultsPlace_eq, manifestPlace_eq]
  intro h
  have hlast := congrArg List.getLast? h
  rw [List.getLast?_concat, List.getLast?_concat] at hlast
  exact absurd hlast (by decide)

/-- What stands at the place of the results is as it was, except that a directory can stand where
nothing stood if the way to the directory of the run leads upwards. -/
def Kept (p : Plan) (before after : Files) : Prop :=
  after.node? (p.resultsPlace before) = before.node? (p.resultsPlace before) ∨
    ".." ∈ p.directory.parts ∧ before.node? (p.resultsPlace before) = none ∧
      after.node? (p.resultsPlace before) = some .directory

theorem Kept.trans_eq {p : Plan} {before after last : Files} (h : p.Kept before after)
    (he : last.node? (p.resultsPlace before) = after.node? (p.resultsPlace before)) :
    p.Kept before last := by
  unfold Kept
  rwa [he]

theorem kept_makeDirectories (p : Plan) (fs : Files) :
    p.Kept fs (fs.makeDirectories p.directory).1 := by
  rcases fs.node?_makeDirectories p.directory (p.resultsPlace fs) with h | ⟨h0, h1, k, hk⟩
  · exact .inl h
  · refine .inr ⟨?_, h0, h1⟩
    by_contra hup
    -- every place on a way that never leads upwards is a prefix of the place at its end, and the
    -- place of the results is longer than that
    have hlength := (fs.walk_take_isPrefix hup k).length_le
    rw [← hk, resultsPlace_eq, List.length_append] at hlength
    change _ + 1 ≤ (fs.place p.directory).length at hlength
    omega

theorem node?_recordFiles {p : Plan} {record : Option String} {fs fs' : Files}
    (h : p.recordFiles record fs = .ok fs') {l : Location} (hl : l ≠ fs.place p.manifestPath) :
    fs'.node? l = fs.node? l := by
  unfold recordFiles at h
  cases record with
  | none => cases h
  | some text =>
    dsimp only at h
    cases hw : fs.write p.manifestPath (Text.Utf8.bytes text) with
    | error fault =>
      rw [hw] at h
      cases h
    | ok recorded =>
      rw [hw] at h
      cases h
      obtain ⟨place, hplace, rfl⟩ := Files.write_eq_ok_iff.1 hw
      have hp := Files.place_of_locate (Files.writable_eq_ok_iff.1 hplace).1
      exact Files.node?_put fs place l _ (hp ▸ hl)

theorem kept_prepareFiles {p : Plan} {record : Option String} {fs fs' : Files}
    {x : Except Failure Unit} (h : p.prepareFiles record fs = (fs', x)) : p.Kept fs fs' := by
  have hmade := p.kept_makeDirectories fs
  have hhere := fs.here_makeDirectories p.directory
  unfold prepareFiles at h
  split at h
  · rename_i made fault hd
    cases h
    rwa [hd] at hmade
  · rename_i made hd
    rw [hd] at hmade hhere
    cases hr : p.recordFiles record made with
    | error f =>
      rw [hr] at h
      cases h
      exact hmade
    | ok recorded =>
      rw [hr] at h
      cases h
      have hl : p.resultsPlace fs ≠ made.place p.manifestPath := by
        rw [Files.place_congr hhere]
        exact p.manifestPlace_ne fs fs
      exact hmade.trans_eq (node?_recordFiles hr hl)

/-! ## The end of a run -/

theorem finish_of_not_completed {p : Plan} {fs : Files} {x : Except Failure (List Binary64)}
    (h : ∀ n path, (p.finish fs x).1 ≠ .ok (.completed n path)) : (p.finish fs x).2 = fs := by
  unfold finish at h ⊢
  cases x with
  | error f => rfl
  | ok times =>
    dsimp only at h ⊢
    cases hw : fs.writable p.resultsPath with
    | error fault => rfl
    | ok place =>
      rw [hw] at h
      exact (h _ _ rfl).elim

/-! ## Runs -/

theorem Runs.calls_eq_nil {p : Plan} {execute : Executor σ} {w : World σ} {calls : List Call}
    {out : Except Failure Outcome} {fs : Files} (h : p.Runs execute w calls out fs)
    (hc : (∃ f, (p.prepare.on w).1 = .error f) ∨ p.target.run = none) : calls = [] := by
  cases h with
  | measured hp hf hr hprep hrun hperf hends =>
    rcases hc with ⟨f, hc⟩ | hc
    · rw [on_prepare hr, hprep] at hc
      cases hc
    · rw [hrun] at hc
      cases hc
  | _ => rfl

theorem ready_of_format {p : Plan} {x : Binding × Sampler} (hp : p.report.passed = true)
    (hf : p.format = .ok x) : ¬ (p.report.passed = false ∨ ∃ f, p.format = .error f) := by
  rintro (h | ⟨f, h⟩)
  · rw [hp] at h
    cases h
  · rw [hf] at h
    cases h

/-- A plan whose gate or whose format fails leaves everything as it was. -/
theorem Runs.untouched {p : Plan} {execute : Executor σ} {w : World σ} {calls : List Call}
    {out : Except Failure Outcome} {fs : Files} (h : p.Runs execute w calls out fs)
    (hc : p.report.passed = false ∨ ∃ f, p.format = .error f) : calls = [] ∧ fs = w.files := by
  cases h with
  | refused hp => exact ⟨rfl, rfl⟩
  | unread hp hf => exact ⟨rfl, rfl⟩
  | unprepared hp hf hr hprep => exact (ready_of_format hp hf hc).elim
  | unmeasured hp hf hr hprep hrun => exact (ready_of_format hp hf hc).elim
  | measured hp hf hr hprep hrun hperf hends => exact (ready_of_format hp hf hc).elim

theorem Runs.kept {p : Plan} {execute : Executor σ} {w : World σ} {calls : List Call}
    {out : Except Failure Outcome} {fs : Files} (h : p.Runs execute w calls out fs)
    (hs : execute.Spares (p.resultsPlace w.files))
    (hout : ∀ n path, out ≠ .ok (.completed n path)) : p.Kept w.files fs := by
  cases h with
  | refused hp => exact .inl rfl
  | unread hp hf => exact .inl rfl
  | unprepared hp hf hr hprep => exact kept_prepareFiles hprep
  | unmeasured hp hf hr hprep hrun => exact kept_prepareFiles hprep
  | measured hp hf hr hprep hrun hperf hends =>
    rw [finish_of_not_completed hout]
    exact (kept_prepareFiles hprep).trans_eq (hperf.node?_eq hs)

/-! ## All or nothing -/

theorem Kept.file_iff {p : Plan} {before after : Files} (h : p.Kept before after)
    (content : List UInt8) :
    after.node? (p.resultsPlace before) = some (.file content) ↔
      before.node? (p.resultsPlace before) = some (.file content) := by
  rcases h with h | ⟨-, h0, h1⟩
  · rw [h]
  · simp [h0, h1]

theorem Runs.completed {p : Plan} {execute : Executor σ} {w : World σ} {calls : List Call}
    {out : Except Failure Outcome} {fs : Files} (h : p.Runs execute w calls out fs) {n : Nat}
    {path : Path} (hout : out = .ok (.completed n path)) :
    path = p.resultsPath ∧ ∃ times, times.length = n ∧
      fs.look p.resultsPath = .ok (.file (p.context.table times)) := by
  obtain ⟨done, hn, hpath⟩ := h.exists_completion hout
  exact ⟨hpath, done.times, hn, done.look_results⟩

/-- Noting the calls of a run changes nothing else in it. If the plan does not pass the gate, if
neither the binding nor the target names a format, or if the format is a pattern that does not
compile, nothing is called and the files are as before. If the directory or the record cannot be
made, or if there is no last stage, nothing is called. A run that does not complete keeps what stands
at the place of the results, any file in particular, as long as its executor spares that place; a
run that completes leaves a table there that is read back as its header and one record for each
sample. -/
theorem run_writes_results_last (p : Plan) (execute : Executor σ) (w : World σ) :
    let calls := Run.calls (p.run ·) execute w
    let out := (p.run execute).on w
    let place := p.resultsPlace w.files
    (p.run execute.noting).on (w.noting []) = (out.1, out.2.noting calls) ∧
    ((p.report.passed = false ∨ ∃ b, p.benchmark.binding? p.target.name = some b ∧
        ((b.format <|> p.target.format) = none ∨
          ∃ pattern scale fault, (b.format <|> p.target.format) = some (.pattern pattern scale) ∧
            Regex.compile pattern = .error fault)) →
      calls = [] ∧ out.2.files = w.files) ∧
    ((∃ f, (p.prepare.on w).1 = .error f) ∨ p.target.run = none → calls = []) ∧
    (execute.Spares place → (∀ n path, out.1 ≠ .ok (.completed n path)) →
      p.Kept w.files out.2.files ∧
      ∀ content, out.2.files.node? place = some (.file content) ↔
        w.files.node? place = some (.file content)) ∧
    ∀ n path, out.1 = .ok (.completed n path) →
      path = p.resultsPath ∧ ∃ times bytes, times.length = n ∧
        out.2.files.look p.resultsPath = .ok (.file bytes) ∧
        p.context.write times = .ok bytes ∧
        Csv.read bytes = .ok (p.context.header, p.context.records times) ∧
        (p.context.records times).length = n := by
  intro calls out place
  obtain ⟨cs, hn, hruns⟩ := p.run_runs execute w
  have hc : calls = cs := hn.calls_eq p.run
  rw [hc]
  refine ⟨hn.on_eq, ?_, fun h => hruns.calls_eq_nil h, ?_, ?_⟩
  · rintro (hp | ⟨b, hb, hs⟩)
    · exact hruns.untouched (.inl hp)
    · refine hruns.untouched (.inr ?_)
      rcases hs with hs | ⟨pattern, scale, fault, hs, hcompile⟩
      · exact ⟨_, (format_eq_error_iff hb _).2 ((p.sampler_eq_error_iff b _).2 (.inl ⟨hs, rfl⟩))⟩
      · exact ⟨_, (format_eq_error_iff hb _).2 ((p.sampler_eq_error_iff b _).2
          (.inr ⟨pattern, scale, fault, hs, hcompile, rfl⟩))⟩
  · intro hs hout
    have hkept : p.Kept w.files out.2.files := hruns.kept hs hout
    exact ⟨hkept, hkept.file_iff⟩
  · intro n path hout
    obtain ⟨hpath, times, htimes, hlook⟩ := hruns.completed hout
    exact ⟨hpath, times, _, htimes, hlook, p.context.write_eq_table times,
      p.context.read_table times, (p.context.length_records times).trans htimes⟩

/-- One sample completes a run; a code other than zero keeps the results of an earlier run. -/
theorem run_writes_results_last_of_one_sample :
    let binding : Binding := ⟨none, none, some (.ofList [("depth", ["<value>"])]), none⟩
    let b : Benchmark := ⟨"b", .ofList [("depth", .bool true)], .ofList [("t", binding)]⟩
    let t : Target := ⟨"t", .empty, some (.known .akka), none, none, none, none,
      some [.literal "bench", .group .run]⟩
    let p : Plan := ⟨b, t, ⟨1, 1⟩, .abort, ⟨"out"⟩⟩
    let measures : Executor Unit := fun _ => pure ⟨["Iteration-1: total 2.5 ms"], 0⟩
    let fails : Executor Unit := fun i => Run.fail (.commandFailed i.program 2)
    let w : World Unit := ⟨⟨.ofList [(["out"], .directory), (["out", "results.csv"], .file [0x61])], []⟩,
      0, [], ()⟩
    ((p.run measures).on w).1 = .ok (.completed 1 p.resultsPath) ∧
      (∃ times bytes, times.length = 1 ∧
        ((p.run measures).on w).2.files.look p.resultsPath = .ok (.file bytes) ∧
        Csv.read bytes = .ok (p.context.header, p.context.records times)) ∧
      fails.Spares ["out", "results.csv"] ∧
      ((p.run fails).on w).2.files.node? ["out", "results.csv"] = some (.file [0x61]) := by
  intro binding b t p measures fails w
  have hplace : p.resultsPlace w.files = ["out", "results.csv"] := by decide
  have hdone : ((p.run measures).on w).1.toOption = some (.completed 1 p.resultsPath) := by
    decide +kernel
  have hfailed : ((p.run fails).on w).1.toOption = none := by decide +kernel
  have hok : ((p.run measures).on w).1 = .ok (.completed 1 p.resultsPath) := by
    cases h : ((p.run measures).on w).1 with
    | error f =>
      rw [h] at hdone
      cases hdone
    | ok o =>
      rw [h] at hdone
      exact congrArg Except.ok (Option.some.inj hdone)
  have hspares : fails.Spares ["out", "results.csv"] := fun _ _ => rfl
  have hnot : ∀ n path, ((p.run fails).on w).1 ≠ .ok (.completed n path) := by
    intro n path h
    rw [h] at hfailed
    cases hfailed
  obtain ⟨-, -, -, -, hcompleted⟩ := run_writes_results_last p measures w
  obtain ⟨-, times, bytes, hn, hlook, -, hread, -⟩ := hcompleted 1 _ hok
  obtain ⟨-, -, -, hkept, -⟩ := run_writes_results_last p fails w
  rw [hplace] at hkept
  refine ⟨hok, ⟨times, bytes, hn, hlook, hread⟩, hspares, ?_⟩
  exact ((hkept hspares hnot).2 _).2 (by decide)

end Plan

end BenchSweep
