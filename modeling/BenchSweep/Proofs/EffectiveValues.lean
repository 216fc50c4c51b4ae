import BenchSweep.Proofs.Campaign
import BenchSweep.Proofs.Collection
import BenchSweep.Proofs.Completion
import BenchSweep.Proofs.Gate
import BenchSweep.Proofs.Manifest
import BenchSweep.Proofs.ResultsFile

/-! The value that counts. At a point of a sweep a parameter has the value chosen for the last override
of its name, or else the declared one. A run at that point is executed with this value, records it
and labels its results with it. -/
set_option autoImplicit false

namespace BenchSweep

variable {σ : Type}

/-! ## Values at a point -/

open Override

theorem exists_choice_of_point {c : Campaign} {points : List Params} (h : c.points = .ok points)
    {i : Nat} {point : Params} (hi : points[i]? = some point) :
    ∃ vs, (choices c.overrides)[i]? = some vs ∧ point.keys = c.benchmark.params.keys ∧
      ∀ name, point.get? name = effective c.benchmark.params c.overrides vs name := by
  have hkeys := keys_of_mem_sweep h (List.mem_of_getElem? hi)
  obtain ⟨-, rfl⟩ := sweep_eq_ok_iff.1 h
  rw [List.getElem?_map] at hi
  obtain ⟨vs, hvs, rfl⟩ := Option.map_eq_some_iff.1 hi
  exact ⟨vs, hvs, hkeys, get?_choose _ _ vs⟩

/-! ## Values in results -/

namespace RunContext

theorem getElem?_rows {c : RunContext} {times : List Binary64} {k : Nat} {r : Row}
    (h : ((Sample.number times).map c.row)[k]? = some r) :
    ∃ time, times[k]? = some time ∧ r = c.row ⟨k, time⟩ := by
  rw [List.getElem?_map] at h
  obtain ⟨s, hs, rfl⟩ := Option.map_eq_some_iff.1 h
  unfold Sample.number at hs
  rw [List.getElem?_map, List.getElem?_zipIdx, Option.map_map] at hs
  obtain ⟨time, htime, rfl⟩ := Option.map_eq_some_iff.1 hs
  exact ⟨time, htime, by simp⟩

/-- The cell of a benchmark parameter: the text of its value unless the sample or the target has that
column. -/
theorem get?_row_of_param {c : RunContext} {name : String} {v : Value}
    (h : c.benchmarkParams.get? name = some v) (hi : name ≠ "iteration") (ht : name ≠ "time_ms")
    (s : Sample) :
    (c.row s).get? name = some (((c.targetParams.get? name).getD v).toText) := by
  have hcolumn : name ∈ c.header := mem_header_iff.2 (.inr (.inl (OrderedMap.mem_keys_iff.2 ⟨v, h⟩)))
  rw [get?_row hcolumn, c.cell_of_not_sample hi ht, h]
  cases c.targetParams.get? name <;> rfl

end RunContext

/-! ## Completed runs -/

namespace Plan

namespace Completion

variable {p : Plan} {execute : Executor σ} {w : World σ} {calls : List Call} {fs : Files}

theorem invocations_eq (done : p.Completion execute w calls fs) :
    calls.map Call.invocation = p.target.commands.map fun x =>
      .ofWords (x.2.flatMap (done.binding.fill p.resolver.text p.settings)) :=
  done.performs.invocations_eq

theorem node?_prepared (done : p.Completion execute w calls fs) :
    done.prepared.node? (w.files.place p.manifestPath) =
      some (.file (Text.Utf8.bytes done.record)) := by
  obtain ⟨text, made, htext, hmade, hwrite⟩ := prepareFiles_eq_ok done.prepared_eq
  cases htext
  obtain ⟨place, hplace, hput⟩ := Files.write_eq_ok_iff.1 hwrite
  obtain ⟨hl, -, hfree⟩ := Files.writable_eq_ok_iff.1 hplace
  have hhere : made.here = w.files.here := by
    have h := w.files.here_makeDirectories p.directory
    rwa [hmade] at h
  have hsame : place = w.files.place p.manifestPath := by
    rw [Files.place_of_locate hl, Files.place_congr hhere]
  rw [hput, ← hsame]
  exact Files.node?_put_self made place _ (Files.ne_nil_of_free hfree)

/-- The record outlasts commands that leave it alone. -/
theorem node?_record (done : p.Completion execute w calls fs)
    (hs : execute.Spares (w.files.place p.manifestPath)) :
    fs.node? (w.files.place p.manifestPath) = some (.file (Text.Utf8.bytes done.record)) := by
  have hplace : done.place = p.resultsPlace done.measured.files :=
    Files.place_of_locate (Files.writable_eq_ok_iff.1 done.writable).1
  have hne : w.files.place p.manifestPath ≠ done.place := by
    rw [hplace]
    exact (p.manifestPlace_ne _ _).symm
  calc fs.node? (w.files.place p.manifestPath)
      = (done.measured.files.put done.place (.file (p.context.table done.times))).node?
          (w.files.place p.manifestPath) := congrArg (fun files : Files => files.node? _) done.files_eq
    _ = done.measured.files.node? (w.files.place p.manifestPath) := Files.node?_put _ _ _ _ hne
    _ = done.prepared.node? (w.files.place p.manifestPath) := done.performs.node?_eq hs
    _ = some (.file (Text.Utf8.bytes done.record)) := done.node?_prepared

end Completion

/-! ## One value for all of them -/

/-- Let a run at a point of a sweep complete, and let the value of a parameter be the one chosen there
for the last override of its name, or the declared one. Then the executor is called with the words of
all command lines in which each placeholder is replaced by the text of the value; the record of the
configuration, which stands before the first call and outlasts commands that leave it alone, is a document
whose parameters are read with the value, a NaN without its sign; and every row of the results has its
text, unless the column is one of the sample or the target declares a parameter of that name. -/
theorem effective_values_executed_and_recorded (c : Campaign) {points : List Params}
    (hpoints : c.points = .ok points) {i : Nat} {point : Params} (hpoint : points[i]? = some point)
    (directory : Path) (execute : Executor σ) (w : World σ) {n : Nat} {path : Path}
    (hdone : (((c.plan point directory).run execute).on w).1 = .ok (.completed n path)) :
    let p := c.plan point directory
    let calls := Run.calls (p.run ·) execute w
    let fs := ((p.run execute).on w).2.files
    let recordPlace := w.files.place p.manifestPath
    ∃ vs, (choices c.overrides)[i]? = some vs ∧
      let value := effective c.benchmark.params c.overrides vs
      let text := fun name => ((value name).map Value.toText).getD ""
      (∀ name, (∃ v, value name = some v) ↔ name ∈ c.benchmark.params.keys) ∧
      (∃ b sampler, p.format = .ok (b, sampler) ∧ c.benchmark.binding? c.target.name = some b ∧
        (∀ slot, ∀ name ∈ b.references slot, name ∈ c.benchmark.params.keys) ∧
        calls.map Call.invocation =
          c.target.commands.map (fun x => .ofWords (x.2.flatMap (b.fill text c.settings))) ∧
        (∀ fragment word, Substituted fragment word (substitute fragment word)) ∧
        ∃ times bytes rows, Target.LastRead sampler.samples calls (.ok times) ∧ times.length = n ∧
          fs.look p.resultsPath = .ok (.file bytes) ∧ readRows bytes = .ok rows ∧
          rows.length = n ∧ ∀ k row, rows[k]? = some row → ∀ name v, value name = some v →
            ∃ time, times[k]? = some time ∧ row.get? name = some (
              if name = "iteration" then String.ofList (Decimal.digits k)
              else if name = "time_ms" then floatText time
              else ((c.target.params.get? name).getD v).toText)) ∧
      ∃ record document params, (p.manifest w.clock).write = some record ∧
        (p.prepare.on w).1 = .ok () ∧
        (p.prepare.on w).2.files.node? recordPlace = some (.file (Text.Utf8.bytes record)) ∧
        (execute.Spares recordPlace →
          fs.node? recordPlace = some (.file (Text.Utf8.bytes record))) ∧
        Toml.parse? record = some document ∧
        Toml.required document "params" Toml.params? = some params ∧
        ∀ name v, value name = some v → params.get? name = some v.shown ∧
          ((∀ x, v = .float x → x.isNaN = false) → params.get? name = some v) := by
  intro p calls fs recordPlace
  obtain ⟨vs, hvs, hkeys, hvalue⟩ := exists_choice_of_point hpoints hpoint
  have hruns : p.Runs execute w calls ((p.run execute).on w).1 fs := p.runs_turn execute w
  obtain ⟨done, hn, -⟩ := hruns.exists_completion hdone
  refine ⟨vs, hvs, ?_⟩
  intro value text
  have htext : p.resolver.text = text := by
    funext name
    exact congrArg (fun v => (Option.map Value.toText v).getD "") (hvalue name)
  have hget : ∀ name v, value name = some v → p.benchmark.params.get? name = some v :=
    fun name v hv => (hvalue name).trans hv
  refine ⟨?_, ⟨done.binding, done.sampler, done.format_eq, binding_of_format_eq_ok done.format_eq,
    ?_, ?_, substituted_substitute, done.times, p.context.table done.times,
    (Sample.number done.times).map p.context.row, done.lastRead, hn, done.look_results,
    p.context.readRows_table done.times, ?_, ?_⟩, ?_⟩
  · intro name
    rw [← hkeys, OrderedMap.mem_keys_iff, hvalue name]
  · obtain ⟨b, hb, hrefs⟩ := (Benchmark.check_passed_iff _ _).1 done.passed
    rw [binding_of_format_eq_ok done.format_eq, Option.some.injEq] at hb
    intro slot name hname
    rw [← hkeys]
    exact hrefs slot name (hb ▸ hname)
  · rw [done.invocations_eq, htext]
    rfl
  · simpa [Sample.number] using hn
  · intro k row hrow name v hv
    obtain ⟨time, htime, rfl⟩ := RunContext.getElem?_rows hrow
    refine ⟨time, htime, ?_⟩
    have hparam : p.context.benchmarkParams.get? name = some v := hget name v hv
    by_cases hi : name = "iteration"
    · rw [if_pos hi, hi, RunContext.get?_row (List.mem_append_left _ (by decide))]
      rfl
    · by_cases ht : name = "time_ms"
      · rw [if_neg hi, if_pos ht, ht, RunContext.get?_row (List.mem_append_left _ (by decide))]
        rfl
      · rw [if_neg hi, if_neg ht]
        exact RunContext.get?_row_of_param hparam hi ht _
  · have hthreads : p.settings.threads.toNat < 2 ^ 63 := by
      refine (p.isSome_write_manifest_iff w.clock).1 ?_
      rw [done.record_eq]
      rfl
    have hshown : ∀ name v, value name = some v →
        (p.benchmark.params.mapValues Value.shown).get? name = some v.shown := by
      intro name v hv
      rw [OrderedMap.get?_mapValues, hget name v hv]
      rfl
    refine ⟨done.record, _, _, done.record_eq, ?_, ?_, done.node?_record,
      Toml.parse?_write done.record_eq (p.distinct_manifest w.clock),
      (standsIn_entries hthreads w.clock).params.shown, fun name v hv => ⟨hshown name v hv, ?_⟩⟩
    · rw [on_prepare done.record_eq, done.prepared_eq]
    · rw [on_prepare done.record_eq, done.prepared_eq]
      exact done.node?_prepared
    · intro hfloat
      rw [hshown name v hv, Value.shown_eq_self hfloat]

/-- A parameter that is overridden twice, at the second of two points, and one that is called like the
column of the times. -/
theorem effective_values_executed_and_recorded_of_repeated_override :
    let binding : Binding := ⟨none, none, some (.ofList [("depth", ["-d<value>", "<value>"])]), none⟩
    let b : Benchmark := ⟨"b", .ofList [("depth", .integer 1), ("time_ms", .bool true)],
      .ofList [("t", binding)]⟩
    let t : Target := ⟨"t", .empty, some (.known .akka), none, none, none, none,
      some [.literal "bench", .group .run]⟩
    let c : Campaign := ⟨b, t, ⟨1, 1⟩, .abort,
      [⟨"depth", [.integer 2, .integer 3]⟩, ⟨"depth", [.integer 4]⟩], ⟨"out"⟩⟩
    let point : Params := .ofList [("depth", .integer 4), ("time_ms", .bool true)]
    let p := c.plan point ⟨"out"⟩
    let execute : Executor Unit := fun _ => pure ⟨["Iteration-1: total 2.5 ms"], 0⟩
    let w : World Unit := ⟨⟨.empty, []⟩, 0, [], ()⟩
    c.points.toOption = some [point, point] ∧
      ((p.run execute).on w).1.toOption = some (.completed 1 p.resultsPath) ∧
      (Run.calls (p.run ·) execute w).map Call.invocation = [⟨"bench", ["-d4", "4"]⟩] := by
  intro binding b t c point p execute w
  have hpoints : c.points.toOption = some [point, point] := by decide
  have hdone : ((p.run execute).on w).1.toOption = some (.completed 1 p.resultsPath) := by
    decide +kernel
  refine ⟨hpoints, hdone, ?_⟩
  obtain ⟨vs, hvs, hrest⟩ := effective_values_executed_and_recorded c (i := 1)
    (eq_ok_of_toOption_eq_some hpoints) rfl ⟨"out"⟩ execute w (eq_ok_of_toOption_eq_some hdone)
  obtain ⟨-, ⟨b', sampler, -, hb, -, hcalls, -⟩, -⟩ := hrest
  have hchoice : vs = [.integer 3, .integer 4] := Option.some.inj (hvs.symm.trans (by decide))
  have hbinding : b' = binding := Option.some.inj (hb.symm.trans (by decide))
  rw [hcalls, hchoice, hbinding]
  decide +kernel

end Plan

end BenchSweep
