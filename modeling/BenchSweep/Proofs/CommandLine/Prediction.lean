import BenchSweep.Proofs.CommandLine.Console
import BenchSweep.Proofs.CommandLine.Request
import BenchSweep.Proofs.Refusal

/-! A check tells what a run will do at the gate. The check looks the benchmark up and knows the target
by name only; the run has both definitions and the values of its points. They agree since a definition
has the name it is found under, and since the gate does not look at values. -/
set_option autoImplicit false

namespace BenchSweep.CommandLine

open Console

variable {σ : Type}

/-! ## Lines -/

def lines (w : World (Screen σ)) : List String := w.state.shown.map Shown.line

@[simp] theorem lines_told (w : World (Screen σ)) (es : List Event) :
    lines (w.told es) = lines w := rfl

@[simp] theorem lines_showLine (line : String) (w : World (Screen σ)) :
    lines (showLine line w) = lines w ++ [line] := List.map_append

/-- The lines that answer a check. -/
def reportLines (json : Bool) (b : Benchmark) (target : String) : List String :=
  let report := b.check target
  if json then [(reportJson report).write 0]
  else report.diagnostics.map diagnosticLine ++
    if report.passed then [s!"{target} is compatible with {b.name}"] else []

/-- Skipped runs leave a line each. -/
theorem foldl_skip (plans : List Plan) (w : World (Screen σ)) :
    (plans.foldl (Plan.skip announce) w).files = w.files ∧
      (plans.foldl (Plan.skip announce) w).state.state = w.state.state ∧
      lines (plans.foldl (Plan.skip announce) w) =
        lines w ++ plans.map fun p => outcomeLine p (.skipped p.report) := by
  induction plans generalizing w with
  | nil => exact ⟨rfl, rfl, (List.append_nil _).symm⟩
  | cons p rest ih =>
    obtain ⟨hfiles, hstate, hlines⟩ := ih (Plan.skip announce w p)
    refine ⟨hfiles, hstate, hlines.trans ?_⟩
    rw [Plan.skip, announce, lines_showLine, lines_told, List.append_assoc]
    rfl

/-! ## Configurations -/

def configurationAt (fs : Files) (p : Path) : Except Trouble Configuration :=
  match fs.readText p with
  | .error fault => .error (.host fault)
  | .ok text =>
    match Configuration.ofToml? text with
    | some c => .ok c
    | none => .error .configuration

/-- The configuration that a request finds. -/
def configurationIn (fs : Files) : Option Path → Except Trouble Configuration
  | some p => configurationAt fs p
  | none =>
    if fs.has usualConfiguration then configurationAt fs usualConfiguration
    else .ok Configuration.standard

theorem on_readConfiguration (p : Path) (w : World (Screen σ)) :
    (readConfiguration p).on w = (configurationAt w.files p, w) := by
  unfold readConfiguration configurationAt
  rw [on_bind_ok (on_get w), on_bind, on_allowed]
  cases w.files.readText p with
  | error fault => rfl
  | ok text =>
    dsimp only [Except.mapError]
    cases Configuration.ofToml? text <;> rfl

theorem on_chosenConfiguration (named : Option Path) (w : World (Screen σ)) :
    (chosenConfiguration named).on w = (configurationIn w.files named, w) := by
  unfold chosenConfiguration configurationIn
  cases named with
  | some p => exact on_readConfiguration p w
  | none =>
    rw [on_bind_ok (on_get w)]
    dsimp only
    split
    · exact on_readConfiguration _ w
    · rfl

/-! ## What a request finds -/

/-- What a request to run finds among the files: a configuration and, where that says, both
definitions; and its overrides make points of the declared parameters. -/
structure Finds (w : World (Screen σ)) (r : RunRequest) (c : Configuration) (b : Benchmark)
    (t : Target) (points : List Params) : Prop where
  configuration : ((chosenConfiguration r.configuration).on w).1 = .ok c
  benchmark : ((benchmarks.load c.places.benchmarks r.benchmark).on w).1 = .ok b
  target : ((targets.load c.places.targets r.target).on w).1 = .ok t
  points : sweep b.params r.overrides = .ok points

section Found

variable {w : World (Screen σ)} {r : RunRequest} {c : Configuration} {b : Benchmark} {t : Target}
  {points : List Params}

theorem finds_iff : Finds w r c b t points ↔
    configurationIn w.files r.configuration = .ok c ∧
      (benchmarks.lookUp w.files c.places.benchmarks r.benchmark).1 = .ok b ∧
      (targets.lookUp w.files c.places.targets r.target).1 = .ok t ∧
      sweep b.params r.overrides = .ok points := by
  constructor
  · rintro ⟨hc, hb, ht, hpoints⟩
    rw [on_chosenConfiguration] at hc
    rw [DefinitionKind.on_load] at hb ht
    exact ⟨hc, hb, ht, hpoints⟩
  · rintro ⟨hc, hb, ht, hpoints⟩
    refine ⟨?_, ?_, ?_, hpoints⟩
    · rw [on_chosenConfiguration]
      exact hc
    · rw [DefinitionKind.on_load]
      exact hb
    · rw [DefinitionKind.on_load]
      exact ht

/-- Only the files matter to what a request finds. -/
theorem Finds.congr {τ : Type} (h : Finds w r c b t points) {v : World (Screen τ)}
    (hfiles : v.files = w.files) : Finds v r c b t points := by
  rw [finds_iff] at h ⊢
  rwa [hfiles]

theorem Finds.name_benchmark (h : Finds w r c b t points) : b.name = r.benchmark :=
  benchmarks.name_of_lookUp (finds_iff.1 h).2.1

theorem Finds.name_target (h : Finds w r c b t points) : t.name = r.target :=
  targets.name_of_lookUp (finds_iff.1 h).2.2.1

/-! ## Checks -/

theorem on_forM_say {α : Type} (line : α → String) (l : List α) (w : World (Screen σ)) :
    ∃ w', (l.forM (fun a => say (line a)) : Console σ Unit).on w = (.ok (), w') ∧
      w'.files = w.files ∧ lines w' = lines w ++ l.map line := by
  induction l generalizing w with
  | nil => exact ⟨w, rfl, rfl, (List.append_nil _).symm⟩
  | cons a rest ih =>
    obtain ⟨w', hrun, hfiles, hlines⟩ := ih (showLine (line a) w)
    refine ⟨w', ?_, hfiles, ?_⟩
    · rw [List.forM, on_bind_ok (on_say (line a) w), hrun]
    · rw [hlines, lines_showLine, List.append_assoc]
      rfl

theorem on_running_load {δ : Type} {k : DefinitionKind δ} {directory : Path} {name : String} {d : δ}
    {fs : Files} (h : (k.lookUp fs directory name).1 = .ok d) {v : World (Screen σ)}
    (hv : v.files = fs) :
    (running (k.load directory name)).on v = (.ok d, v.told (k.lookUp fs directory name).2) := by
  rw [on_running, DefinitionKind.on_load, hv, h]
  rfl

theorem on_checkReport (hb : (benchmarks.lookUp w.files c.places.benchmarks r.benchmark).1 = .ok b)
    (target : String) :
    (checkReport c r.benchmark target).on w =
      (.ok (b, b.check target),
        w.told (benchmarks.lookUp w.files c.places.benchmarks r.benchmark).2) := by
  unfold checkReport
  rw [on_bind_ok (on_running_load hb rfl)]
  rfl

/-- What a check answers, and what it shows. -/
theorem on_checkRequested (h : Finds w r c b t points) (json : Bool) :
    ∃ w', (checkRequested r.benchmark r.target r.configuration json).on w =
        (.ok (b.check r.target).passed, w') ∧
      w'.files = w.files ∧ lines w' = lines w ++ reportLines json b r.target := by
  obtain ⟨hc, hb, -, -⟩ := finds_iff.1 h
  have hreport := on_checkReport hb r.target
  have hchosen := on_chosenConfiguration r.configuration w
  rw [hc] at hchosen
  unfold checkRequested reportLines
  rw [on_bind_ok hchosen, on_bind_ok hreport]
  dsimp only
  cases json with
  | true =>
    rw [if_pos rfl, if_pos rfl, on_bind_ok (on_say _ _), on_pure]
    exact ⟨_, rfl, rfl, lines_showLine _ _⟩
  | false =>
    obtain ⟨w', hrun, hfiles, hlines⟩ :=
      on_forM_say diagnosticLine (b.check r.target).diagnostics (w.told _)
    rw [lines_told] at hlines
    rw [if_neg Bool.false_ne_true, if_neg Bool.false_ne_true, on_bind_ok hrun]
    cases (b.check r.target).passed with
    | true =>
      rw [if_pos rfl, if_pos rfl, on_bind_ok (on_say _ _), on_pure]
      refine ⟨_, rfl, hfiles, ?_⟩
      rw [lines_showLine, hlines, List.append_assoc]
    | false =>
      rw [if_neg Bool.false_ne_true, if_neg Bool.false_ne_true, List.append_nil]
      exact ⟨w', rfl, hfiles, hlines⟩

/-! ## Runs -/

/-- The campaign that a request to run asks for, unless it has no place for its results. -/
theorem on_campaign (processors : UInt64) (h : Finds w r c b t points)
    (houtput : (r.apply c).places.output.text ≠ "") :
    ∃ k events, (campaign processors r (r.apply c)).on w = (.ok k, w.told events) ∧
      k.benchmark = b ∧ k.target = t ∧ k.overrides = r.overrides ∧
      k.policy = (r.apply c).run.policy := by
  obtain ⟨-, hb, ht, hpoints⟩ := finds_iff.1 h
  have hb' : (benchmarks.lookUp w.files (r.apply c).places.benchmarks r.benchmark).1 = .ok b := hb
  have ht' : (targets.lookUp w.files (r.apply c).places.targets r.target).1 = .ok t := ht
  have hsweep : ∀ v : World (Screen σ),
      (running (Run.of (sweep b.params r.overrides))).on v = (.ok points, v) := by
    intro v
    rw [on_running, Run.on_of, hpoints]
    rfl
  have hplace : ∀ v : World (Screen σ),
      (allowed (absolute w.files (r.apply c).places.output) : Console σ Path).on v =
        (.ok ((r.apply c).places.output.absolute w.files.here), v) := by
    intro v
    rw [on_allowed, absolute, if_neg houtput]
    rfl
  unfold campaign
  rw [on_bind_ok (on_running_load hb' rfl), on_bind_ok (on_running_load (v := w.told _) ht' rfl),
    World.told_told, on_bind_ok (hsweep _), on_bind_ok (on_get _), World.told_files,
    on_bind_ok (hplace _)]
  exact ⟨_, _, rfl, rfl, rfl, rfl, rfl⟩

/-- What matters of that campaign at the gate. -/
structure Asked (r : RunRequest) (c : Configuration) (b : Benchmark) (points : List Params)
    (k : Campaign) : Prop where
  benchmark : k.benchmark.name = r.benchmark
  target : k.target.name = r.target
  points : k.points = .ok points
  policy : k.policy = (r.apply c).run.policy
  report : k.report = b.check r.target

theorem exists_asked (processors : UInt64) (h : Finds w r c b t points)
    (houtput : (r.apply c).places.output.text ≠ "") :
    ∃ k events, (campaign processors r (r.apply c)).on w = (.ok k, w.told events) ∧
      Asked r c b points k := by
  obtain ⟨k, events, hk, rfl, rfl, hoverrides, hpolicy⟩ := on_campaign processors h houtput
  refine ⟨k, events, hk, h.name_benchmark, h.name_target, ?_, hpolicy, ?_⟩
  · unfold Campaign.points
    rw [hoverrides]
    exact h.points
  · unfold Campaign.report
    rw [h.name_target]

/-- A request to run answers as its campaign does. -/
theorem on_runRequested {processors : UInt64} (execute : Plan → Executor (Screen σ))
    (h : Finds w r c b t points) {k : Campaign} {v : World (Screen σ)}
    (hk : (campaign processors r (r.apply c)).on w = (.ok k, v)) :
    (runRequested processors execute r).on w =
      ((((k.run execute announce).on v).1.mapError .failure).map fun _ => true,
        ((k.run execute announce).on v).2) := by
  have hchosen := on_chosenConfiguration r.configuration w
  rw [(finds_iff.1 h).1] at hchosen
  unfold runRequested
  rw [on_bind_ok hchosen, on_bind_ok hk, on_bind, on_running]
  rcases (k.run execute announce).on v with ⟨_ | _, v'⟩ <;> rfl

/-! ## Runs at the gate -/

theorem on_runRequested_ne_incompatible {processors : UInt64} {execute : Plan → Executor (Screen σ)}
    (he : ∀ p, (execute p).FailsByExecution) (h : Finds w r c b t points)
    (houtput : (r.apply c).places.output.text ≠ "") (hpassed : (b.check r.target).passed = true)
    (benchmark target : String) (n : Nat) :
    ((runRequested processors execute r).on w).1 ≠
      .error (.failure (.incompatible benchmark target n)) := by
  obtain ⟨k, events, hcampaign, hk⟩ := exists_asked processors h houtput
  intro hout
  rw [on_runRequested execute h hcampaign] at hout
  cases hrun : ((k.run execute announce).on (w.told events)).1 with
  | ok _ =>
    rw [hrun] at hout
    cases hout
  | error f =>
    rw [hrun] at hout
    cases hout
    exact Campaign.run_ne_incompatible_of_passed hk.points he (by rw [hk.report, hpassed]) _ _ _ hrun

/-- The failure of a request to run under the policy to abort. -/
def refusal (r : RunRequest) (b : Benchmark) : Failure :=
  .incompatible r.benchmark r.target (b.check r.target).errorCount

/-- The line about a run under the policy to continue. -/
def skippedLine (r : RunRequest) (b : Benchmark) : String :=
  s!"Skipped {r.benchmark} on {r.target}: {(b.check r.target).errorCount} error(s)"

theorem Asked.incompatible_eq {k : Campaign} (hk : Asked r c b points k) :
    k.incompatible = refusal r b := by
  unfold Campaign.incompatible refusal
  rw [hk.benchmark, hk.target, hk.report]

theorem Asked.map_outcomeLine {k : Campaign} (hk : Asked r c b points k) {startedAt : Nat}
    {plans : List Plan} (hplans : k.plans startedAt = .ok plans) :
    (plans.map fun p => outcomeLine p (.skipped p.report)) =
      List.replicate points.length (skippedLine r b) := by
  rw [List.eq_replicate_iff]
  constructor
  · rw [Campaign.plans_of_points hk.points] at hplans
    cases hplans
    rw [List.length_map, List.length_zipWith, Campaign.length_directories, Nat.min_self]
  · intro line hline
    obtain ⟨p, hp, rfl⟩ := List.mem_map.1 hline
    obtain ⟨hname, htarget, -, hreport⟩ := Campaign.shared_of_mem_plans hk.points hplans hp
    unfold outcomeLine skippedLine
    rw [hname, htarget, hreport, hk.benchmark, hk.target, hk.report]

section Refused

variable {processors : UInt64} (execute : Plan → Executor (Screen σ))
  (h : Finds w r c b t points) (houtput : (r.apply c).places.output.text ≠ "")
  (hreport : (b.check r.target).passed = false)

include h houtput hreport

theorem on_runRequested_of_aborted (hne : points ≠ []) (hpolicy : (r.apply c).run.policy = .abort) :
    ∃ w', (runRequested processors execute r).on w = (.error (.failure (refusal r b)), w') ∧
      w'.files = w.files ∧ w'.state = w.state := by
  obtain ⟨k, events, hcampaign, hk⟩ := exists_asked processors h houtput
  obtain ⟨-, more, hrun⟩ := Campaign.run_of_aborted execute announce (w := w.told events)
    hk.points hne (by rw [hk.report, hreport]) (hk.policy.trans hpolicy)
  rw [on_runRequested execute h hcampaign, hrun, hk.incompatible_eq]
  exact ⟨_, rfl, rfl, rfl⟩

theorem on_runRequested_of_skipped (hpolicy : (r.apply c).run.policy = .goOn) :
    ∃ w', (runRequested processors execute r).on w = (.ok true, w') ∧ w'.files = w.files ∧
      w'.state.state = w.state.state ∧
      lines w' = lines w ++ List.replicate points.length (skippedLine r b) := by
  obtain ⟨k, events, hcampaign, hk⟩ := exists_asked processors h houtput
  have hplans := Campaign.plans_of_points hk.points (w.told events).clock
  have hrun := Campaign.run_of_skipped execute announce hk.points
    (by rw [hk.report, hreport]) (hk.policy.trans hpolicy) hplans
  obtain ⟨hfiles, hstate, hlines⟩ := foldl_skip _ ((w.told events).told (Campaign.sweepEvents _))
  rw [hk.map_outcomeLine hplans] at hlines
  rw [on_runRequested execute h hcampaign, hrun]
  exact ⟨_, rfl, hfiles, hstate, hlines⟩

end Refused

/-! ## Prediction -/

theorem planExecutor_failsByExecution (p : Plan) :
    (planExecutor p : Executor σ).FailsByExecution :=
  processExecutor_failsByExecution _ _ _

/-- Let a request to run find what it needs and have a place for its results. A check of the same
benchmark and target is passed if the report on them is, and shows that report. If it is passed, no run
of the request is refused. If it is not, nothing is executed and no file is changed: under the policy to
abort the first run fails and tells how many errors the report has, and under the policy to continue
every run is skipped with as many errors. -/
theorem check_predicts_run (processors : UInt64) {words words' : List String} {json : Bool}
    (hcheck : Request.ofWords words = .ok (.check r.benchmark r.target r.configuration json))
    (hrun : Request.ofWords words' = .ok (.run r)) (h : Finds w r c b t points)
    (houtput : (r.apply c).places.output.text ≠ "") (execute : Plan → Executor (Screen σ)) :
    (∃ w', ((Request.check r.benchmark r.target r.configuration json).perform
        processors execute).on w = (.ok (b.check r.target).passed, w') ∧
      w'.files = w.files ∧ lines w' = lines w ++ reportLines json b r.target) ∧
    (call processors words w.files w.clock).code = (if (b.check r.target).passed then 0 else 1) ∧
    ∃ k v, (campaign processors r (r.apply c)).on w = (.ok k, v) ∧ k.points = .ok points ∧
      ((b.check r.target).passed = true → (∀ p, (execute p).FailsByExecution) →
        (∀ benchmark target n, (((Request.run r).perform processors execute).on w).1 ≠
          .error (.failure (.incompatible benchmark target n))) ∧
        ∀ turn ∈ k.turns execute announce v, ∀ report, turn.outcome ≠ .ok (.skipped report)) ∧
      ((b.check r.target).passed = false → k.calls execute announce v = [] ∧
        ((r.apply c).run.policy = .abort →
          (∃ turn, k.turns execute announce v = [turn] ∧ turn.outcome = .error (refusal r b)) ∧
          (∃ w', ((Request.run r).perform processors execute).on w =
              (.error (.failure (refusal r b)), w') ∧
            w'.files = w.files ∧ w'.state = w.state) ∧
          (call processors words' w.files w.clock).code = 1 ∧
          (call processors words' w.files w.clock).complaint = some (refusal r b).message) ∧
        ((r.apply c).run.policy = .goOn →
          (∃ w', ((Request.run r).perform processors execute).on w = (.ok true, w') ∧
            w'.files = w.files ∧ w'.state.state = w.state.state ∧
            lines w' = lines w ++ List.replicate points.length (skippedLine r b)) ∧
          (call processors words' w.files w.clock).code = 0)) := by
  have hstart : Finds (atStart w.files w.clock) r c b t points := h.congr rfl
  have hne : points ≠ [] := by
    refine sweep_ne_nil h.points fun o ho => ?_
    obtain ⟨raw, hraw⟩ := overrides_of_ofWords hrun o ho
    exact Override.values_ne_nil_of_ofText hraw
  obtain ⟨k, events, hcampaign, hk⟩ := exists_asked processors h houtput
  refine ⟨on_checkRequested h json, ?_, k, w.told events, hcampaign, hk.points, ?_, ?_⟩
  · obtain ⟨w', hchecked, -⟩ := on_checkRequested hstart json
    rw [call_of_ok hcheck hchecked]
  · intro hpassed he
    have hreport : k.report.passed = true := by rw [hk.report, hpassed]
    refine ⟨on_runRequested_ne_incompatible he h houtput hpassed, ?_⟩
    intro turn hturn report hout
    exact Campaign.not_refused_of_passed hk.points he hreport hturn (.inl ⟨report, hout⟩)
  · intro hfailed
    have hreport : k.report.passed = false := by rw [hk.report, hfailed]
    refine ⟨Campaign.calls_eq_nil_of_not_passed hk.points hreport, ?_, ?_⟩
    · intro hpolicy
      obtain ⟨⟨turn, hturns, hout⟩, -⟩ := Campaign.run_of_aborted execute announce
        (w := w.told events) hk.points hne hreport (hk.policy.trans hpolicy)
      obtain ⟨w', hran, -⟩ :=
        on_runRequested_of_aborted planExecutor hstart houtput hfailed hne hpolicy
      rw [call_of_error hrun hran]
      refine ⟨⟨turn, hturns, hout.trans (by rw [hk.incompatible_eq])⟩, ?_, rfl, rfl⟩
      exact on_runRequested_of_aborted execute h houtput hfailed hne hpolicy
    · intro hpolicy
      obtain ⟨w', hran, -⟩ := on_runRequested_of_skipped planExecutor hstart houtput hfailed hpolicy
      rw [call_of_ok hrun hran]
      exact ⟨on_runRequested_of_skipped execute h houtput hfailed hpolicy, rfl⟩

end Found

/-- A benchmark that does not bind the target, and a sweep of two points. -/
theorem check_predicts_run_of_unsupported_target :
    let file (text : String) : Node := .file (Text.Utf8.bytes text)
    let tree : Files := ⟨.ofList [(["conf"], .directory), (["conf", "benchmark"], .directory),
      (["conf", "benchmark", "b.toml"], file "name = \"b\"\n[params]\ndepth = 1\n"),
      (["conf", "target"], .directory),
      (["conf", "target", "t.toml"], file "name = \"t\"\nrun = [\"true\"]\n")], []⟩
    let r : RunRequest :=
      ⟨"b", "t", none, none, none, false, [⟨"depth", [.integer 2, .integer 3]⟩], none⟩
    let b : Benchmark := ⟨"b", .ofList [("depth", .integer 1)], .empty⟩
    let t : Target := ⟨"t", .empty, none, none, none, none, none, some [.literal "true"]⟩
    let points : List Params := [.ofList [("depth", .integer 2)], .ofList [("depth", .integer 3)]]
    let words := ["check", "-b", "b", "-t", "t"]
    let words' := ["run", "-b", "b", "-t", "t", "-p", "depth=2,3"]
    Request.ofWords words = .ok (.check "b" "t" none false) ∧
      Request.ofWords words' = .ok (.run r) ∧
      Finds (atStart tree 0) r Configuration.standard b t points ∧
      (r.apply Configuration.standard).places.output.text ≠ "" ∧
      (∀ p, (planExecutor p : Executor (Screen Unit)).FailsByExecution) ∧
      (call 1 words tree 0).code = 1 ∧ (call 1 words' tree 0).code = 1 ∧
      (call 1 words' tree 0).complaint = some (refusal r b).message := by
  intro file tree r b t points words words'
  have hcheck : Request.ofWords words = .ok (.check "b" "t" none false) := by decide +kernel
  have hrun : Request.ofWords words' = .ok (.run r) := by decide +kernel
  have h : Finds (atStart tree 0) r Configuration.standard b t points :=
    ⟨by decide +kernel, by decide +kernel, by decide +kernel, by decide +kernel⟩
  have houtput : (r.apply Configuration.standard).places.output.text ≠ "" := by decide +kernel
  obtain ⟨-, hchecked, k, v, -, -, -, hfailed⟩ :=
    check_predicts_run 1 hcheck hrun h houtput planExecutor
  obtain ⟨-, haborted, -⟩ := hfailed (by decide +kernel)
  obtain ⟨-, -, hcode, hcomplaint⟩ := haborted (by decide +kernel)
  exact ⟨hcheck, hrun, h, houtput, planExecutor_failsByExecution,
    hchecked.trans (by decide +kernel), hcode, hcomplaint⟩

/-- A request without a place for its results fails before its first run, whatever the check says. -/
theorem check_predicts_nothing_without_output :
    let file (text : String) : Node := .file (Text.Utf8.bytes text)
    let tree : Files := ⟨.ofList [
      (["bench-runner.toml"], file "[paths]\noutput_dir = \"\"\n"),
      (["conf"], .directory), (["conf", "benchmark"], .directory),
      (["conf", "benchmark", "b.toml"], file "name = \"b\"\n"), (["conf", "target"], .directory),
      (["conf", "target", "t.toml"], file "name = \"t\"\nrun = [\"true\"]\n")], []⟩
    let r : RunRequest := ⟨"b", "t", none, none, none, false, [], none⟩
    let c : Configuration := ⟨RunDefaults.standard, { Places.standard with output := ⟨""⟩ }⟩
    let b : Benchmark := ⟨"b", .empty, .empty⟩
    let t : Target := ⟨"t", .empty, none, none, none, none, none, some [.literal "true"]⟩
    let words := ["check", "-b", "b", "-t", "t"]
    let words' := ["run", "-b", "b", "-t", "t"]
    Request.ofWords words = .ok (.check "b" "t" none false) ∧
      Request.ofWords words' = .ok (.run r) ∧
      Finds (atStart tree 0) r c b t [.empty] ∧
      (call 1 words tree 0).code = 1 ∧ (r.apply c).run.policy = .abort ∧
      (((Request.run r).perform 1 planExecutor).on (atStart tree 0)).1 =
        .error (.host .emptyPath) ∧
      (call 1 words' tree 0).complaint ≠ some (refusal r b).message := by
  intro file tree r c b t words words'
  have h : Finds (atStart tree 0) r c b t [.empty] :=
    ⟨by decide +kernel, by decide +kernel, by decide +kernel, by decide +kernel⟩
  exact ⟨by decide +kernel, by decide +kernel, h, by decide +kernel, by decide +kernel,
    by decide +kernel, by decide +kernel⟩

end BenchSweep.CommandLine
