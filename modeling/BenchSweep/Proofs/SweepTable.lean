import BenchSweep.Proofs.Gathering
import BenchSweep.Proofs.RunDirectories

/-! The table of a whole sweep. All runs write under one header, which depends on names alone, and in
directories of their own below the output; so what is collected there are the rows of the runs, each
under all columns. -/
set_option autoImplicit false

namespace BenchSweep

variable {σ : Type}

/-! ## One header -/

theorem RunContext.header_congr {c c' : RunContext}
    (hb : c.benchmarkParams.keys = c'.benchmarkParams.keys)
    (ht : c.targetParams.keys = c'.targetParams.keys) : c.header = c'.header := by
  unfold header params
  rw [OrderedMap.keys_merge, OrderedMap.keys_merge, hb, ht]

namespace Campaign

def header (c : Campaign) : List String := (c.plan c.benchmark.params c.output).context.header

theorem header_of_point {c : Campaign} {points : List Params} (hpoints : c.points = .ok points)
    {params : Params} (h : params ∈ points) (directory : Path) :
    (c.plan params directory).context.header = c.header :=
  RunContext.header_congr (keys_of_mem_sweep hpoints h) rfl

/-! ## Directories below the output -/

/-- The names that lead from the output to the directory of a run. -/
def branch (startedAt count i : Nat) : List String :=
  if count = 1 then [Instant.dateText startedAt, Instant.timeText "-" startedAt]
  else ["multirun", Instant.dateText startedAt, Instant.timeText "-" startedAt, number i]

theorem isName_branch (startedAt count i : Nat) :
    ∀ name ∈ branch startedAt count i, Path.IsName name := by
  have hdate := isName_dateText startedAt
  have htime := isName_timeText startedAt
  have hnumber := isName_number i
  have hmulti : Path.IsName "multirun" := by decide
  unfold branch
  split
  · simp only [List.forall_mem_cons, List.not_mem_nil, false_implies, implies_true, and_true]
    exact ⟨hdate, htime⟩
  · simp only [List.forall_mem_cons, List.not_mem_nil, false_implies, implies_true, and_true]
    exact ⟨hmulti, hdate, htime, hnumber⟩

theorem branch_injective {startedAt count i j : Nat} (hi : i < count) (hj : j < count)
    (h : branch startedAt count i = branch startedAt count j) : i = j := by
  unfold branch at h
  by_cases hc : count = 1
  · omega
  · rw [if_neg hc, if_neg hc] at h
    simp only [List.cons.injEq, true_and, and_true] at h
    exact number_injective h

theorem directory_eq_branch {c : Campaign} {startedAt count i : Nat} {d : Path}
    (h : (c.directories startedAt count)[i]? = some d) :
    d = (branch startedAt count i).foldl Path.child c.output := by
  by_cases hc : count = 1
  · have hd := List.mem_of_getElem? h
    unfold directories at hd
    dsimp only at hd
    rw [if_pos hc, List.mem_singleton] at hd
    unfold branch
    rw [if_pos hc, hd]
    simp only [List.foldl_cons, List.foldl_nil]
  · unfold branch
    rw [if_neg hc, directory_eq_numbered h hc]
    simp only [List.foldl_cons, List.foldl_nil]
    rfl

/-- The names that lead from the output to the results of a run. -/
def resultsBranch (startedAt count i : Nat) : List String :=
  branch startedAt count i ++ [resultsName]

theorem getLast?_resultsBranch (startedAt count i : Nat) :
    (resultsBranch startedAt count i).getLast? = some resultsName := List.getLast?_concat

theorem isName_resultsBranch (startedAt count i : Nat) :
    ∀ name ∈ resultsBranch startedAt count i, Path.IsName name := by
  intro name h
  rcases List.mem_append.1 h with h | h
  · exact isName_branch startedAt count i name h
  · rw [List.mem_singleton.1 h]
    decide

theorem resultsBranch_injective {startedAt count i j : Nat} (hi : i < count) (hj : j < count)
    (h : resultsBranch startedAt count i = resultsBranch startedAt count j) : i = j :=
  branch_injective hi hj (List.append_cancel_right h)

/-- The files of results of a campaign, by the names that lead to them from the output. -/
def resultsFiles (startedAt : Nat) (runs : List Measured) : List (List String × Node) :=
  runs.zipIdx.map fun (m, i) => (resultsBranch startedAt runs.length i, m.node)

section

variable {startedAt : Nat} {runs : List Measured}

theorem getElem?_resultsFiles {i : Nat} {m : Measured} (h : runs[i]? = some m) :
    (resultsFiles startedAt runs)[i]? =
      some (resultsBranch startedAt runs.length i, m.node) := by
  unfold resultsFiles
  rw [List.getElem?_map, List.getElem?_zipIdx, h]
  simp

theorem map_snd_resultsFiles (startedAt : Nat) (runs : List Measured) :
    (resultsFiles startedAt runs).map Prod.snd = runs.map Measured.node := by
  have hruns : runs.zipIdx.map Prod.fst = runs := List.zipIdx_map_fst 0 runs
  unfold resultsFiles
  rw [List.map_map]
  conv_rhs => rw [← hruns, List.map_map]
  rfl

theorem nodup_resultsFiles (startedAt : Nat) (runs : List Measured) :
    ((resultsFiles startedAt runs).map Prod.fst).Nodup := by
  have hnames : (resultsFiles startedAt runs).map Prod.fst =
      (List.range runs.length).map (resultsBranch startedAt runs.length) := by
    have hindices : runs.zipIdx.map Prod.snd = List.range runs.length := by
      rw [List.zipIdx_map_snd, List.range_eq_range']
    unfold resultsFiles
    rw [← hindices, List.map_map, List.map_map]
    rfl
  rw [hnames]
  refine List.Nodup.map_on (fun i hi j hj h => ?_) List.nodup_range
  exact resultsBranch_injective (List.mem_range.1 hi) (List.mem_range.1 hj) h

end

end Campaign

/-! ## Files of results, run after run -/

/-- Whether files have grown out of others so that exactly these files of results stand below a
place. -/
structure Files.Holds (before : Files) (place : Location) (results : List (List String × Node))
    (fs : Files) : Prop where
  tree : fs.IsTree
  here : fs.here = before.here
  mem_iff : ∀ names node, (names, node) ∈ results ↔
    names.getLast? = some resultsName ∧ fs.leaf? (place ++ names) = some node

/-- A run that completes adds its results to them. -/
theorem Files.Holds.step {before fs : Files} {place : Location}
    {results : List (List String × Node)} {p : Plan} {execute : Executor σ} {v : World σ}
    {calls : List Call} (h : Files.Holds before place results v.files)
    (done : p.Completion execute v calls fs)
    (hm : Files.Cleanly place done.prepared done.measured.files) {own : List String}
    (hown : p.resultsPlace v.files = place ++ own) (hlast : own.getLast? = some resultsName)
    (hnew : own ∉ results.map Prod.fst) :
    Files.Holds before place (results ++ [(own, Measured.node (p.context, done.times))]) fs := by
  refine ⟨done.isTree hm h.tree, (done.here_eq hm).trans h.here, fun names node => ?_⟩
  rw [List.mem_append, List.mem_singleton, Prod.mk.injEq, h.mem_iff names node]
  by_cases he : names = own
  · have hnone : (own, node) ∉ results := fun hmem => hnew (List.mem_map_of_mem hmem)
    rw [h.mem_iff own node] at hnone
    rw [he, done.leaf?_after hm hlast, if_pos hown.symm]
    constructor
    · rintro (hmem | ⟨-, rfl⟩)
      · exact (hnone hmem).elim
      · exact ⟨hlast, rfl⟩
    · rintro ⟨-, hnode⟩
      exact .inr ⟨rfl, (Option.some.inj hnode).symm⟩
  · have hplace : place ++ names ≠ p.resultsPlace v.files := by
      rw [hown]
      exact fun h => he (List.append_cancel_left h)
    simp only [he, false_and, or_false]
    refine and_congr_right fun hn => ?_
    rw [done.leaf?_after hm hn, if_neg hplace]

/-! ## Runs that complete -/

/-- Whether a run completes with these samples. -/
def Turn.Yields (execute : Plan → Executor σ) (t : Turn σ) (m : Measured) : Prop :=
  ∃ done : t.plan.Completion (execute t.plan) t.before t.calls t.after.files,
    m = (t.plan.context, done.times) ∧
      t.outcome = .ok (.completed done.times.length t.plan.resultsPath)

/-- Whether the commands of a run, if it completes, leave alone the files of results below a place. -/
def Turn.Tidy (execute : Plan → Executor σ) (place : Location) (t : Turn σ) : Prop :=
  ∀ done : t.plan.Completion (execute t.plan) t.before t.calls t.after.files,
    Files.Cleanly place done.prepared done.measured.files

theorem Executor.Tidy.turn {execute : Plan → Executor σ} {place : Location} {t : Turn σ}
    (h : (execute t.plan).Tidy place) : t.Tidy execute place :=
  fun done => done.performs.cleanly h

namespace Campaign

section Turns

variable {c : Campaign} {points : List Params} {execute : Plan → Executor σ}
  {announce : Announcement σ} {w : World σ} {runs : List Measured} {i : Nat} {t : Turn σ}

theorem exists_yields (hdone : ∀ t ∈ c.turns execute announce w,
      ∃ n path, t.outcome = .ok (.completed n path)) :
    ∃ runs, List.Forall₂ (Turn.Yields execute) (c.turns execute announce w) runs := by
  refine exists_forall₂ fun t ht => ?_
  obtain ⟨n, path, hout⟩ := hdone t ht
  obtain ⟨done, rfl, rfl⟩ := (runs_of_mem_turns ht).exists_completion hout
  exact ⟨_, done, rfl, hout⟩

/-- The results of a run stand below the output under the names of its number. -/
theorem resultsPlace_of_turn (hpoints : c.points = .ok points)
    (ht : (c.turns execute announce w)[i]? = some t) (fs : Files) :
    t.plan.resultsPlace fs = fs.place c.output ++ resultsBranch w.clock points.length i := by
  obtain ⟨params, d, -, hd, hp⟩ := plan_of_turn hpoints ht
  have hdir : t.plan.directory = (branch w.clock points.length i).foldl Path.child c.output := by
    rw [← hp]
    exact directory_eq_branch hd
  rw [Plan.resultsPlace_eq, hdir, Files.place_foldl_child (isName_branch _ _ _),
    List.append_assoc]
  rfl

section Holds

variable (hpoints : c.points = .ok points)
  (hruns : List.Forall₂ (Turn.Yields execute) (c.turns execute announce w) runs)
  (hcount : runs.length = points.length)
  (htidy : ∀ t ∈ c.turns execute announce w, t.Tidy execute (w.files.place c.output))

include hpoints hruns hcount htidy

theorem holds_after_turn (ht : (c.turns execute announce w)[i]? = some t)
    (h : Files.Holds w.files (w.files.place c.output) ((resultsFiles w.clock runs).take i)
      t.before.files) :
    Files.Holds w.files (w.files.place c.output) ((resultsFiles w.clock runs).take (i + 1))
      t.after.files := by
  obtain ⟨m, hm, done, rfl, -⟩ := exists_getElem?_of_forall₂ hruns ht
  have hown := resultsPlace_of_turn hpoints ht t.before.files
  rw [Files.place_congr h.here, ← hcount] at hown
  have hnext : (resultsFiles w.clock runs).take (i + 1) = (resultsFiles w.clock runs).take i ++
      [(resultsBranch w.clock runs.length i, Measured.node (t.plan.context, done.times))] := by
    rw [List.take_add_one, getElem?_resultsFiles hm]
    rfl
  have hnodup := (nodup_resultsFiles w.clock runs).sublist
    ((List.take_sublist (i + 1) _).map Prod.fst)
  rw [hnext, List.map_append, List.nodup_append'] at hnodup
  have hnew := List.disjoint_right.1 hnodup.2.2 List.mem_cons_self
  rw [hnext]
  exact h.step done (htidy t (List.mem_of_getElem? ht) done) hown
    (getLast?_resultsBranch _ _ _) hnew

/-- Behind a campaign whose runs all complete stand their results. -/
theorem holds_run (ha : announce.KeepsFiles) (htree : w.files.IsTree)
    (hfresh : ∀ names, names.getLast? = some resultsName →
      w.files.leaf? (w.files.place c.output ++ names) = none) :
    Files.Holds w.files (w.files.place c.output) (resultsFiles w.clock runs)
      ((c.run execute announce).on w).2.files := by
  let I : Nat → Files → Prop := fun i fs =>
    Files.Holds w.files (w.files.place c.output) ((resultsFiles w.clock runs).take i) fs
  have hstart : I 0 w.files := by
    refine ⟨htree, rfl, fun names node => ?_⟩
    rw [List.take_zero]
    refine ⟨fun h => (List.not_mem_nil h).elim, fun ⟨hlast, hleaf⟩ => ?_⟩
    rw [hfresh names hlast] at hleaf
    cases hleaf
  have hend := files_after_turns ha (I := I) hstart fun i t ht =>
    holds_after_turn hpoints hruns hcount htidy ht
  have hlength : (resultsFiles w.clock runs).length = (c.turns execute announce w).length := by
    unfold resultsFiles
    rw [List.length_map, List.length_zipIdx, hruns.length_eq]
  change Files.Holds _ _ ((resultsFiles w.clock runs).take _) _ at hend
  rwa [← hlength, List.take_length] at hend

end Holds

/-- Behind a run that completes its output is a directory that is found. -/
theorem find_output_after_turn (hpoints : c.points = .ok points)
    (ht : (c.turns execute announce w)[i]? = some t)
    (done : t.plan.Completion (execute t.plan) t.before t.calls t.after.files)
    (hout : c.output.text ≠ "") :
    t.after.files.find c.output = .ok (t.after.files.place c.output, .directory) := by
  obtain ⟨params, d, -, hd, hp⟩ := plan_of_turn hpoints ht
  have hpath : t.plan.resultsPath =
      (resultsBranch w.clock points.length i).foldl Path.child c.output := by
    unfold resultsBranch
    rw [List.foldl_concat, ← directory_eq_branch hd, ← hp]
    rfl
  have hnames := isName_resultsBranch w.clock points.length i
  have hne : resultsBranch w.clock points.length i ≠ [] := List.concat_ne_nil _ _
  obtain ⟨hlocate, -, hfree⟩ := Files.writable_eq_ok_iff.1 done.writable
  rw [hpath] at hlocate
  have hleads := Files.leads_of_locate_foldl_child hnames hne hlocate
  have hroot : [] <+: done.place := List.nil_prefix
  have hbelow := Files.below_write hroot hfree (t.plan.context.table done.times)
  have hfault := Files.pathFault?_of_foldl_child hnames hout (Files.pathFault?_of_locate hlocate)
  rw [done.files_eq]
  refine Files.find_of_leads hfault ?_
  rw [Files.start_congr hbelow.here]
  exact hleads.mono hbelow.directories

theorem find_output_of_run (hpoints : c.points = .ok points) (ha : announce.KeepsFiles)
    (hne : c.turns execute announce w ≠ [])
    (hruns : List.Forall₂ (Turn.Yields execute) (c.turns execute announce w) runs)
    (hout : c.output.text ≠ "") :
    ((c.run execute announce).on w).2.files.find c.output =
      .ok (((c.run execute announce).on w).2.files.place c.output, .directory) := by
  obtain ⟨last, hlast⟩ := Option.isSome_iff_exists.1 (List.getLast?_isSome.2 hne)
  have hfiles : ((c.run execute announce).on w).2.files = last.after.files := by
    rw [files_run ha, hlast]
    rfl
  obtain ⟨i, ht⟩ := List.mem_iff_getElem?.1 (List.mem_of_getLast? hlast)
  obtain ⟨m, -, done, -⟩ := exists_getElem?_of_forall₂ hruns ht
  rw [hfiles]
  exact find_output_after_turn hpoints ht done hout

/-- If every run that is reached completes, all of them are reached. -/
theorem length_turns_of_completed (hpoints : c.points = .ok points)
    (hdone : ∀ t ∈ c.turns execute announce w, ∃ n path, t.outcome = .ok (.completed n path)) :
    (c.turns execute announce w).length = points.length := by
  have hplans := plans_of_points hpoints w.clock
  have hok : ((c.run execute announce).on w).1 = .ok () := by
    cases hout : ((c.run execute announce).on w).1 with
    | ok _ => rfl
    | error f =>
      obtain ⟨t, hlast, hf⟩ := (run_eq_error_iff hplans).1 hout
      obtain ⟨n, path, hcompleted⟩ := hdone t (List.mem_of_getLast? hlast)
      rw [hf] at hcompleted
      cases hcompleted
  have hall := congrArg List.length (plans_of_run_eq_ok hplans hok)
  rw [List.length_map, List.length_zipWith, length_directories] at hall
  rw [hall, Nat.min_self]

theorem header_of_runs (hpoints : c.points = .ok points)
    (hruns : List.Forall₂ (Turn.Yields execute) (c.turns execute announce w) runs) :
    ∀ m ∈ runs, m.1.header = c.header := by
  intro m hm
  obtain ⟨i, hm⟩ := List.mem_iff_getElem?.1 hm
  obtain ⟨t, ht, done, rfl, -⟩ := exists_getElem?_of_forall₂ hruns.flip hm
  obtain ⟨params, d, hparams, -, hp⟩ := plan_of_turn hpoints ht
  dsimp only
  rw [← hp]
  exact header_of_point hpoints (List.mem_of_getElem? hparams) d

theorem node?_results_of_turn (hpoints : c.points = .ok points) (hcount : runs.length = points.length)
    {fs : Files} (h : Files.Holds w.files (w.files.place c.output) (resultsFiles w.clock runs) fs)
    (ht : (c.turns execute announce w)[i]? = some t) {m : Measured} (hm : runs[i]? = some m) :
    fs.node? (fs.place t.plan.resultsPath) = some m.node := by
  have hplace := resultsPlace_of_turn hpoints ht fs
  rw [Files.place_congr h.here, ← hcount] at hplace
  have hleaf := (h.mem_iff _ _).1 (List.mem_of_getElem? (getElem?_resultsFiles hm))
  rw [← hplace] at hleaf
  exact (Files.leaf?_eq_some_iff.1 hleaf.2).1

/-- What stands behind the campaign for each of its runs. -/
theorem results_of_runs (hpoints : c.points = .ok points)
    (hruns : List.Forall₂ (Turn.Yields execute) (c.turns execute announce w) runs)
    (hcount : runs.length = points.length) {fs : Files}
    (h : Files.Holds w.files (w.files.place c.output) (resultsFiles w.clock runs) fs) :
    List.Forall₂ (fun t m => t.plan.context = m.1 ∧
      t.outcome = .ok (.completed m.2.length t.plan.resultsPath) ∧
      fs.node? (fs.place t.plan.resultsPath) = some (.file (m.1.table m.2)) ∧
      Csv.read (m.1.table m.2) = .ok (c.header, m.1.records m.2))
      (c.turns execute announce w) runs := by
  refine List.forall₂_iff_get.2 ⟨hruns.length_eq, fun i hi hi' => ?_⟩
  obtain ⟨m, hm, done, rfl, hout⟩ :=
    exists_getElem?_of_forall₂ hruns (List.getElem?_eq_getElem hi)
  have hget : runs.get ⟨i, hi'⟩ = _ := (List.getElem?_eq_some_iff.1 hm).2
  have hread := RunContext.read_table (runs.get ⟨i, hi'⟩).1 (runs.get ⟨i, hi'⟩).2
  rw [header_of_runs hpoints hruns _ (List.get_mem runs ⟨i, hi'⟩)] at hread
  have hfile := node?_results_of_turn hpoints hcount h (List.getElem?_eq_getElem hi) hm
  rw [hget] at hread ⊢
  exact ⟨rfl, hout, hfile, hread⟩

/-- Let the runs of all points of a campaign complete, below an output without files of results, and
let their commands leave such files alone there. Then each run leaves a file with its samples, all
under one header, and the output is a directory. What is collected from it raw are the rows of one
run after the other, in the order of its samples and as many as there are samples; if there is any,
the columns are those of the header, and every row has a cell in each of them. What is collected
otherwise is one row for each run with samples and none for a run without. -/
theorem sweep_collects_without_gaps (hpoints : c.points = .ok points) (hne : points ≠ [])
    (ha : announce.KeepsFiles) (htree : w.files.IsTree)
    (hfresh : ∀ names, names.getLast? = some resultsName →
      w.files.leaf? (w.files.place c.output ++ names) = none)
    (htidy : ∀ t ∈ c.turns execute announce w, t.Tidy execute (w.files.place c.output))
    (hdone : ∀ t ∈ c.turns execute announce w, ∃ n path, t.outcome = .ok (.completed n path)) :
    let turns := c.turns execute announce w
    let fs := ((c.run execute announce).on w).2.files
    let place := w.files.place c.output
    turns.length = points.length ∧
    (c.output.text ≠ "" → fs.find c.output = .ok (place, .directory)) ∧
    ∃ runs : List Measured,
      List.Forall₂ (fun t m => t.plan.context = m.1 ∧
        t.outcome = .ok (.completed m.2.length t.plan.resultsPath) ∧
        fs.node? (fs.place t.plan.resultsPath) = some (.file (m.1.table m.2)) ∧
        Csv.read (m.1.table m.2) = .ok (c.header, m.1.records m.2)) turns runs ∧
      ∀ {τ : Type} (source : Path) (v : World τ), v.files = fs →
        fs.find source = .ok (place, .directory) → ∃ order : List Measured, order.Perm runs ∧
          (∃ t v', (collect true source).on v = (.ok t, v') ∧
            t.rows = order.flatMap (fun m => (Sample.number m.2).map m.1.row) ∧
            t.rows.length = (runs.flatMap Prod.snd).length ∧
            ((∃ m ∈ runs, m.2 ≠ []) → t.columns = c.header) ∧
            ∀ r ∈ t.rows, ∀ column ∈ t.columns, ∃ cell, r.get? column = some cell) ∧
          ∃ t v', (collect false source).on v = (.ok t, v') ∧
            t.rows = order.flatMap (fun m => m.1.summaryRows m.2) ∧
            ∀ m ∈ runs, (m.1.summaryRows m.2).length = if m.2 = [] then 0 else 1 := by
  intro turns fs place
  have hlength := length_turns_of_completed hpoints hdone
  obtain ⟨runs, hruns⟩ := exists_yields hdone
  have hcount : runs.length = points.length := hruns.length_eq.symm.trans hlength
  have hholds : Files.Holds w.files place (resultsFiles w.clock runs) fs :=
    holds_run hpoints hruns hcount htidy ha htree hfresh
  have hheader : ∀ m ∈ runs, m.1.header = c.header := header_of_runs hpoints hruns
  refine ⟨hlength, fun hout => ?_, runs, ?_, ?_⟩
  · have hturns : turns ≠ [] := by
      rwa [← List.length_pos_iff, hlength, List.length_pos_iff]
    have hfind := find_output_of_run hpoints ha hturns hruns hout
    rwa [Files.place_congr hholds.here] at hfind
  · exact results_of_runs hpoints hruns hcount hholds
  · intro τ source v hv hfind
    have hperm := Files.results_perm hholds.tree.named hfind
      (nodup_resultsFiles w.clock runs) hholds.mem_iff
    rw [map_snd_resultsFiles, ← hv] at hperm
    obtain ⟨order, horder, hnodes⟩ := Measured.exists_order hperm
    obtain ⟨t, v', hraw, hrows, hcolumns, hcells⟩ :=
      collect_runs (fun m hm => hheader m (horder.subset hm)) hnodes
    obtain ⟨t', v'', hsummaries, hrows'⟩ := collect_summaries hnodes
    refine ⟨order, horder, ⟨t, v', hraw, hrows, ?_, ?_, hcells⟩, t', v'', hsummaries, hrows',
      fun m _ => m.1.length_summaryRows m.2⟩
    · rw [hrows, length_rows_of_runs]
      exact (horder.flatMap_right Prod.snd).length_eq
    · rintro ⟨m, hm, hsamples⟩
      exact hcolumns ⟨m, horder.symm.subset hm, hsamples⟩

end Turns

/-- Two runs of which the second has no samples. -/
theorem sweep_collects_without_gaps_of_two_points :
    let binding : Binding := ⟨none, none, some (.ofList [("depth", ["<value>"])]), none⟩
    let b : Benchmark := ⟨"b", .ofList [("depth", .integer 1)], .ofList [("t", binding)]⟩
    let t : Target := ⟨"t", .empty, some (.known .akka), none, none, none, none,
      some [.literal "bench", .group .run]⟩
    let c : Campaign := ⟨b, t, ⟨1, 1⟩, .abort, [⟨"depth", [.integer 2, .integer 3]⟩], ⟨"/out"⟩⟩
    let execute : Plan → Executor Unit := fun _ i => Run.of (.ok
      ⟨if i.args = ["2"] then ["Iteration-1: total 2.5 ms", "Iteration-2: total 3 ms"] else [], 0⟩)
    let announce : Announcement Unit := fun _ _ w => w
    let w : World Unit := ⟨⟨.empty, []⟩, 0, [], ()⟩
    let v := ((c.run execute announce).on w).2
    (∃ t v', (collect true c.output).on v = (.ok t, v') ∧ t.rows.length = 2 ∧ t.columns =
      ["benchmark", "target", "total_iterations", "threads", "iteration", "time_ms", "depth"]) ∧
      ∃ t v', (collect false c.output).on v = (.ok t, v') ∧ t.rows.length = 1 := by
  intro binding b t c execute announce w v
  have houtcomes : (c.turns execute announce w).map (fun t => t.outcome.toOption) =
      [some (.completed 2 ⟨"/out/multirun/1970-01-01/00-00-00/0/results.csv"⟩),
        some (.completed 0 ⟨"/out/multirun/1970-01-01/00-00-00/1/results.csv"⟩)] := by
    decide +kernel
  have hpoints : c.points =
      .ok [.ofList [("depth", .integer 2)], .ofList [("depth", .integer 3)]] := by
    decide +kernel
  have hdone : ∀ t ∈ c.turns execute announce w,
      ∃ n path, t.outcome = .ok (.completed n path) := by
    intro t ht
    have hmem := List.mem_map_of_mem (f := fun t => t.outcome.toOption) ht
    rw [houtcomes, List.mem_cons, List.mem_singleton] at hmem
    rcases hmem with h | h
    · exact ⟨_, _, eq_ok_of_toOption_eq_some h⟩
    · exact ⟨_, _, eq_ok_of_toOption_eq_some h⟩
  have ha : announce.KeepsFiles := fun _ _ _ => rfl
  have hfresh : ∀ l, w.files.leaf? l = none := by
    intro l
    unfold Files.leaf? Files.node?
    split <;> rfl
  have htidy : ∀ t : Turn Unit, t.Tidy execute (w.files.place c.output) := by
    refine fun t => Executor.Tidy.turn (Executor.tidy_of_files_eq (fun i v => ?_) _)
    have hrun : (execute t.plan i).on v = (_, v) := Run.on_of _ v
    rw [hrun]
  obtain ⟨-, hfind, runs, hruns, hcollect⟩ := sweep_collects_without_gaps hpoints (by decide) ha
    (by decide) (fun names _ => hfresh _) (fun t _ => htidy t) hdone
  obtain ⟨order, horder, ⟨t, v', hraw, -, hlength, hcolumns, -⟩, t', v'', hsummaries, hrows, hone⟩ :=
    hcollect c.output ((c.run execute announce).on w).2 rfl (hfind (by decide))
  have hcompleted : List.Forall₂
      (fun o m => ∃ path, o = some (Outcome.completed (Prod.snd m).length path))
      ((c.turns execute announce w).map fun t => t.outcome.toOption) runs := by
    rw [List.forall₂_map_left_iff]
    refine hruns.imp fun t m h => ⟨t.plan.resultsPath, ?_⟩
    rw [h.2.1]
    rfl
  rw [houtcomes] at hcompleted
  obtain ⟨m₁, rest, ⟨_, h₁⟩, hrest, rfl⟩ := List.forall₂_cons_left_iff.1 hcompleted
  obtain ⟨m₂, last, ⟨_, h₂⟩, hlast, rfl⟩ := List.forall₂_cons_left_iff.1 hrest
  obtain rfl := List.forall₂_nil_left_iff.1 hlast
  have hfirst : 2 = m₁.2.length := (Outcome.completed.inj (Option.some.inj h₁)).1
  have hsecond : 0 = m₂.2.length := (Outcome.completed.inj (Option.some.inj h₂)).1
  have hsome : m₁.2 ≠ [] := fun hnil => by simp [hnil] at hfirst
  have hnone : m₂.2 = [] := List.length_eq_zero_iff.1 hsecond.symm
  refine ⟨⟨t, v', hraw, ?_, ?_⟩, t', v'', hsummaries, ?_⟩
  · rw [hlength, List.flatMap_cons, List.flatMap_singleton, List.length_append, ← hfirst, ← hsecond]
  · rw [hcolumns ⟨m₁, List.mem_cons_self, hsome⟩]
    decide
  · rw [hrows, List.length_flatMap, (horder.map _).sum_nat, List.map_cons, List.map_singleton,
      hone m₁ (by simp), hone m₂ (by simp), if_neg hsome, if_pos hnone]
    rfl

end Campaign

end BenchSweep
