import BenchSweep.Proofs.SharedDirectory

/-! The runs of a campaign are isolated. Each run finds what it would have found alone and leaves what
it would have left, and what it leaves below its directory is what stands there in the end. -/
set_option autoImplicit false

namespace BenchSweep

variable {σ : Type}

namespace Campaign

/-! ## Runs that are reached -/

/-- Whether no run of the campaign gets as far as its directory. -/
def Idle (c : Campaign) : Prop := (c.plan c.benchmark.params c.output).Idle

theorem idle_plan_iff {c : Campaign} {params : Params}
    (h : params.keys = c.benchmark.params.keys) (directory : Path) :
    (c.plan params directory).Idle ↔ c.Idle := by
  unfold Idle Plan.Idle
  rw [report_plan h, report_plan rfl]
  exact Iff.rfl

section Reached

variable {c : Campaign} {points : List Params}
  {answer : Invocation → Except Failure Execution} {execute : Plan → Executor σ}
  {announce : Announcement σ} {w : World σ} {i : Nat} {t : Turn σ}

theorem directory_of_turn (hpoints : c.points = .ok points)
    (ht : (c.turns execute announce w)[i]? = some t) (hc : points.length ≠ 1) :
    t.plan.directory = numbered (c.base w.clock) i := by
  obtain ⟨params, d, -, hd, hp⟩ := plan_of_turn hpoints ht
  rw [← hp]
  exact directory_eq_numbered hd hc

theorem idle_turn_iff (hpoints : c.points = .ok points)
    (ht : (c.turns execute announce w)[i]? = some t) : t.plan.Idle ↔ c.Idle := by
  obtain ⟨params, d, hkeys, hp⟩ := plan_of_mem_turns hpoints (List.mem_of_getElem? ht)
  rw [← hp]
  exact idle_plan_iff hkeys d

theorem behaviour_of_turn (he : ∀ p, (execute p).Answers answer)
    (ht : (c.turns execute announce w)[i]? = some t) :
    t.plan.behaviour answer (t.plan.manifest t.before.clock).write t.before.files =
      ⟨t.calls, t.outcome, t.after.files⟩ :=
  (runs_of_mem_turns (List.mem_of_getElem? ht)).eq_behaviour (he t.plan)

/-- Behind the directories on its way a run changes nothing but what stands below its own. -/
theorem below_of_turn (he : ∀ p, (execute p).Answers answer)
    (ht : (c.turns execute announce w)[i]? = some t) :
    t.after.files = t.before.files ∨
      Files.Below (t.before.files.place t.plan.directory)
        (t.before.files.makeDirectories t.plan.directory).1 t.after.files := by
  have hbelow := t.plan.below_behaviour answer
    (t.plan.manifest t.before.clock).write t.before.files
  rw [behaviour_of_turn he ht] at hbelow
  exact hbelow.imp_left And.right

theorem files_of_idle_turn (hpoints : c.points = .ok points)
    (ht : (c.turns execute announce w)[i]? = some t) (h : c.Idle) :
    t.after.files = t.before.files :=
  ((runs_of_mem_turns (List.mem_of_getElem? ht)).untouched ((idle_turn_iff hpoints ht).2 h)).2

/-- Whether files are those at the start of a run that is reached: they are as they were before all
runs, or those behind the runs before it. -/
def Reaches (c : Campaign) (count : Nat) (w : World σ) (i : Nat) (fs : Files) : Prop :=
  (i = 0 ∨ c.Idle) ∧ fs = w.files ∨
    ¬ c.Idle ∧ 0 < i ∧ (count ≠ 1 → Settled (c.base w.clock) w.files i fs)

/-- A run changes nothing but what stands below its own directory as soon as the one that all runs
share is there. -/
theorem Settled.below_turn (hpoints : c.points = .ok points)
    (he : ∀ p, (execute p).Answers answer) (ht : (c.turns execute announce w)[i]? = some t)
    (hc : points.length ≠ 1) (h : Settled (c.base w.clock) w.files i t.before.files) :
    t.plan.directory = numbered (c.base w.clock) i ∧
      Files.Below (t.before.files.place t.plan.directory) t.before.files t.after.files := by
  have hdir := directory_of_turn hpoints ht hc
  refine ⟨hdir, ?_⟩
  rcases below_of_turn he ht with hfiles | hbelow
  · rw [hfiles]
    exact .refl _ _
  · have hmade := h.below_makeDirectories i
    rw [← hdir] at hmade
    exact hmade.trans hbelow

theorem Reaches.step (hpoints : c.points = .ok points) (he : ∀ p, (execute p).Answers answer)
    (ht : (c.turns execute announce w)[i]? = some t)
    (h : c.Reaches points.length w i t.before.files) {outcome : Outcome}
    (hout : t.outcome = .ok outcome) : c.Reaches points.length w (i + 1) t.after.files := by
  have hbehaviour := behaviour_of_turn he ht
  by_cases hidle : c.Idle
  · rcases h with ⟨-, hbefore⟩ | ⟨hn, -⟩
    · exact .inl ⟨.inr hidle, (files_of_idle_turn hpoints ht hidle).trans hbefore⟩
    · exact (hn hidle).elim
  · refine .inr ⟨hidle, by omega, fun hc => ?_⟩
    rcases h with ⟨hi, hbefore⟩ | ⟨-, -, hsettled⟩
    · obtain rfl : i = 0 := hi.resolve_right hidle
      have hok := (congrArg Plan.Behaviour.outcome hbehaviour).trans hout
      obtain ⟨made, hmade, hbelow⟩ :=
        Plan.exists_made_of_ok (mt (idle_turn_iff hpoints ht).1 hidle) hok
      rw [hbehaviour] at hbelow
      rw [directory_of_turn hpoints ht hc, hbefore] at hmade hbelow
      exact settled_of_first hmade hbelow
    · obtain ⟨hdir, hbelow⟩ := (hsettled hc).below_turn hpoints he ht hc
      rw [hdir] at hbelow
      exact (hsettled hc).step hbelow

theorem reaches_of_turn (hpoints : c.points = .ok points) (he : ∀ p, (execute p).Answers answer)
    (ha : announce.KeepsFiles) (ht : (c.turns execute announce w)[i]? = some t) :
    c.Reaches points.length w i t.before.files := by
  refine files_before_turn ha (I := c.Reaches points.length w) (.inl ⟨.inl rfl, rfl⟩) ?_ i t ht
  intro k t' ht' hreaches ⟨outcome, hout⟩
  exact hreaches.step hpoints he ht' hout

/-- Before a run that is not the first, the files are as they were before all runs or those behind
the first. -/
theorem files_of_turn (hpoints : c.points = .ok points) (he : ∀ p, (execute p).Answers answer)
    (ha : announce.KeepsFiles) (ht : (c.turns execute announce w)[i]? = some t) :
    (i = 0 ∨ c.Idle) ∧ t.before.files = w.files ∨
      ¬ c.Idle ∧ points.length ≠ 1 ∧ Settled (c.base w.clock) w.files i t.before.files := by
  obtain ⟨params, d, -, hd, -⟩ := plan_of_turn hpoints ht
  have hi := lt_of_directory hd
  refine (reaches_of_turn hpoints he ha ht).imp_right fun ⟨hidle, hpos, hsettled⟩ => ?_
  have hc : points.length ≠ 1 := by omega
  exact ⟨hidle, hc, hsettled hc⟩

theorem here_of_turn (hpoints : c.points = .ok points) (he : ∀ p, (execute p).Answers answer)
    (ha : announce.KeepsFiles) (ht : (c.turns execute announce w)[i]? = some t) :
    t.before.files.here = w.files.here := by
  rcases files_of_turn hpoints he ha ht with ⟨-, hbefore⟩ | ⟨-, -, hsettled⟩
  · rw [hbefore]
  · exact hsettled.here

/-! ## What stays behind the runs before -/

/-- A run leaves alone what stands below the directories of runs before it. -/
theorem node?_after_of_earlier (hpoints : c.points = .ok points)
    (he : ∀ p, (execute p).Answers answer) (ha : announce.KeepsFiles)
    (ht : (c.turns execute announce w)[i]? = some t) {j : Nat} {d : Path} (hj : j < i)
    (hd : (c.directories w.clock points.length)[j]? = some d) {l : Location}
    (hl : w.files.place d <+: l) : t.after.files.node? l = t.before.files.node? l := by
  rcases files_of_turn hpoints he ha ht with ⟨hi, -⟩ | ⟨-, hc, hsettled⟩
  · rw [files_of_idle_turn hpoints ht (hi.resolve_left (by omega))]
  · obtain ⟨hdir, hbelow⟩ := hsettled.below_turn hpoints he ht hc
    refine hbelow.elsewhere l ?_
    rw [directory_eq_numbered hd hc, ← Files.place_congr hsettled.here] at hl
    rw [hdir]
    exact not_prefix_of_prefix_numbered (by omega) hl

/-- Behind the campaign every run that is reached has its files as it left them. -/
theorem node?_run_of_turn (hpoints : c.points = .ok points) (he : ∀ p, (execute p).Answers answer)
    (ha : announce.KeepsFiles) (ht : (c.turns execute announce w)[i]? = some t) {d : Path}
    (hd : (c.directories w.clock points.length)[i]? = some d) {l : Location}
    (hl : w.files.place d <+: l) :
    ((c.run execute announce).on w).2.files.node? l = t.after.files.node? l := by
  obtain ⟨hi, -⟩ := List.getElem?_eq_some_iff.1 ht
  -- what holds of the files behind the run that left them
  let I : Nat → Files → Prop := fun k fs => i < k → fs.node? l = t.after.files.node? l
  have hstep : ∀ k t', (c.turns execute announce w)[k]? = some t' → I k t'.before.files →
      I (k + 1) t'.after.files := by
    intro k t' ht' hbefore hlt
    rcases Nat.lt_or_eq_of_le (Nat.le_of_lt_succ hlt) with hlt | rfl
    · rw [node?_after_of_earlier hpoints he ha ht' hlt hd hl, hbefore hlt]
    · rw [Option.some.inj (ht.symm.trans ht')]
  exact files_after_turns ha (I := I) (fun h => by omega) hstep hi

/-! ## What stands below the directories of later runs -/

theorem not_upwards_of_numbered {base : Path} {i j : Nat} (h : ".." ∉ (numbered base i).parts) :
    ".." ∉ (numbered base j).parts := by
  rw [parts_numbered, List.mem_append, not_or] at h ⊢
  exact ⟨h.1, fun hm => (number_ne_dots j).2 (List.mem_singleton.1 hm).symm⟩

theorem spared_after (hpoints : c.points = .ok points) (he : ∀ p, (execute p).Answers answer)
    (ha : announce.KeepsFiles) (ht : (c.turns execute announce w)[i]? = some t) {k : Nat} {d : Path}
    (hk : i < k) (hd : (c.directories w.clock points.length)[k]? = some d) {l : Location}
    (hl : w.files.place d <+: l) (h : Spared d w.files t.before.files l) :
    Spared d w.files t.after.files l := by
  obtain ⟨params, d', -, hd', -⟩ := plan_of_turn hpoints ht
  have hc := count_ne_one hd hd' (by omega)
  obtain rfl := directory_eq_numbered hd hc
  have hbelow := below_of_turn he ht
  rw [directory_of_turn hpoints ht hc] at hbelow
  rw [← Files.place_congr (here_of_turn hpoints he ha ht)] at hl
  rcases hbelow with hfiles | hbelow
  · rwa [hfiles]
  unfold Spared at h ⊢
  rw [hbelow.elsewhere l (not_prefix_of_prefix_numbered (by omega) hl)]
  rcases t.before.files.node?_makeDirectories (numbered (c.base w.clock) i) l with
    hsame | ⟨hbefore, hafter, n, hn⟩
  · rwa [hsame]
  · refine .inr ⟨?_, ?_, hafter⟩
    · by_contra hup
      have hway := t.before.files.walk_take_isPrefix (not_upwards_of_numbered (j := i) hup) n
      rw [← hn] at hway
      exact not_prefix_of_prefix_numbered (by omega) List.prefix_rfl (hl.trans hway)
    · rcases h with h | ⟨-, -, h⟩
      · rw [← h, hbefore]
      · rw [hbefore] at h
        cases h

theorem spared_run (hpoints : c.points = .ok points) (he : ∀ p, (execute p).Answers answer)
    (ha : announce.KeepsFiles) {k : Nat} {d : Path}
    (hk : (c.turns execute announce w).length ≤ k)
    (hd : (c.directories w.clock points.length)[k]? = some d) {l : Location}
    (hl : w.files.place d <+: l) :
    Spared d w.files ((c.run execute announce).on w).2.files l := by
  let I : Nat → Files → Prop := fun i fs => i ≤ k → Spared d w.files fs l
  have hstep : ∀ i t, (c.turns execute announce w)[i]? = some t → I i t.before.files →
      I (i + 1) t.after.files :=
    fun i t ht hbefore hlt =>
      spared_after hpoints he ha ht hlt hd hl (hbefore (Nat.le_of_lt hlt))
  exact files_after_turns ha (I := I) (fun _ => .inl rfl) hstep hk

/-! ## Runs alone -/

/-- A run that is reached does what the same plan does alone, from the files before all runs. -/
theorem alone_of_turn (hpoints : c.points = .ok points) (he : ∀ p, (execute p).Answers answer)
    (ha : announce.KeepsFiles) (ht : (c.turns execute announce w)[i]? = some t) {τ : Type}
    {execute' : Executor τ} (he' : execute'.Answers answer) {v : World τ} (hv : v.files = w.files) :
    let alone := t.plan.turn execute' v
    alone.calls = t.calls ∧ alone.outcome = t.outcome ∧
      ∀ l, w.files.place t.plan.directory <+: l →
        t.plan.SameAt t.before.clock v.clock t.after.files alone.after.files l := by
  intro alone
  have hx := behaviour_of_turn he ht
  have hy : t.plan.behaviour answer (t.plan.manifest v.clock).write w.files =
      ⟨alone.calls, alone.outcome, alone.after.files⟩ := by
    rw [← hv]
    exact (t.plan.runs_turn execute' v).eq_behaviour he'
  have hparts : t.plan.directory.parts ≠ [] := by
    obtain ⟨params, d, -, hd, hp⟩ := plan_of_turn hpoints ht
    rw [← hp]
    exact parts_directory_ne_nil hd
  have hhere : t.after.files.here = w.files.here := by
    have hkept := t.plan.here_behaviour answer
      (t.plan.manifest t.before.clock).write t.before.files
    rw [hx] at hkept
    exact hkept.trans (here_of_turn hpoints he ha ht)
  have hagree : Plan.MadeAlike t.plan.directory t.before.files w.files →
      (t.plan.Idle → w.files = t.before.files) →
      alone.calls = t.calls ∧ alone.outcome = t.outcome ∧
        ∀ l, w.files.place t.plan.directory <+: l →
          t.plan.SameAt t.before.clock v.clock t.after.files alone.after.files l := by
    intro hmade hsame
    have h := Plan.behaviour_agree answer hparts
      (t.plan.isSome_write_manifest_eq t.before.clock v.clock) hmade hsame
    rw [hx, hy] at h
    refine ⟨h.1, h.2.1, fun l hl => h.2.2.sameAt ?_⟩
    rwa [← Files.place_congr hhere] at hl
  rcases files_of_turn hpoints he ha ht with ⟨-, hbefore⟩ | ⟨hidle, hc, hsettled⟩
  · refine hagree ?_ fun _ => hbefore.symm
    rw [hbefore]
    exact .refl _ _
  · have hnumbered := directory_of_turn hpoints ht hc
    have hactive := mt (idle_turn_iff hpoints ht).1 hidle
    cases hf : Files.pathFault? (numbered (c.base w.clock) i) with
    | none =>
      refine hagree ?_ fun h => (hactive h).elim
      rw [hnumbered]
      exact hsettled.madeAlike (parts_base_ne_nil c w.clock) (Nat.le_refl i) hf
    | some fault =>
      rw [← hnumbered] at hf
      have hmake := Files.makeDirectories_of_pathFault hparts hf
      rw [Plan.behaviour_of_fault hactive _ (hmake t.before.files)] at hx
      rw [Plan.behaviour_of_fault hactive _ (hmake w.files)] at hy
      obtain ⟨hcalls, hout, hfiles⟩ := Plan.Behaviour.mk.inj hx
      obtain ⟨hcalls', hout', hfiles'⟩ := Plan.Behaviour.mk.inj hy
      refine ⟨hcalls'.symm.trans hcalls, hout'.symm.trans hout, fun l hl => ?_⟩
      rw [hnumbered] at hl
      have hspared := hsettled.spared (Nat.le_refl i) hl
      rw [← hnumbered, hfiles] at hspared
      rw [hfiles'] at hspared
      unfold Plan.SameAt
      rcases hspared with h | ⟨hup, hbefore, hafter⟩
      · exact .inl h.symm
      · exact .inr (.inr ⟨hup, hbefore, hafter⟩)

/-! ## Isolation -/

def fixed (c : Campaign) (vs : List Value) : Campaign :=
  { c with overrides := Override.fixed c.overrides vs }

theorem exists_choice (hpoints : c.points = .ok points) {params : Params}
    (h : points[i]? = some params) :
    ∃ vs, (Override.choices c.overrides)[i]? = some vs ∧ (c.fixed vs).points = .ok [params] := by
  obtain ⟨-, rfl⟩ := sweep_eq_ok_iff.1 hpoints
  rw [List.getElem?_map] at h
  obtain ⟨vs, hvs, rfl⟩ := Option.map_eq_some_iff.1 h
  exact ⟨vs, hvs, sweep_fixed hpoints (List.mem_of_getElem? hvs)⟩

/-- Let an executor answer each command line in one way. A campaign has a directory for each of its
points, and none of them is in another. It calls what the runs that are reached call; these are all
if it succeeds, and otherwise the last of them fails as it does, and no other. A run that is reached
is one of the campaign in which the values chosen at its point are fixed, and does what that does
alone from the files before the campaign: it makes the same calls, answers the same and leaves the
same files below its directory, but for the time in the record; and these files stand behind the
campaign as it left them. No file is made below the directory of a run that is not reached. -/
theorem runs_are_isolated (hpoints : c.points = .ok points)
    (he : ∀ p, (execute p).Answers answer) (ha : announce.KeepsFiles) (w : World σ) :
    let directories := c.directories w.clock points.length
    let turns := c.turns execute announce w
    let out := (c.run execute announce).on w
    (directories.length = points.length ∧
      ∀ (i j : Nat) (d d' : Path), directories[i]? = some d → directories[j]? = some d' → i ≠ j →
        ¬ w.files.place d <+: w.files.place d') ∧
    (c.calls execute announce w = turns.flatMap Turn.calls ∧
      (∀ t ∈ turns.dropLast, ∃ outcome, t.outcome = .ok outcome) ∧
      (out.1 = .ok () → turns.length = points.length) ∧
      ∀ f, out.1 = .error f ↔ ∃ t, turns.getLast? = some t ∧ t.outcome = .error f) ∧
    (∀ (i : Nat) (t : Turn σ), turns[i]? = some t → ∃ vs params d,
      (Override.choices c.overrides)[i]? = some vs ∧ directories[i]? = some d ∧
      (c.fixed vs).points = .ok [params] ∧ (c.fixed vs).plan params d = t.plan ∧
      (∀ {τ : Type} (execute' : Executor τ) (v : World τ), execute'.Answers answer →
        v.files = w.files →
        let alone := t.plan.turn execute' v
        alone.calls = t.calls ∧ alone.outcome = t.outcome ∧
          ∀ l, w.files.place d <+: l →
            t.plan.SameAt t.before.clock v.clock t.after.files alone.after.files l) ∧
      ∀ l, w.files.place d <+: l → out.2.files.node? l = t.after.files.node? l) ∧
    ∀ (k : Nat) (d : Path), turns.length ≤ k → directories[k]? = some d →
      ∀ l, w.files.place d <+: l → Spared d w.files out.2.files l := by
  have hplans := plans_of_points hpoints w.clock
  have hlength := c.length_directories w.clock points.length
  refine ⟨⟨hlength, ?_⟩, ⟨c.calls_eq execute announce w, ?_, ?_, fun f => run_eq_error_iff hplans⟩,
    ?_, ?_⟩
  · intro i j d d' hd hd' hne
    exact not_prefix_of_prefix_directory hd hd' hne List.prefix_rfl
  · exact fun t ht => outcome_of_mem_dropLast_turns ht
  · intro hok
    have hall := congrArg List.length (plans_of_run_eq_ok hplans hok)
    rw [List.length_map, List.length_zipWith] at hall
    rw [hall]
    exact Nat.min_eq_left (Nat.le_of_eq hlength.symm)
  · intro i t ht
    obtain ⟨params, d, hparams, hd, hp⟩ := plan_of_turn hpoints ht
    obtain ⟨vs, hvs, hfixed⟩ := exists_choice hpoints hparams
    refine ⟨vs, params, d, hvs, hd, hfixed, hp, ?_, fun l hl => node?_run_of_turn hpoints he ha ht hd hl⟩
    intro τ execute' v he' hv
    have halone := alone_of_turn hpoints he ha ht he' hv
    rwa [show t.plan.directory = d from by rw [← hp]; rfl] at halone
  · intro k d hk hd l hl
    exact spared_run hpoints he ha hk hd hl

end Reached

/-- Two runs of which the second fails: the campaign fails as it does, after a directory for each. -/
theorem runs_are_isolated_of_failing_second :
    let binding : Binding := ⟨none, none, some (.ofList [("depth", ["<value>"])]), none⟩
    let b : Benchmark := ⟨"b", .ofList [("depth", .integer 1)], .ofList [("t", binding)]⟩
    let t : Target := ⟨"t", .empty, some (.known .akka), none, none, none, none,
      some [.literal "bench", .group .run]⟩
    let c : Campaign := ⟨b, t, ⟨1, 1⟩, .abort, [⟨"depth", [.integer 2, .integer 3]⟩], ⟨"/out"⟩⟩
    let points : List Params := [.ofList [("depth", .integer 2)], .ofList [("depth", .integer 3)]]
    let answer : Invocation → Except Failure Execution := fun i =>
      if i.args = ["3"] then .error (.commandFailed i.program 2)
      else .ok ⟨["Iteration-1: total 2.5 ms"], 0⟩
    let execute : Plan → Executor Unit := fun _ i => Run.of (answer i)
    let announce : Announcement Unit := fun _ _ w => w
    let w : World Unit := ⟨⟨.empty, []⟩, 0, [], ()⟩
    c.points = .ok points ∧ ((c.run execute announce).on w).1 = .error (.commandFailed "bench" 2) ∧
      (c.directories w.clock points.length).length = points.length ∧
      ∃ t, (c.turns execute announce w).getLast? = some t ∧
        t.outcome = .error (.commandFailed "bench" 2) := by
  intro binding b t c points answer execute announce w
  have hpoints : c.points = .ok points := by decide +kernel
  have he : ∀ p, (execute p).Answers answer := by
    intro p i v
    have hrun : (execute p i).on v = (answer i, v) := Run.on_of _ v
    rw [hrun]
    exact ⟨rfl, rfl⟩
  have ha : announce.KeepsFiles := fun _ _ _ => rfl
  have hout : ((c.run execute announce).on w).1 = .error (.commandFailed "bench" 2) := by decide +kernel
  obtain ⟨⟨hlength, -⟩, ⟨-, -, -, herror⟩, -, -⟩ := runs_are_isolated hpoints he ha w
  exact ⟨hpoints, hout, hlength, (herror _).1 hout⟩

end Campaign

end BenchSweep
