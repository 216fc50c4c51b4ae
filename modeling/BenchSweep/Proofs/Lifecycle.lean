import BenchSweep.Lifecycle
import BenchSweep.Proofs.Calls
import BenchSweep.Proofs.Resolution

/-! The stages of a run in order. `Performs` says how command lines are filled in and executed one
after the other up to the first fault; every run of a target with a last stage is such a sequence
over all its stages, and what it answers is decided by its calls. -/
set_option autoImplicit false

namespace BenchSweep

variable {σ : Type}

namespace Call

/-- The command line that was passed on, as it comes out of filling in. -/
def built (c : Call) : Except Failure Invocation := .ok c.invocation

/-- Whether the executor answered without a failure. -/
def Answered (c : Call) : Prop := ∃ e, c.answer = .ok e

end Call

/-- The command lines of stages, each filled in or the failure to do so. -/
def Resolver.buildAll (r : Resolver) (b : Binding) (cmds : List (Stage × Command)) :
    List (Except Failure Invocation) :=
  cmds.map fun x => r.build b x.2

namespace Target

/-- The message before a stage. -/
def stageEvent (t : Target) (s : Stage) : Event :=
  ⟨.info, s!"Stage {s.name} of target {t.name}", none⟩

/-- The message behind the last stage. -/
def parsedEvent (times : List Binary64) : Event :=
  ⟨.info, s!"Parsed {times.length} timing samples", none⟩

/-- From one world to another, command lines of stages are filled in and executed in turn, with these
calls, up to the end or to the first fault. -/
inductive Performs (t : Target) (execute : Executor σ) (r : Resolver) (b : Binding) :
    World σ → List (Stage × Command) → List Call → Option Failure → World σ → Prop
  | done (w : World σ) : Performs t execute r b w [] [] none w
  | unbuilt {w : World σ} {s : Stage} {c : Command} {rest : List (Stage × Command)} {f : Failure}
      (hc : r.build b c = .error f) :
      Performs t execute r b w ((s, c) :: rest) [] (some f) (w.told [t.stageEvent s])
  | failed {w w' : World σ} {s : Stage} {c : Command} {rest : List (Stage × Command)}
      {i : Invocation} {f : Failure} (hc : r.build b c = .ok i)
      (hi : (execute i).on (w.told [t.stageEvent s]) = (.error f, w')) :
      Performs t execute r b w ((s, c) :: rest) [⟨i, .error f⟩] (some f) w'
  | next {w w' w'' : World σ} {s : Stage} {c : Command} {rest : List (Stage × Command)}
      {i : Invocation} {e : Execution} {calls : List Call} {fault : Option Failure}
      (hc : r.build b c = .ok i)
      (hi : (execute i).on (w.told [t.stageEvent s]) = (.ok e, w'))
      (h : Performs t execute r b w' rest calls fault w'') :
      Performs t execute r b w ((s, c) :: rest) (⟨i, .ok e⟩ :: calls) fault w''

variable {t : Target} {execute : Executor σ} {r : Resolver} {b : Binding}

namespace Performs

theorem append {w w' w'' : World σ} {xs ys : List (Stage × Command)} {cs ds : List Call}
    {fault : Option Failure} (hx : Performs t execute r b w xs cs none w')
    (hy : Performs t execute r b w' ys ds fault w'') :
    Performs t execute r b w (xs ++ ys) (cs ++ ds) fault w'' := by
  generalize hn : (none : Option Failure) = n at hx
  induction hx with
  | done w => exact hy
  | unbuilt hc => cases hn
  | failed hc hi => cases hn
  | next hc hi h ih => exact .next hc hi (ih hy hn)

theorem append_of_fault {w w' : World σ} {xs : List (Stage × Command)} {cs : List Call}
    {f : Failure} (hx : Performs t execute r b w xs cs (some f) w') (ys : List (Stage × Command)) :
    Performs t execute r b w (xs ++ ys) cs (some f) w' := by
  generalize hn : some f = n at hx ⊢
  induction hx with
  | done w => cases hn
  | unbuilt hc => exact .unbuilt hc
  | failed hc hi => exact .failed hc hi
  | next hc hi h ih => exact .next hc hi (ih hn)

/-! ## Calls and faults -/

theorem calls_isPrefix {w w' : World σ} {cmds : List (Stage × Command)} {calls : List Call}
    {fault : Option Failure} (h : Performs t execute r b w cmds calls fault w') :
    calls.map Call.built <+: r.buildAll b cmds := by
  induction h with
  | done w => exact List.nil_prefix
  | unbuilt hc => exact List.nil_prefix
  | failed hc hi => exact List.cons_prefix_cons.2 ⟨hc.symm, List.nil_prefix⟩
  | next hc hi h ih => exact List.cons_prefix_cons.2 ⟨hc.symm, ih⟩

theorem answered_of_mem_dropLast {w w' : World σ} {cmds : List (Stage × Command)}
    {calls : List Call} {fault : Option Failure} (h : Performs t execute r b w cmds calls fault w') :
    ∀ c ∈ calls.dropLast, c.Answered := by
  induction h with
  | done w => simp
  | unbuilt hc => simp
  | failed hc hi => simp
  | @next w w' w'' s c rest i e calls fault hc hi h ih =>
    intro d hd
    cases calls with
    | nil => simp at hd
    | cons c' calls =>
      rw [List.dropLast_cons_cons, List.mem_cons] at hd
      rcases hd with rfl | hd
      · exact ⟨e, rfl⟩
      · exact ih d hd

theorem of_no_fault {w w' : World σ} {cmds : List (Stage × Command)} {calls : List Call}
    (h : Performs t execute r b w cmds calls none w') :
    calls.map Call.built = r.buildAll b cmds ∧ ∀ c ∈ calls, c.Answered := by
  generalize hn : (none : Option Failure) = n at h
  induction h with
  | done w => exact ⟨rfl, by simp⟩
  | unbuilt hc => cases hn
  | failed hc hi => cases hn
  | @next w w' w'' s c rest i e calls fault hc hi h ih =>
    obtain ⟨hm, ha⟩ := ih hn
    refine ⟨List.cons_eq_cons.2 ⟨hc.symm, hm⟩, ?_⟩
    intro d hd
    rcases List.mem_cons.1 hd with rfl | hd
    · exact ⟨e, rfl⟩
    · exact ha d hd

theorem of_fault {w w' : World σ} {cmds : List (Stage × Command)} {calls : List Call} {f : Failure}
    (h : Performs t execute r b w cmds calls (some f) w') :
    (∃ c, calls.getLast? = some c ∧ c.answer = .error f) ∨
      (∀ c ∈ calls, c.Answered) ∧ (r.buildAll b cmds)[calls.length]? = some (.error f) := by
  generalize hn : some f = n at h
  induction h with
  | done w => cases hn
  | unbuilt hc =>
    cases hn
    exact .inr ⟨by simp, by simp [Resolver.buildAll, hc]⟩
  | failed hc hi =>
    cases hn
    exact .inl ⟨_, rfl, rfl⟩
  | @next w w' w'' s c rest i e calls fault hc hi h ih =>
    rcases ih hn with ⟨d, hd, hf⟩ | ⟨ha, hf⟩
    · exact .inl ⟨d, by simp [List.getLast?_cons, hd], hf⟩
    · refine .inr ⟨?_, by simpa [Resolver.buildAll] using hf⟩
      intro d hd
      rcases List.mem_cons.1 hd with rfl | hd
      · exact ⟨e, rfl⟩
      · exact ha d hd

theorem invariant_append {I : List Call → World σ → Prop}
    (htold : ∀ cs w es, I cs w → I cs (w.told es))
    (hcall : ∀ cs w i, I cs w → I (cs ++ [⟨i, ((execute i).on w).1⟩]) ((execute i).on w).2)
    {w w' : World σ} {cmds : List (Stage × Command)} {calls : List Call} {fault : Option Failure}
    (h : Performs t execute r b w cmds calls fault w') {before : List Call} (hw : I before w) :
    I (before ++ calls) w' := by
  induction h generalizing before with
  | done w => rwa [List.append_nil]
  | unbuilt hc =>
    rw [List.append_nil]
    exact htold _ _ _ hw
  | @failed w w' s c rest i f hc hi =>
    have hs := hcall _ _ i (htold _ _ [t.stageEvent s] hw)
    rwa [hi] at hs
  | @next w w' w'' s c rest i e calls fault hc hi h ih =>
    have hs := hcall _ _ i (htold _ _ [t.stageEvent s] hw)
    rw [hi] at hs
    have hr := ih hs
    rwa [List.append_assoc] at hr

/-- What holds at the start and outlasts every message and every call holds at the end. -/
theorem invariant {I : List Call → World σ → Prop}
    (htold : ∀ cs w es, I cs w → I cs (w.told es))
    (hcall : ∀ cs w i, I cs w → I (cs ++ [⟨i, ((execute i).on w).1⟩]) ((execute i).on w).2)
    {w w' : World σ} {cmds : List (Stage × Command)} {calls : List Call} {fault : Option Failure}
    (h : Performs t execute r b w cmds calls fault w') (hw : I [] w) : I calls w' :=
  h.invariant_append htold hcall hw

end Performs

/-! ## What the program does -/

variable (t execute)

theorem perform_unbuilt {s : Stage} {c : Command} {f : Failure} (hc : r.build b c = .error f)
    (w : World σ) : (t.perform execute r b s c).on w = (.error f, w.told [t.stageEvent s]) := by
  unfold perform
  rw [Run.on_bind_ok (Run.on_report _ _ w), Run.on_bind_error (Run.on_of _ _ |>.trans (by rw [hc]))]
  rfl

theorem perform_built {s : Stage} {c : Command} {i : Invocation} (hc : r.build b c = .ok i)
    (w : World σ) :
    (t.perform execute r b s c).on w = (execute i).on (w.told [t.stageEvent s]) := by
  unfold perform
  rw [Run.on_bind_ok (Run.on_report _ _ w), Run.on_bind_ok (Run.on_of _ _ |>.trans (by rw [hc]))]
  rfl

theorem notes_perform_unbuilt {s : Stage} {c : Command} {f : Failure}
    (hc : r.build b c = .error f) (w : World σ) :
    Notes (t.perform execute r b s c) (t.perform execute.noting r b s c) w [] := by
  intro notes
  rw [t.perform_unbuilt _ hc, t.perform_unbuilt _ hc, List.append_nil]
  rfl

theorem notes_perform_built {s : Stage} {c : Command} {i : Invocation} (hc : r.build b c = .ok i)
    (w : World σ) :
    Notes (t.perform execute r b s c) (t.perform execute.noting r b s c) w
      [⟨i, ((execute i).on (w.told [t.stageEvent s])).1⟩] := by
  intro notes
  rw [t.perform_built _ hc, t.perform_built _ hc, World.told_noting, Executor.noting_on]

/-- The stages before the last. -/
def performAll (t : Target) (execute : Executor σ) (r : Resolver) (b : Binding)
    (cmds : List (Stage × Command)) : Run σ Unit :=
  cmds.forM fun (s, c) => do
    let _ ← t.perform execute r b s c

theorem performAll_cons (s : Stage) (c : Command) (rest : List (Stage × Command)) :
    t.performAll execute r b ((s, c) :: rest) =
      t.perform execute r b s c >>= fun _ => t.performAll execute r b rest := by
  unfold performAll
  rw [List.forM]
  simp only [bind_assoc, pure_bind]

theorem performAll_performs (cmds : List (Stage × Command)) (w : World σ) :
    ∃ calls fault w', Performs t execute r b w cmds calls fault w' ∧
      Notes (t.performAll execute r b cmds) (t.performAll execute.noting r b cmds) w calls ∧
      (t.performAll execute r b cmds).on w =
        (match fault with
          | none => .ok ()
          | some f => .error f, w') := by
  induction cmds generalizing w with
  | nil => exact ⟨[], none, w, .done w, Notes.pure _ w, rfl⟩
  | cons x rest ih =>
    obtain ⟨s, c⟩ := x
    rw [performAll_cons, performAll_cons]
    cases hc : r.build b c with
    | error f =>
      have h := t.perform_unbuilt execute (s := s) hc w
      exact ⟨[], some f, _, .unbuilt hc, (t.notes_perform_unbuilt execute hc w).bind_error h,
        Run.on_bind_error h _⟩
    | ok i =>
      have h := t.perform_built execute (s := s) hc w
      have hn := t.notes_perform_built execute (s := s) hc w
      rcases hi : (execute i).on (w.told [t.stageEvent s]) with ⟨f | e, w'⟩
      · rw [hi] at h hn
        exact ⟨_, some f, w', .failed hc hi, hn.bind_error h, Run.on_bind_error h _⟩
      · rw [hi] at h hn
        obtain ⟨calls, fault, w'', hp, hr, ho⟩ := ih w'
        exact ⟨_, fault, w'', .next hc hi hp, hn.bind_ok h hr, (Run.on_bind_ok h _).trans ho⟩

theorem commands_eq_of_run {c : Command} (hrun : t.run = some c) :
    t.commands = t.setupCommands ++ [(.run, c)] := by
  unfold commands setupCommands Stage.all
  rw [List.filterMap_append]
  simp [command, hrun]

theorem runStages_of_no_run (hrun : t.run = none) (read : OutputReader) (w : World σ) :
    (t.runStages execute r b read).on w = (.error (.noRunCommand t.name), w) := by
  unfold runStages
  rw [hrun]
  rfl

theorem notes_runStages_of_no_run (hrun : t.run = none) (read : OutputReader) (w : World σ) :
    Notes (t.runStages execute r b read) (t.runStages execute.noting r b read) w [] := by
  intro notes
  rw [t.runStages_of_no_run _ hrun, t.runStages_of_no_run _ hrun, List.append_nil]

/-- How a run of all stages ends: with the fault that stopped it, or with what the reader makes of
the lines of the last stage. -/
inductive Ends (read : OutputReader) : List Call → Option Failure → World σ →
    Except Failure (List Binary64) × World σ → Prop
  | fault (calls : List Call) (f : Failure) (w : World σ) : Ends read calls (some f) w (.error f, w)
  | read (before : List Call) (i : Invocation) (e : Execution) (w : World σ) :
      Ends read (before ++ [⟨i, .ok e⟩]) none w (read e.lines, match read e.lines with
        | .ok times => w.told [parsedEvent times]
        | .error _ => w)

theorem Ends.files_eq {read : OutputReader} {calls : List Call} {fault : Option Failure}
    {w : World σ} {out : Except Failure (List Binary64) × World σ}
    (h : Ends read calls fault w out) : out.2.files = w.files := by
  cases h with
  | fault calls f w => rfl
  | read before i e w => cases read e.lines <;> rfl

theorem Ends.eq_error {read : OutputReader} {calls : List Call} {fault : Option Failure}
    {w w' : World σ} {f : Failure} (h : Ends read calls fault w (.error f, w')) :
    fault = some f ∨ ∃ e : Execution, read e.lines = .error f := by
  generalize hout : (Except.error f, w') = out at h
  cases h with
  | fault calls g w =>
    cases hout
    exact .inl rfl
  | read before i e w => exact .inr ⟨e, (congrArg Prod.fst hout).symm⟩

theorem Ends.of_no_fault {read : OutputReader} {calls : List Call} {w : World σ}
    {out : Except Failure (List Binary64) × World σ} (h : Ends read calls none w out) :
    ∃ before i e, calls = before ++ [⟨i, .ok e⟩] ∧ out.1 = read e.lines := by
  cases h with
  | read before i e w => exact ⟨before, i, e, rfl, rfl⟩

theorem Ends.prepend {read : OutputReader} {calls : List Call} {fault : Option Failure}
    {w : World σ} {out : Except Failure (List Binary64) × World σ}
    (h : Ends read calls fault w out) (before : List Call) :
    Ends read (before ++ calls) fault w out := by
  cases h with
  | fault calls f w => exact .fault _ f w
  | read cs i e w =>
    rw [← List.append_assoc]
    exact .read _ i e w

/-- The last stage and what is read behind it. -/
def measure (t : Target) (execute : Executor σ) (r : Resolver) (b : Binding) (read : OutputReader)
    (c : Command) : Run σ (List Binary64) := do
  let e ← t.perform execute r b .run c
  let times ← Run.of (read e.lines)
  Run.report .info s!"Parsed {times.length} timing samples"
  return times

theorem notes_read (read : OutputReader) (e : Execution) (w : World σ) :
    Notes
      (do
        let times ← Run.of (read e.lines)
        Run.report .info s!"Parsed {times.length} timing samples"
        return times : Run σ (List Binary64))
      (do
        let times ← Run.of (read e.lines)
        Run.report .info s!"Parsed {times.length} timing samples"
        return times) w [] :=
  (Notes.of _ w).bind_silent fun _ w' _ =>
    (Notes.report _ _ w').bind_silent fun _ w'' _ => Notes.pure _ w''

theorem measure_performs (read : OutputReader) (c : Command) (w : World σ) :
    ∃ calls fault w', Performs t execute r b w [(.run, c)] calls fault w' ∧
      Notes (t.measure execute r b read c) (t.measure execute.noting r b read c) w calls ∧
      Ends read calls fault w' ((t.measure execute r b read c).on w) := by
  unfold measure
  cases hc : r.build b c with
  | error f =>
    have h := t.perform_unbuilt execute (s := .run) hc w
    refine ⟨[], some f, _, .unbuilt hc, (t.notes_perform_unbuilt execute hc w).bind_error h, ?_⟩
    rw [Run.on_bind_error h]
    exact .fault _ _ _
  | ok i =>
    have h := t.perform_built execute (s := .run) hc w
    have hn := t.notes_perform_built execute (s := .run) hc w
    rcases hi : (execute i).on (w.told [t.stageEvent .run]) with ⟨f | e, w'⟩
    · rw [hi] at h hn
      refine ⟨_, some f, w', .failed hc hi, hn.bind_error h, ?_⟩
      rw [Run.on_bind_error h]
      exact .fault _ _ _
    · rw [hi] at h hn
      refine ⟨_, none, w', .next hc hi (.done w'), hn.bind_ok h (notes_read read e w'), ?_⟩
      have hr : ∀ x, read e.lines = x → Ends read ([] ++ [⟨i, .ok e⟩]) none w' (x, match x with
          | .ok times => w'.told [parsedEvent times]
          | .error _ => w') := by
        rintro x rfl
        exact .read [] i e w'
      rw [Run.on_bind_ok h]
      cases hx : read e.lines with
      | error f =>
        rw [Run.on_bind_error (Run.on_of _ _)]
        exact hr _ hx
      | ok times =>
        rw [Run.on_bind_ok (Run.on_of _ _), Run.on_bind_ok (Run.on_report _ _ _)]
        exact hr _ hx

theorem runStages_eq {c : Command} (hrun : t.run = some c) (read : OutputReader) :
    t.runStages execute r b read =
      t.performAll execute r b t.setupCommands >>= fun _ => t.measure execute r b read c := by
  unfold runStages
  rw [hrun]
  rfl

theorem runStages_performs {c : Command} (hrun : t.run = some c) (read : OutputReader)
    (w : World σ) :
    ∃ calls fault w', Performs t execute r b w t.commands calls fault w' ∧
      Notes (t.runStages execute r b read) (t.runStages execute.noting r b read) w calls ∧
      Ends read calls fault w' ((t.runStages execute r b read).on w) := by
  rw [t.runStages_eq _ hrun, t.runStages_eq _ hrun, t.commands_eq_of_run hrun]
  obtain ⟨cs, fault, w', hp, hn, ho⟩ :=
    t.performAll_performs execute (r := r) (b := b) t.setupCommands w
  cases fault with
  | some f =>
    refine ⟨cs, some f, w', hp.append_of_fault _, hn.bind_error ho, ?_⟩
    rw [Run.on_bind_error ho]
    exact .fault _ _ _
  | none =>
    obtain ⟨ds, fault, w'', hp', hn', he⟩ :=
      t.measure_performs execute (r := r) (b := b) read c w'
    refine ⟨cs ++ ds, fault, w'', hp.append hp', hn.bind_ok ho hn', ?_⟩
    rw [Run.on_bind_ok ho]
    exact he.prepend cs

/-! ## What the calls decide -/

variable {t execute}

section Verdict

variable {read : OutputReader} {calls : List Call} {fault : Option Failure} {w w' : World σ}
  {cmds : List (Stage × Command)} {out : Except Failure (List Binary64) × World σ}

/-- The reader is given the lines of the last call and answers `x`. -/
def LastRead (read : OutputReader) (calls : List Call) (x : Except Failure (List Binary64)) : Prop :=
  ∃ c e, calls.getLast? = some c ∧ c.answer = .ok e ∧ read e.lines = x

theorem not_unbuilt (hm : calls.map Call.built = r.buildAll b cmds) {f : Failure}
    (hf : (r.buildAll b cmds)[calls.length]? = some (.error f)) : False := by
  have hn : (calls.map Call.built)[calls.length]? = none :=
    List.getElem?_eq_none (Nat.le_of_eq (List.length_map _))
  rw [← hm, hn] at hf
  cases hf

theorem not_failed_of_answered (ha : ∀ c ∈ calls, c.Answered) {c : Call} {f : Failure}
    (hc : calls.getLast? = some c) (hf : c.answer = .error f) : False := by
  obtain ⟨e, he⟩ := ha c (List.mem_of_getLast? hc)
  rw [hf] at he
  cases he

theorem LastRead.not_failed {x : Except Failure (List Binary64)} (h : LastRead read calls x)
    {c : Call} {f : Failure} (hc : calls.getLast? = some c) (hf : c.answer = .error f) : False := by
  obtain ⟨d, e, hd, he, -⟩ := h
  rw [hc, Option.some.injEq] at hd
  rw [← hd, hf] at he
  cases he

theorem Ends.ok_iff (he : Ends read calls fault w' out)
    (hp : Performs t execute r b w cmds calls fault w') (times : List Binary64) :
    out.1 = .ok times ↔ calls.map Call.built = r.buildAll b cmds ∧ (∀ c ∈ calls, c.Answered) ∧
      LastRead read calls (.ok times) := by
  cases he with
  | fault calls f w =>
    constructor
    · intro h
      cases h
    · rintro ⟨hm, ha, -⟩
      rcases hp.of_fault with ⟨c, hc, hf⟩ | ⟨-, hf⟩
      · exact (not_failed_of_answered ha hc hf).elim
      · exact (not_unbuilt hm hf).elim
  | read before i e w =>
    obtain ⟨hm, ha⟩ := hp.of_no_fault
    constructor
    · intro h
      exact ⟨hm, ha, _, e, List.getLast?_concat, rfl, h⟩
    · rintro ⟨-, -, c, e', hc, he', h⟩
      rw [List.getLast?_concat, Option.some.injEq] at hc
      rw [← hc, Except.ok.injEq] at he'
      rwa [he']

theorem Ends.error_iff (he : Ends read calls fault w' out)
    (hp : Performs t execute r b w cmds calls fault w') (f : Failure) :
    out.1 = .error f ↔ (∃ c, calls.getLast? = some c ∧ c.answer = .error f) ∨
      (∀ c ∈ calls, c.Answered) ∧ (r.buildAll b cmds)[calls.length]? = some (.error f) ∨
      calls.map Call.built = r.buildAll b cmds ∧ LastRead read calls (.error f) := by
  cases he with
  | fault calls g w =>
    constructor
    · intro h
      cases h
      exact hp.of_fault.imp_right .inl
    · intro h
      have hfg : f = g := by
        rcases hp.of_fault with ⟨c, hc, hg⟩ | ⟨ha, hg⟩
        · rcases h with ⟨d, hd, hf⟩ | ⟨ha, -⟩ | ⟨-, hl⟩
          · rw [hc, Option.some.injEq] at hd
            rw [hd, hf, Except.error.injEq] at hg
            exact hg
          · exact (not_failed_of_answered ha hc hg).elim
          · exact (hl.not_failed hc hg).elim
        · rcases h with ⟨d, hd, hf⟩ | ⟨-, hf⟩ | ⟨hm, -⟩
          · exact (not_failed_of_answered ha hd hf).elim
          · rw [hg, Option.some.injEq, Except.error.injEq] at hf
            exact hf.symm
          · exact (not_unbuilt hm hg).elim
      rw [hfg]
  | read before i e w =>
    obtain ⟨hm, ha⟩ := hp.of_no_fault
    constructor
    · intro h
      exact .inr (.inr ⟨hm, _, e, List.getLast?_concat, rfl, h⟩)
    · rintro (⟨c, hc, hf⟩ | ⟨-, hf⟩ | ⟨-, c, e', hc, he', h⟩)
      · exact (not_failed_of_answered ha hc hf).elim
      · exact (not_unbuilt hm hf).elim
      · rw [List.getLast?_concat, Option.some.injEq] at hc
        rw [← hc, Except.ok.injEq] at he'
        rwa [he']

end Verdict

/-! ## The order of the stages -/

theorem mem_commands (t : Target) (s : Stage) (c : Command) :
    (s, c) ∈ t.commands ↔ t.command s = some c := by
  unfold commands
  rw [List.mem_filterMap]
  constructor
  · rintro ⟨s', -, h⟩
    obtain ⟨c', hc, he⟩ := Option.map_eq_some_iff.1 h
    cases he
    exact hc
  · intro h
    exact ⟨s, s.mem_all, by rw [h]; rfl⟩

theorem stages_sublist (t : Target) : (t.commands.map Prod.fst).Sublist Stage.all := by
  unfold commands
  induction Stage.all with
  | nil => exact .slnil
  | cons s rest ih =>
    rw [List.filterMap_cons]
    cases t.command s with
    | none => exact ih.cons s
    | some c => exact ih.cons_cons s

/-- Noting the calls of a run changes nothing else in it. The stages are those that the target
defines, each at most once and in the order in which they run; the calls are what comes out of
filling in the first of their command lines, and only the last call can have failed. Without a last
stage nothing is called. Otherwise the run succeeds exactly if all command lines are filled in and
executed and the reader accepts the lines of the last, and it fails exactly with the failure of its
last call, that of filling in the command line behind its calls, or that of the reader. -/
theorem runStages_in_order (t : Target) (execute : Executor σ) (r : Resolver) (b : Binding)
    (read : OutputReader) (w : World σ) :
    let calls := Run.calls (t.runStages · r b read) execute w
    let built := r.buildAll b t.commands
    let out := (t.runStages execute r b read).on w
    (t.runStages execute.noting r b read).on (w.noting []) = (out.1, out.2.noting calls) ∧
    (t.commands.map Prod.fst).Sublist [.prepare, .copy, .gen, .compile, .run] ∧
    (∀ s c, (s, c) ∈ t.commands ↔ t.command s = some c) ∧
    calls.map Call.built <+: built ∧
    (∀ c ∈ calls.dropLast, c.Answered) ∧
    (t.run = none → calls = [] ∧ out = (.error (.noRunCommand t.name), w)) ∧
    (t.run ≠ none → ∀ times, out.1 = .ok times ↔
      calls.map Call.built = built ∧ (∀ c ∈ calls, c.Answered) ∧
        LastRead read calls (.ok times)) ∧
    (t.run ≠ none → ∀ f, out.1 = .error f ↔
      (∃ c, calls.getLast? = some c ∧ c.answer = .error f) ∨
      (∀ c ∈ calls, c.Answered) ∧ built[calls.length]? = some (.error f) ∨
      calls.map Call.built = built ∧ LastRead read calls (.error f)) := by
  intro calls built out
  have hsub : (t.commands.map Prod.fst).Sublist [.prepare, .copy, .gen, .compile, .run] :=
    stages_sublist t
  cases hrun : t.run with
  | none =>
    have hn := t.notes_runStages_of_no_run execute (r := r) (b := b) hrun read w
    have hc : calls = [] := hn.calls_eq (t.runStages · r b read)
    have ho : out = (.error (.noRunCommand t.name), w) :=
      t.runStages_of_no_run execute hrun read w
    refine ⟨by rw [hc]; exact hn.on_eq, hsub, mem_commands t, ?_, ?_, fun _ => ⟨hc, ho⟩, ?_, ?_⟩
    · rw [hc]
      exact List.nil_prefix
    · rw [hc]
      simp
    · exact fun h => (h rfl).elim
    · exact fun h => (h rfl).elim
  | some c =>
    obtain ⟨cs, fault, w', hp, hn, he⟩ :=
      t.runStages_performs execute (r := r) (b := b) hrun read w
    have hc : calls = cs := hn.calls_eq (t.runStages · r b read)
    rw [hc]
    exact ⟨hn.on_eq, hsub, mem_commands t, hp.calls_isPrefix, hp.answered_of_mem_dropLast,
      (by intro h; cases h), fun _ => he.ok_iff hp, fun _ => he.error_iff hp⟩

/-- A target whose first stage fails although the command line of its last could not be filled in
either: the answer is the failure of the first. -/
theorem runStages_in_order_of_failing_setup :
    let t : Target := ⟨"t", .empty, none, some [.literal "make"], none, none, none,
      some [.literal "bench", .group .run]⟩
    let b : Binding := ⟨none, none, some (.ofList [("depth", ["<value>"])]), none⟩
    let r : Resolver := ⟨.empty, ⟨1, 1⟩⟩
    let execute : Executor Unit := fun i => Run.fail (.commandFailed i.program 2)
    let w : World Unit := ⟨⟨.empty, []⟩, 0, [], ()⟩
    t.run ≠ none ∧ Run.calls (t.runStages · r b fun _ => .ok []) execute w =
        [⟨⟨"make", []⟩, .error (.commandFailed "make" 2)⟩] ∧
      ((t.runStages execute r b fun _ => .ok []).on w).1 = .error (.commandFailed "make" 2) := by
  intro t b r execute w
  have hrun : t.run ≠ none := by decide
  have hcalls : Run.calls (t.runStages · r b fun _ => .ok []) execute w =
      [⟨⟨"make", []⟩, .error (.commandFailed "make" 2)⟩] := rfl
  obtain ⟨-, -, -, -, -, -, -, hf⟩ := runStages_in_order t execute r b (fun _ => .ok []) w
  refine ⟨hrun, hcalls, (hf hrun _).2 (.inl ?_)⟩
  rw [hcalls]
  exact ⟨_, rfl, rfl⟩

end Target

end BenchSweep
