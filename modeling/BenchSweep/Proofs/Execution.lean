import BenchSweep.Execution
import BenchSweep.Proofs.Run

/-! What executing a command does. A process that starts leaves its lines with the sink, and whether
its code ends the run is up to the policy alone. -/
set_option autoImplicit false

namespace BenchSweep

variable {σ : Type}

/-! ## The policy -/

namespace Policy

/-- Whether a run goes on behind this code. -/
def Accepts (policy : Policy) (code : Int) : Prop := code = 0 ∨ policy = .goOn

instance (policy : Policy) (code : Int) : Decidable (policy.Accepts code) :=
  inferInstanceAs (Decidable (code = 0 ∨ policy = .goOn))

/-- What is told about a code. -/
def warnings (policy : Policy) (code : Int) : List Event :=
  if code ≠ 0 ∧ policy = .goOn then
    [⟨.error, s!"Command returned with non-zero exit code ({code})", none⟩]
  else []

theorem enforce_on (policy : Policy) (i : Invocation) (e : Execution) (w : World σ) :
    (policy.enforce i e).on w =
      (if policy.Accepts e.code then .ok e else .error (.commandFailed i.program e.code),
        w.told (policy.warnings e.code)) := by
  unfold enforce Accepts warnings
  by_cases hs : e.code = 0
  · simp [Execution.succeeded, hs, World.told_nil]
  · cases policy with
    | goOn =>
      simp only [Execution.succeeded, hs, decide_false, Bool.false_eq_true, if_false, or_true, if_true,
        ne_eq, not_false_eq_true, and_self]
      rfl
    | abort => simp [Execution.succeeded, hs, World.told_nil]

end Policy

/-! ## Processes -/

/-- What a process leaves to look at. -/
def Process.execution (process : Process) : Execution :=
  ⟨Output.lines process.output, process.ending.code⟩

/-- The world after the lines of a process went to the sink. -/
def Sink.take (sink : Sink σ) (source : String) (lines : List String) (w : World σ) : World σ :=
  lines.foldl (fun w line => sink source line w) w

/-- The message before a command. -/
def Invocation.event (i : Invocation) : Event := ⟨.info, s!"run command: {i.text}", none⟩

theorem processExecutor_on (policy : Policy) (launch : Launcher σ) (sink : Sink σ) (i : Invocation)
    (w : World σ) :
    (processExecutor policy launch sink i).on w =
      match (launch i).run (w.told [i.event]) with
      | (.error fault, w') => (.error (.unstartable i.program fault), w')
      | (.ok process, w') =>
        (policy.enforce i process.execution).on
          (sink.take i.tag process.execution.lines w') := by
  rcases hl : (launch i).run (w.told [i.event]) with ⟨x, w'⟩
  have hx : (monadLift (launch i) : Run σ (Except HostFault Process)).on (w.told [i.event]) =
      (.ok x, w') := by
    change (Except.ok ((launch i).run (w.told [i.event])).1, ((launch i).run (w.told [i.event])).2) = _
    rw [hl]
  unfold processExecutor
  rw [Run.on_bind_ok (Run.on_report _ _ w)]
  refine (Run.on_bind_ok hx _).trans ?_
  cases x with
  | error fault => rfl
  | ok process => rfl

/-- What the policy makes of a process. -/
def Policy.answer (policy : Policy) (i : Invocation) (process : Process) : Except Failure Execution :=
  if policy.Accepts process.ending.code then .ok process.execution
  else .error (.commandFailed i.program process.ending.code)

/-- A process that starts passes all its lines on before the policy decides. -/
theorem processExecutor_on_ok {launch : Launcher σ} {i : Invocation} {w after : World σ}
    {process : Process} (h : (launch i).run (w.told [i.event]) = (.ok process, after))
    (policy : Policy) (sink : Sink σ) :
    (processExecutor policy launch sink i).on w =
      (policy.answer i process, (sink.take i.tag process.execution.lines after).told
        (policy.warnings process.ending.code)) := by
  rw [processExecutor_on, h]
  exact policy.enforce_on i process.execution _

/-! ## Failures -/

/-- Whether the host, the start of a process or its code can be the cause. -/
def Failure.OfExecution : Failure → Prop
  | .host _ => True
  | .unstartable _ _ => True
  | .commandFailed _ _ => True
  | _ => False

/-- Whether an executor fails in no other way. -/
def Executor.FailsByExecution (execute : Executor σ) : Prop :=
  ∀ i w f, ((execute i).on w).1 = .error f → f.OfExecution

theorem processExecutor_failsByExecution (policy : Policy) (launch : Launcher σ) (sink : Sink σ) :
    (processExecutor policy launch sink).FailsByExecution := by
  intro i w f h
  rw [processExecutor_on] at h
  split at h
  · cases h
    trivial
  · rename_i process w' hl
    rw [Policy.enforce_on] at h
    dsimp only at h
    split at h
    · cases h
    · cases h
      trivial

end BenchSweep
