import BenchSweep.Execution
import BenchSweep.Proofs.Run

/-! The calls that a run makes to its executor. Any executor can note its calls beside the state that
it keeps; a run with the noting executor does what it does with the plain one, so the notes at its
end are the calls of the plain run. -/
set_option autoImplicit false

namespace BenchSweep

variable {σ α β : Type}

/-- A command line that was passed to an executor, and the answer. -/
structure Call where
  invocation : Invocation
  answer : Except Failure Execution

/-! ## Notes -/

namespace World

/-- The world with notes beside the state. -/
def noting (w : World σ) (notes : List Call) : World (List Call × σ) :=
  ⟨w.files, w.clock, w.log, (notes, w.state)⟩

/-- The world without the notes. -/
def plain (w : World (List Call × σ)) : World σ := ⟨w.files, w.clock, w.log, w.state.2⟩

theorem told_noting (w : World σ) (notes : List Call) (es : List Event) :
    (w.noting notes).told es = (w.told es).noting notes := rfl

end World

/-- Executes in the world without the notes, then adds the call to them. -/
def Executor.noting (execute : Executor σ) : Executor (List Call × σ) := fun i =>
  ExceptT.mk fun w =>
    let (answer, after) := (execute i).on w.plain
    (answer, after.noting (w.state.1 ++ [⟨i, answer⟩]))

/-- The calls of a program that runs with this executor from `w` on, in order. -/
def Run.calls (program : Executor (List Call × σ) → Run (List Call × σ) α) (execute : Executor σ)
    (w : World σ) : List Call :=
  ((program execute.noting).on (w.noting [])).2.state.1

theorem Executor.noting_on (execute : Executor σ) (i : Invocation) (w : World σ)
    (notes : List Call) :
    (execute.noting i).on (w.noting notes) =
      (((execute i).on w).1, ((execute i).on w).2.noting (notes ++ [⟨i, ((execute i).on w).1⟩])) :=
  rfl

/-! ## Programs with and without notes -/

/-- From `w` on, the program `noted` does what `plain` does and adds `calls` to the notes. -/
def Notes (plain : Run σ α) (noted : Run (List Call × σ) α) (w : World σ) (calls : List Call) :
    Prop :=
  ∀ notes, noted.on (w.noting notes) = ((plain.on w).1, (plain.on w).2.noting (notes ++ calls))

namespace Notes

theorem on_eq {plain : Run σ α} {noted : Run (List Call × σ) α} {w : World σ} {calls : List Call}
    (h : Notes plain noted w calls) :
    noted.on (w.noting []) = ((plain.on w).1, (plain.on w).2.noting calls) := by
  rw [h [], List.nil_append]

theorem calls_eq (program : {τ : Type} → Executor τ → Run τ α) {execute : Executor σ} {w : World σ}
    {calls : List Call} (h : Notes (program execute) (program execute.noting) w calls) :
    Run.calls program execute w = calls := by
  rw [Run.calls, h.on_eq]
  rfl

theorem bind_ok {r : Run σ α} {r' : Run (List Call × σ) α} {next : α → Run σ β}
    {next' : α → Run (List Call × σ) β} {w w' : World σ} {a : α} {c d : List Call}
    (hr : Notes r r' w c) (ha : r.on w = (.ok a, w')) (hn : Notes (next a) (next' a) w' d) :
    Notes (r >>= next) (r' >>= next') w (c ++ d) := by
  intro notes
  have h := hr notes
  rw [ha] at h
  rw [Run.on_bind_ok ha, Run.on_bind_ok h, hn, List.append_assoc]

theorem bind_error {r : Run σ α} {r' : Run (List Call × σ) α} {next : α → Run σ β}
    {next' : α → Run (List Call × σ) β} {w w' : World σ} {f : Failure} {c : List Call}
    (hr : Notes r r' w c) (hf : r.on w = (.error f, w')) :
    Notes (r >>= next) (r' >>= next') w c := by
  intro notes
  have h := hr notes
  rw [hf] at h
  rw [Run.on_bind_error hf, Run.on_bind_error h]

/-- A step that calls nothing adds nothing to what its continuation calls. -/
theorem bind_silent {r : Run σ α} {r' : Run (List Call × σ) α} {next : α → Run σ β}
    {next' : α → Run (List Call × σ) β} {w : World σ} (hr : Notes r r' w [])
    (hn : ∀ a w', r.on w = (.ok a, w') → Notes (next a) (next' a) w' []) :
    Notes (r >>= next) (r' >>= next') w [] := by
  rcases h : r.on w with ⟨a | a, w'⟩
  · exact hr.bind_error h
  · exact hr.bind_ok h (hn a w' h)

theorem execute (execute : Executor σ) (i : Invocation) (w : World σ) :
    Notes (execute i) (execute.noting i) w [⟨i, ((execute i).on w).1⟩] :=
  fun notes => execute.noting_on i w notes

/-! ### Steps that call nothing -/

theorem pure (a : α) (w : World σ) : Notes (Pure.pure a : Run σ α) (Pure.pure a) w [] := by
  intro notes
  simp

theorem fail (f : Failure) (w : World σ) : Notes (Run.fail f : Run σ α) (Run.fail f) w [] := by
  intro notes
  simp

theorem of (x : Except Failure α) (w : World σ) : Notes (Run.of x : Run σ α) (Run.of x) w [] := by
  intro notes
  simp

theorem report (level : Level) (message : String) (w : World σ) :
    Notes (Run.report level message : Run σ Unit) (Run.report level message) w [] := by
  intro notes
  rw [Run.on_report, Run.on_report, List.append_nil]
  rfl

theorem now (w : World σ) : Notes (Run.now : Run σ Nat) Run.now w [] := by
  intro notes
  rw [Run.on_now, Run.on_now, List.append_nil]
  rfl

theorem makeDirectories (p : Path) (w : World σ) :
    Notes (Run.makeDirectories p : Run σ Unit) (Run.makeDirectories p) w [] := by
  intro notes
  rw [Run.on_makeDirectories, Run.on_makeDirectories, List.append_nil]
  rfl

theorem write (p : Path) (content : List UInt8) (w : World σ) :
    Notes (Run.write p content : Run σ Unit) (Run.write p content) w [] := by
  intro notes
  have hfiles : (w.noting notes).files = w.files := rfl
  rw [Run.on_write, Run.on_write, List.append_nil, hfiles]
  cases w.files.write p content <;> rfl

end Notes

end BenchSweep
