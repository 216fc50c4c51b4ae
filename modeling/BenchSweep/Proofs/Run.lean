import BenchSweep.World

/-! What the steps of a run do to its answer and its world: a failing step ends the run, and each
basic step changes one part of the world. -/
set_option autoImplicit false

namespace BenchSweep

variable {σ α β : Type}

/-! ## Messages -/

/-- The world after these messages. -/
def World.told (w : World σ) (events : List Event) : World σ := { w with log := w.log ++ events }

namespace World

@[simp] theorem told_files (w : World σ) (es : List Event) : (w.told es).files = w.files := rfl

theorem told_nil (w : World σ) : w.told [] = w := by
  cases w
  simp [told]

theorem told_told (w : World σ) (es fs : List Event) : (w.told es).told fs = w.told (es ++ fs) := by
  simp [told, List.append_assoc]

end World

namespace Run

/-! ## Sequence -/

@[simp] theorem on_pure (a : α) (w : World σ) : (pure a : Run σ α).on w = (.ok a, w) := rfl

@[simp] theorem on_fail (f : Failure) (w : World σ) : (fail f : Run σ α).on w = (.error f, w) := rfl

@[simp] theorem on_of (x : Except Failure α) (w : World σ) : (of x).on w = (x, w) := by
  cases x <;> rfl

theorem on_bind (r : Run σ α) (next : α → Run σ β) (w : World σ) :
    (r >>= next).on w =
      match r.on w with
      | (.ok a, w') => (next a).on w'
      | (.error f, w') => (.error f, w') := by
  change (ExceptT.run (r >>= next)).run w = _
  simp only [ExceptT.run_bind, StateT.run_bind, on]
  rcases (ExceptT.run r).run w with ⟨a, w'⟩
  cases a <;> rfl

theorem on_bind_ok {r : Run σ α} {w w' : World σ} {a : α} (h : r.on w = (.ok a, w'))
    (next : α → Run σ β) : (r >>= next).on w = (next a).on w' := by
  rw [on_bind, h]

theorem on_bind_error {r : Run σ α} {w w' : World σ} {f : Failure} (h : r.on w = (.error f, w'))
    (next : α → Run σ β) : (r >>= next).on w = (.error f, w') := by
  rw [on_bind, h]

/-! ## Basic steps -/

@[simp] theorem on_modify (g : World σ → World σ) (w : World σ) :
    (modify g : Run σ PUnit).on w = (.ok ⟨⟩, g w) := rfl

@[simp] theorem on_now (w : World σ) : (now : Run σ Nat).on w = (.ok w.clock, w) := rfl

@[simp] theorem on_files (w : World σ) : (files : Run σ Files).on w = (.ok w.files, w) := rfl

@[simp] theorem on_report (level : Level) (message : String) (w : World σ) :
    (report level message).on w = (.ok (), w.told [⟨level, message, none⟩]) := rfl

theorem on_makeDirectories (p : Path) (w : World σ) :
    (makeDirectories p).on w =
      (match (w.files.makeDirectories p).2 with
        | none => .ok ()
        | some fault => .error (.host fault),
        { w with files := (w.files.makeDirectories p).1 }) := by
  unfold makeDirectories
  rw [on_bind_ok (on_files w)]
  dsimp only
  rw [on_bind_ok (on_modify _ w)]
  cases (w.files.makeDirectories p).2 <;> rfl

theorem on_write (p : Path) (content : List UInt8) (w : World σ) :
    (write p content).on w =
      match w.files.write p content with
      | .ok fs => (.ok (), { w with files := fs })
      | .error fault => (.error (.host fault), w) := by
  unfold write
  rw [on_bind_ok (on_files w)]
  cases w.files.write p content <;> rfl

/-- Messages told one after the other. -/
theorem on_forM_report (level : α → Level) (message : α → String) (l : List α) (w : World σ) :
    (l.forM fun a => (report (level a) (message a) : Run σ Unit)).on w =
      (.ok (), w.told (l.map fun a => ⟨level a, message a, none⟩)) := by
  induction l generalizing w with
  | nil => exact congrArg (Prod.mk _) (World.told_nil w).symm
  | cons a rest ih =>
    rw [List.forM, on_bind_ok (on_report _ _ w), ih, World.told_told]
    rfl

end Run

end BenchSweep
