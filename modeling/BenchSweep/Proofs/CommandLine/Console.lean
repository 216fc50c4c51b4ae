import BenchSweep.CommandLine.Perform
import BenchSweep.Proofs.Catalog

/-! What the steps of a request do to its answer and its world, and how the answer comes back from a
call of the program. -/
set_option autoImplicit false

namespace BenchSweep.CommandLine

variable {σ α β : Type}

namespace Console

/-- The answer of a request that starts in `w`, and the world after it. -/
def on (r : Console σ α) (w : World (Screen σ)) : Except Trouble α × World (Screen σ) :=
  (ExceptT.run r).run w

/-! ## Sequence -/

@[simp] theorem on_pure (a : α) (w : World (Screen σ)) :
    (pure a : Console σ α).on w = (.ok a, w) := rfl

theorem on_bind (r : Console σ α) (next : α → Console σ β) (w : World (Screen σ)) :
    (r >>= next).on w =
      match r.on w with
      | (.ok a, w') => (next a).on w'
      | (.error t, w') => (.error t, w') := by
  change (ExceptT.run (r >>= next)).run w = _
  simp only [ExceptT.run_bind, StateT.run_bind, on]
  rcases (ExceptT.run r).run w with ⟨a, w'⟩
  cases a <;> rfl

theorem on_bind_ok {r : Console σ α} {w w' : World (Screen σ)} {a : α} (h : r.on w = (.ok a, w'))
    (next : α → Console σ β) : (r >>= next).on w = (next a).on w' := by
  rw [on_bind, h]

theorem on_bind_error {r : Console σ α} {w w' : World (Screen σ)} {t : Trouble}
    (h : r.on w = (.error t, w')) (next : α → Console σ β) :
    (r >>= next).on w = (.error t, w') := by
  rw [on_bind, h]

/-! ## Steps -/

@[simp] theorem on_get (w : World (Screen σ)) :
    (get : Console σ (World (Screen σ))).on w = (.ok w, w) := rfl

@[simp] theorem on_say (line : String) (w : World (Screen σ)) :
    (say line).on w = (.ok (), showLine line w) := rfl

@[simp] theorem on_allowed (x : Except HostFault α) (w : World (Screen σ)) :
    (allowed x : Console σ α).on w = (x.mapError .host, w) := by
  cases x <;> rfl

theorem on_running (r : Run (Screen σ) α) (w : World (Screen σ)) :
    (running r).on w = ((r.on w).1.mapError .failure, (r.on w).2) := by
  unfold running
  rw [on_bind_ok (on_get w)]
  rcases r.on w with ⟨_ | a, w'⟩ <;> rfl

end Console

/-! ## Calls -/

/-- The world in which a call meets its request. -/
def atStart (fs : Files) (clock : Nat) : World (Screen Unit) := ⟨fs, clock, [], ⟨[], ()⟩⟩

section

variable {processors : UInt64} {words : List String} {request : Request} {fs : Files} {clock : Nat}
  {w' : World (Screen Unit)}

theorem call_of_ok (hwords : Request.ofWords words = .ok request) {success : Bool}
    (h : Console.on (request.perform processors planExecutor) (atStart fs clock) =
      (.ok success, w')) :
    call processors words fs clock =
      ⟨if success then 0 else 1, screen w', none, none, w'.files, w'.clock⟩ := by
  unfold Console.on atStart at h
  unfold call
  rw [hwords]
  dsimp only
  rw [show (request.perform processors planExecutor).run ⟨fs, clock, [], ⟨[], ()⟩⟩ = _ from h]

theorem call_of_error (hwords : Request.ofWords words = .ok request) {t : Trouble}
    (h : Console.on (request.perform processors planExecutor) (atStart fs clock) =
      (.error t, w')) :
    call processors words fs clock =
      ⟨1, screen w', some t.message, none, w'.files, w'.clock⟩ := by
  unfold Console.on atStart at h
  unfold call
  rw [hwords]
  dsimp only
  rw [show (request.perform processors planExecutor).run ⟨fs, clock, [], ⟨[], ()⟩⟩ = _ from h]

end

end BenchSweep.CommandLine
