import BenchSweep.CommandLine.Request
import BenchSweep.Proofs.Steps

/-! Where the parts of a request come from: only the command to run makes a request to run, and its
overrides are those that could be read. -/
set_option autoImplicit false

namespace BenchSweep.CommandLine

theorem override?_eq_some_iff {raw : String} {o : Override} :
    override? raw = some o ↔ Override.ofText raw = .ok o := by
  unfold override?
  cases Override.ofText raw <;> simp

theorem override_of_runRequest {g : Given} {r : RunRequest} (h : runRequest g = .ok (.run r)) :
    ∀ o ∈ r.overrides, ∃ raw, Override.ofText raw = .ok o := by
  obtain ⟨benchmark, -, h⟩ := exists_of_bind_eq_ok h
  obtain ⟨target, -, h⟩ := exists_of_bind_eq_ok h
  cases h
  intro o ho
  obtain ⟨raw, -, hraw⟩ := List.mem_filterMap.1 ho
  exact ⟨raw, override?_eq_some_iff.1 hraw⟩

theorem runRequest_of_mem {word : String} {form : Form} {request : Given → Except Refusal Request}
    (h : (word, form, request) ∈ commands) {g : Given} {r : RunRequest}
    (hr : request g = .ok (.run r)) : runRequest g = .ok (.run r) := by
  simp only [commands, List.mem_cons, Prod.mk.injEq, List.not_mem_nil, or_false] at h
  rcases h with ⟨-, -, rfl⟩ | ⟨-, -, rfl⟩ | ⟨-, -, rfl⟩ | ⟨-, -, rfl⟩ | ⟨-, -, rfl⟩
  case inl => exact hr
  case inr.inl =>
    obtain ⟨benchmark, -, hr⟩ := exists_of_bind_eq_ok hr
    obtain ⟨target, -, hr⟩ := exists_of_bind_eq_ok hr
    cases hr
  case inr.inr.inr.inl =>
    unfold collectRequest at hr
    split at hr <;> cases hr
  all_goals cases hr

/-- The overrides of a request to run could be read. -/
theorem overrides_of_ofWords {words : List String} {r : RunRequest}
    (h : Request.ofWords words = .ok (.run r)) :
    ∀ o ∈ r.overrides, ∃ raw, Override.ofText raw = .ok o := by
  cases words with
  | nil => cases h
  | cons word rest =>
    rw [Request.ofWords] at h
    split at h
    case h_5 =>
      split at h
      · cases h
      · split at h
        · rename_i form request hlookup
          obtain ⟨before, after, hcommands, -⟩ := List.lookup_eq_some_iff.1 hlookup
          have hmem : (word, form, request) ∈ commands := hcommands ▸ List.mem_append_cons_self
          obtain ⟨g, -, hg⟩ := exists_of_bind_eq_ok (x := readWords form Given.none rest) h
          exact override_of_runRequest (runRequest_of_mem hmem hg)
        · cases h
    all_goals cases h

end BenchSweep.CommandLine
