import BenchSweep.Proofs.Catalog
import BenchSweep.Proofs.Filling
import BenchSweep.Proofs.Lifecycle

/-! The executables of a target that was loaded. Each of its stages starts with a literal that is not
empty, whichever way it was found, and filling in replaces no literal; so values decide what a program
is called with but never which program it is. -/
set_option autoImplicit false

namespace BenchSweep

variable {σ τ τ' : Type}

/-! ## Loaded targets -/

namespace Target

/-- A target out of the catalog: found under a name or listed. -/
def Loaded (t : Target) (directory : Path) (w : World σ) : Prop :=
  (∃ name, ((targets.load directory name).on w).1 = .ok t) ∨
    ∃ all, ((targets.list directory).on w).1 = .ok all ∧ t ∈ all

theorem faultyStage?_of_read {e : Files.Entry} {t : Target} (h : targets.read e = .ok t) :
    t.faultyStage? = none := by
  obtain ⟨text, -, hparse⟩ := DefinitionKind.read_eq_ok_iff.1 h
  exact (parse_targets_eq_ok_iff.1 hparse).2

theorem Loaded.faultyStage? {t : Target} {directory : Path} {w : World σ}
    (h : t.Loaded directory w) : t.faultyStage? = none := by
  rcases h with ⟨name, h⟩ | ⟨all, hall, ht⟩
  · rw [DefinitionKind.on_load] at h
    obtain ⟨e, he⟩ := DefinitionKind.exists_read_of_lookUp h
    exact faultyStage?_of_read he
  · rw [DefinitionKind.on_list] at hall
    cases hall
    obtain ⟨e, -, he⟩ := DefinitionKind.exists_read_of_mem_defined
      ((List.mergeSort_perm _ _).mem_iff.1 ht)
    exact faultyStage?_of_read he

end Target

theorem Command.program?_eq_some_iff {c : Command} {program : String} :
    c.program? = some program ↔ program ≠ "" ∧ ∃ rest, c = .literal program :: rest := by
  unfold program?
  cases c with
  | nil => simp
  | cons t rest =>
    cases t with
    | literal text =>
      by_cases ht : text = ""
      · simp only [ht, if_true]
        constructor
        · intro h
          cases h
        · rintro ⟨hne, rest', h⟩
          cases h
          exact (hne rfl).elim
      · simp only [ht, if_false, Option.some.injEq, List.cons.injEq, Token.literal.injEq]
        constructor
        · rintro rfl
          exact ⟨ht, rest, rfl, rfl⟩
        · rintro ⟨-, rest', h, -⟩
          exact h
    | group slot => simp
    | setting s => simp

theorem Target.exists_program_of_mem_commands {t : Target} (h : t.faultyStage? = none) {s : Stage}
    {c : Command} (hc : (s, c) ∈ t.commands) :
    ∃ program rest, c = .literal program :: rest ∧ program ≠ "" := by
  unfold faultyStage? at h
  have hfind := List.find?_eq_none.1 (Option.map_eq_none_iff.1 h) _ hc
  cases hp : c.program? with
  | none => simp [hp] at hfind
  | some program =>
    obtain ⟨hne, rest, hrest⟩ := Command.program?_eq_some_iff.1 hp
    exact ⟨program, rest, hrest, hne⟩

/-! ## Calls -/

theorem Resolver.build_literal {r : Resolver} {b : Binding} {program : String} {rest : Command}
    {i : Invocation} (h : r.build b (.literal program :: rest) = .ok i) :
    i = ⟨program, rest.flatMap (b.fill r.text r.settings)⟩ := by
  rw [build_eq_ok h, List.flatMap_cons]
  rfl

namespace Target

/-- Every call of a run comes from the command line of the stage at its position. -/
theorem exists_command_of_call {t : Target} {execute : Executor τ} {r : Resolver} {b : Binding}
    {read : OutputReader} {v : World τ} {k : Nat} {call : Call}
    (h : (Run.calls (t.runStages · r b read) execute v)[k]? = some call) :
    ∃ s c, t.commands[k]? = some (s, c) ∧ r.build b c = .ok call.invocation := by
  cases hrun : t.run with
  | none =>
    have hn := t.notes_runStages_of_no_run execute (r := r) (b := b) hrun read v
    rw [hn.calls_eq (t.runStages · r b read)] at h
    cases h
  | some last =>
    obtain ⟨calls, fault, w', hp, hn, -⟩ :=
      t.runStages_performs execute (r := r) (b := b) hrun read v
    rw [hn.calls_eq (t.runStages · r b read)] at h
    obtain ⟨more, hmore⟩ := hp.calls_isPrefix
    have hk : (r.buildAll b t.commands)[k]? = some (Call.built call) := by
      rw [← hmore, List.getElem?_append_left, List.getElem?_map, h]
      · rfl
      · rw [List.length_map]
        exact (List.getElem?_eq_some_iff.1 h).1
    unfold Resolver.buildAll at hk
    rw [List.getElem?_map] at hk
    obtain ⟨⟨s, c⟩, hc, hbuild⟩ := Option.map_eq_some_iff.1 hk
    exact ⟨s, c, hc, hbuild⟩

/-- Let a target be loaded. No command line of it is ever filled in with no word at all. Whatever the
parameters, the settings and the executor are, the k-th call of a run has as its program the literal
with which the k-th of its command lines starts, which is not empty, and as its arguments the words of
the other tokens in order; so in two runs the k-th calls have the same program. -/
theorem values_never_choose_program {t : Target} {directory : Path} {w : World σ}
    (h : t.Loaded directory w) (b : Binding) (r r' : Resolver) (read read' : OutputReader)
    (execute : Executor τ) (execute' : Executor τ') (v : World τ) (v' : World τ') :
    let calls := Run.calls (t.runStages · r b read) execute v
    let calls' := Run.calls (t.runStages · r' b read') execute' v'
    (∀ s c, t.command s = some c →
      ∀ words, c.mapM (r.expand b) = .ok words → words.flatten ≠ []) ∧
    (∀ (k : Nat) (call : Call), calls[k]? = some call → ∃ s program rest,
      t.commands[k]? = some (s, .literal program :: rest) ∧ program ≠ "" ∧
        call.invocation = ⟨program, rest.flatMap (b.fill r.text r.settings)⟩) ∧
    ∀ (k : Nat) (call call' : Call), calls[k]? = some call → calls'[k]? = some call' →
      call.invocation.program = call'.invocation.program := by
  intro calls calls'
  have hvalid := h.faultyStage?
  have hcall : ∀ {ρ : Type} (r : Resolver) (read : OutputReader) (execute : Executor ρ) (v : World ρ)
      (k : Nat) (call : Call), (Run.calls (t.runStages · r b read) execute v)[k]? = some call →
      ∃ s program rest, t.commands[k]? = some (s, .literal program :: rest) ∧ program ≠ "" ∧
        call.invocation = ⟨program, rest.flatMap (b.fill r.text r.settings)⟩ := by
    intro ρ r read execute v k call hk
    obtain ⟨s, c, hc, hbuild⟩ := exists_command_of_call hk
    obtain ⟨program, rest, rfl, hne⟩ :=
      exists_program_of_mem_commands hvalid (List.mem_of_getElem? hc)
    exact ⟨s, program, rest, hc, hne, Resolver.build_literal hbuild⟩
  refine ⟨?_, hcall r read execute v, ?_⟩
  · intro s c hc words hwords
    obtain ⟨program, rest, rfl, -⟩ :=
      exists_program_of_mem_commands hvalid ((t.mem_commands s c).2 hc)
    rw [eq_map_of_mapM_eq_ok (fun _ _ ht => Resolver.expand_eq_ok ht) hwords]
    simp [Binding.fill]
  · intro k call call' hk hk'
    obtain ⟨s, program, rest, hc, -, hi⟩ := hcall r read execute v k call hk
    obtain ⟨s', program', rest', hc', -, hi'⟩ := hcall r' read' execute' v' k call' hk'
    rw [hc] at hc'
    cases hc'
    rw [hi, hi']

/-- A target read from a file, whose run is filled in with an empty group and then with a value that is
called like another program. -/
theorem values_never_choose_program_of_file :
    let tree : Files := ⟨.ofList [(["conf"], .directory), (["conf", "t.toml"], .file (Text.Utf8.bytes
      "name = \"t\"\nrun = [\"bench\", \x7bargs = \"run\"\x7d]\n"))], []⟩
    let w : World Unit := ⟨tree, 0, [], ()⟩
    let t : Target := ⟨"t", .empty, none, none, none, none, none,
      some [.literal "bench", .group .run]⟩
    let b : Binding := ⟨none, none, some (.ofList [("tool", ["<value>"])]), none⟩
    let r : Resolver := ⟨.ofList [("tool", .text "rm")], ⟨1, 1⟩⟩
    let r' : Resolver := ⟨.ofList [("tool", .text "")], ⟨1, 1⟩⟩
    let execute : Executor Unit := fun _ => pure ⟨[], 0⟩
    t.Loaded ⟨"conf"⟩ w ∧
      (Run.calls (t.runStages · r b fun _ => .ok []) execute w).map (·.invocation) =
        [⟨"bench", ["rm"]⟩] ∧
      ∀ call call', (Run.calls (t.runStages · r b fun _ => .ok []) execute w)[0]? = some call →
        (Run.calls (t.runStages · r' b fun _ => .ok []) execute w)[0]? = some call' →
        call.invocation.program = call'.invocation.program := by
  intro tree w t b r r' execute
  have hloaded : t.Loaded ⟨"conf"⟩ w :=
    .inl ⟨"t", eq_ok_of_toOption_eq_some (by decide +kernel)⟩
  obtain ⟨-, -, hsame⟩ := values_never_choose_program hloaded b r r' (fun _ => .ok [])
    (fun _ => .ok []) execute execute w w
  exact ⟨hloaded, by decide +kernel, hsame 0⟩

end Target

end BenchSweep
