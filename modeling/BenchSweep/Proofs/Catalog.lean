import BenchSweep.Catalog
import BenchSweep.Proofs.Run
import BenchSweep.Proofs.Steps
import Mathlib.Data.List.Basic

/-! Looking definitions up. It reads the files and tells which of them it passes over, and it changes
nothing; what is found under a name has that name. -/
set_option autoImplicit false

namespace BenchSweep

/-! ## Reading -/

theorem parsed_eq_ok_iff {δ : Type} {path : Path} {x : Option δ} {d : δ} :
    parsed path x = .ok d ↔ x = some d := by
  cases x <;> simp [parsed]

theorem parsed_eq_error {δ : Type} {path : Path} {x : Option δ} {f : Failure}
    (h : parsed path x = .error f) : f = .unparsableFile path.text := by
  cases x with
  | none =>
    cases h
    rfl
  | some d => cases h

theorem Target.valid_eq_ok_iff {path : Path} {t t' : Target} :
    t.valid path = .ok t' ↔ t = t' ∧ t.faultyStage? = none := by
  unfold valid
  cases t.faultyStage? <;> simp

theorem Target.valid_eq_error {path : Path} {t : Target} {f : Failure}
    (h : t.valid path = .error f) : ∃ stage, f = .noExecutable path.text stage t.name := by
  unfold valid at h
  cases hs : t.faultyStage? with
  | none =>
    rw [hs] at h
    cases h
  | some stage =>
    rw [hs] at h
    cases h
    exact ⟨stage, rfl⟩

theorem parse_targets_eq_ok_iff {path : Path} {text : String} {t : Target} :
    targets.parse path text = .ok t ↔ Target.ofToml? text = some t ∧ t.faultyStage? = none := by
  constructor
  · intro h
    obtain ⟨t', hparsed, hvalid⟩ := exists_of_bind_eq_ok h
    obtain ⟨rfl, hnone⟩ := Target.valid_eq_ok_iff.1 hvalid
    exact ⟨parsed_eq_ok_iff.1 hparsed, hnone⟩
  · rintro ⟨hparsed, hnone⟩
    change (parsed path (Target.ofToml? text)).bind (Target.valid path) = .ok t
    rw [parsed_eq_ok_iff.2 hparsed]
    exact Target.valid_eq_ok_iff.2 ⟨rfl, hnone⟩

namespace DefinitionKind

variable {δ σ : Type}

theorem read_eq_ok_iff {k : DefinitionKind δ} {e : Files.Entry} {d : δ} :
    k.read e = .ok d ↔ ∃ text, Files.Node.text e.node = .ok text ∧ k.parse e.path text = .ok d := by
  unfold read
  cases Files.Node.text e.node with
  | error fault => simp
  | ok text => simp

theorem read_eq_error {k : DefinitionKind δ} {e : Files.Entry} {f : Failure}
    (h : k.read e = .error f) :
    (∃ fault, f = .unreadableFile e.path.text fault) ∨ ∃ text, k.parse e.path text = .error f := by
  unfold read at h
  cases ht : Files.Node.text e.node with
  | error fault =>
    rw [ht] at h
    cases h
    exact .inl ⟨fault, rfl⟩
  | ok text =>
    rw [ht] at h
    exact .inr ⟨text, h⟩

variable (k : DefinitionKind δ)

/-! ## In order -/

def defined (fs : Files) (directory : Path) : List δ :=
  (candidates fs directory).filterMap fun e => (k.read e).toOption

/-- The message about a node that is no definition. -/
def complaint? (e : Files.Entry) : Option Event :=
  match k.read e with
  | .ok _ => none
  | .error f => some ⟨.warning, s!"Skipping invalid definition {e.path.text}: {f.message}", none⟩

def complaints (fs : Files) (directory : Path) : List Event :=
  (candidates fs directory).filterMap k.complaint?

theorem on_consider (found : List δ) (e : Files.Entry) (w : World σ) :
    (k.consider found e).on w =
      (.ok (found ++ (k.read e).toOption.toList), w.told (k.complaint? e).toList) := by
  unfold consider complaint?
  cases k.read e with
  | ok d => exact congrArg (Prod.mk _) (World.told_nil w).symm
  | error f =>
    dsimp only
    rw [Run.on_bind_ok (Run.on_report _ _ w)]
    exact congrArg (fun found => (Except.ok found, _)) (List.append_nil found).symm

theorem on_foldlM_consider (es : List Files.Entry) (found : List δ) (w : World σ) :
    (es.foldlM k.consider found : Run σ (List δ)).on w =
      (.ok (found ++ es.filterMap fun e => (k.read e).toOption),
        w.told (es.filterMap k.complaint?)) := by
  simp only [List.filterMap_eq_flatMap_toList]
  induction es generalizing found w with
  | nil =>
    rw [List.flatMap_nil, List.flatMap_nil, List.append_nil, World.told_nil]
    rfl
  | cons e rest ih =>
    rw [List.foldlM_cons, Run.on_bind_ok (k.on_consider found e w), ih, World.told_told,
      List.append_assoc, List.flatMap_cons, List.flatMap_cons]

theorem on_inOrder (directory : Path) (w : World σ) :
    (k.inOrder directory).on w =
      (.ok (k.defined w.files directory), w.told (k.complaints w.files directory)) := by
  unfold inOrder
  rw [Run.on_bind_ok (Run.on_files w), k.on_foldlM_consider, List.nil_append]
  rfl

theorem on_list (directory : Path) (w : World σ) :
    (k.list directory).on w =
      (.ok ((k.defined w.files directory).mergeSort fun a b => decide (k.name a ≤ k.name b)),
        w.told (k.complaints w.files directory)) := by
  unfold list
  rw [Run.on_bind_ok (k.on_inOrder directory w)]
  rfl

/-! ## By name -/

/-- What the file called like a definition holds, if there is such a file. -/
def directly (fs : Files) (directory : Path) (name : String) : Except Failure (Option δ) :=
  let path := directory.join ⟨s!"{name}.toml"⟩
  match fs.look path with
  | .error _ => .ok none
  | .ok .directory => .ok none
  | .ok node => (k.read ⟨path, node⟩).map some

/-- The definition found under a name, and the messages on the way. -/
def lookUp (fs : Files) (directory : Path) (name : String) : Except Failure δ × List Event :=
  match k.directly fs directory name with
  | .error f => (.error f, [])
  | .ok direct =>
    match direct.filter (k.name · = name) with
    | some d => (.ok d, [])
    | none =>
      (match (k.defined fs directory).find? (k.name · = name) with
        | some d => .ok d
        | none => .error (k.notFound name),
        k.complaints fs directory)

theorem on_direct? (directory : Path) (name : String) (w : World σ) :
    (k.direct? directory name).on w = (k.directly w.files directory name, w) := by
  have hread : ∀ e : Files.Entry,
      (do return some (← Run.of (k.read e)) : Run σ (Option δ)).on w =
        ((k.read e).map some, w) := by
    intro e
    rw [Run.on_bind, Run.on_of]
    cases k.read e <;> rfl
  unfold direct? directly
  rw [Run.on_bind_ok (Run.on_files w)]
  dsimp only
  cases w.files.look (directory.join ⟨s!"{name}.toml"⟩) with
  | error fault => rfl
  | ok node =>
    cases node with
    | directory => rfl
    | file content => exact hread _
    | program program => exact hread _

theorem on_load (directory : Path) (name : String) (w : World σ) :
    (k.load directory name).on w =
      ((k.lookUp w.files directory name).1, w.told (k.lookUp w.files directory name).2) := by
  unfold load lookUp
  rw [Run.on_bind, k.on_direct?]
  cases k.directly w.files directory name with
  | error f => exact congrArg (Prod.mk _) (World.told_nil w).symm
  | ok direct =>
    dsimp only
    cases direct.filter (k.name · = name) with
    | some d => exact congrArg (Prod.mk _) (World.told_nil w).symm
    | none =>
      dsimp only
      rw [Run.on_bind_ok (k.on_inOrder directory w)]
      cases (k.defined w.files directory).find? (k.name · = name) <;> rfl

/-- What is found under a name has that name. -/
theorem name_of_lookUp {fs : Files} {directory : Path} {name : String} {d : δ}
    (h : (k.lookUp fs directory name).1 = .ok d) : k.name d = name := by
  unfold lookUp at h
  split at h
  · cases h
  · split at h
    · rename_i hfilter
      cases h
      exact of_decide_eq_true (Option.filter_eq_some_iff.1 hfilter).2
    · dsimp only at h
      split at h
      · rename_i hfind
        cases h
        have hname := List.find?_some hfind
        exact of_decide_eq_true hname
      · cases h

/-! ## Nodes that were read -/

variable {k}

theorem exists_read_of_mem_defined {fs : Files} {directory : Path} {d : δ}
    (h : d ∈ k.defined fs directory) : ∃ e ∈ candidates fs directory, k.read e = .ok d := by
  obtain ⟨e, he, hd⟩ := List.mem_filterMap.1 h
  exact ⟨e, he, eq_ok_of_toOption_eq_some hd⟩

theorem exists_read_of_directly {fs : Files} {directory : Path} {name : String} {d : δ}
    (h : k.directly fs directory name = .ok (some d)) : ∃ e, k.read e = .ok d := by
  unfold directly at h
  dsimp only at h
  split at h
  · cases h
  · cases h
  · obtain ⟨d', hd', hd⟩ := map_eq_ok_iff.1 h
    cases hd
    exact ⟨_, hd'⟩

/-- What is found under a name was read from some node. -/
theorem exists_read_of_lookUp {fs : Files} {directory : Path} {name : String} {d : δ}
    (h : (k.lookUp fs directory name).1 = .ok d) : ∃ e, k.read e = .ok d := by
  unfold lookUp at h
  split at h
  · cases h
  · rename_i direct hdirect
    split at h
    · rename_i hfilter
      cases h
      have hsome := (Option.filter_eq_some_iff.1 hfilter).1
      exact exists_read_of_directly (hsome ▸ hdirect)
    · dsimp only at h
      split at h
      · rename_i hfind
        cases h
        obtain ⟨e, -, he⟩ := exists_read_of_mem_defined (List.mem_of_find?_eq_some hfind)
        exact ⟨e, he⟩
      · cases h

end DefinitionKind

end BenchSweep
