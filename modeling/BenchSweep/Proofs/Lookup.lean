import BenchSweep.Proofs.Catalog
import BenchSweep.Proofs.Walk
import Mathlib.Data.List.Pairwise

/-! One definition against all of them. A look-up tries the file of its name and then goes through the
directory in the order of paths, while a listing sorts what it finds by name; the sort keeps the order
of definitions of one name, so both agree on the first of them. -/
set_option autoImplicit false

namespace BenchSweep

variable {σ δ : Type}

/-! ## Sorting by name -/

theorem byName_trans (key : δ → String) (a b c : δ) (hab : decide (key a ≤ key b) = true)
    (hbc : decide (key b ≤ key c) = true) : decide (key a ≤ key c) = true :=
  decide_eq_true (String.le_trans (of_decide_eq_true hab) (of_decide_eq_true hbc))

theorem byName_total (key : δ → String) (a b : δ) :
    (decide (key a ≤ key b) || decide (key b ≤ key a)) = true := by
  rw [Bool.or_eq_true, decide_eq_true_iff, decide_eq_true_iff]
  exact String.le_total _ _

theorem filter_sortByName (key : δ → String) (l : List δ) (name : String) :
    (l.mergeSort fun a b => decide (key a ≤ key b)).filter (key · = name) =
      l.filter (key · = name) := by
  have hsorted : (l.filter (key · = name)).Pairwise fun a b => decide (key a ≤ key b) = true := by
    refine List.pairwise_of_forall_mem_list fun a ha b hb => ?_
    have han : key a = name := by simpa using (List.mem_filter.1 ha).2
    have hbn : key b = name := by simpa using (List.mem_filter.1 hb).2
    rw [han, hbn]
    exact decide_eq_true (String.le_refl name)
  have hsub := (List.sublist_mergeSort (byName_trans key) (byName_total key) hsorted List.filter_sublist).filter
    (key · = name)
  simp only [List.filter_filter, Bool.and_self] at hsub
  exact (hsub.eq_of_length ((List.mergeSort_perm _ _).filter _).length_eq.symm).symm

theorem find?_sortByName (key : δ → String) (l : List δ) (name : String) :
    (l.mergeSort fun a b => decide (key a ≤ key b)).find? (key · = name) =
      l.find? (key · = name) := by
  rw [← List.head?_filter, filter_sortByName, List.head?_filter]

namespace DefinitionKind

/-! ## Files of a name -/

/-- The file called like a definition. -/
def directPath (directory : Path) (name : String) : Path := directory.join ⟨s!"{name}.toml"⟩

/-- Whether this node is the file called like a definition. -/
def IsDirect (fs : Files) (directory : Path) (name : String) (node : Node) : Prop :=
  fs.look (directPath directory name) = .ok node ∧ node ≠ .directory

/-- A kind whose definitions do not depend on the path of their file, and whose files are never at
fault for a name that is not found. -/
structure Plain (k : DefinitionKind δ) : Prop where
  read_congr : ∀ {e e' : Files.Entry} {d : δ}, e.node = e'.node → k.read e = .ok d →
    k.read e' = .ok d
  read_ne_notFound : ∀ (e : Files.Entry) (name : String), k.read e ≠ .error (k.notFound name)

theorem Plain.of_parse {k : DefinitionKind δ}
    (hok : ∀ {p q : Path} {text : String} {d : δ}, k.parse p text = .ok d → k.parse q text = .ok d)
    (hne : ∀ (p : Path) (text name : String), k.parse p text ≠ .error (k.notFound name))
    (hfile : ∀ name path fault, k.notFound name ≠ .unreadableFile path fault) : k.Plain where
  read_congr := by
    intro e e' d he h
    obtain ⟨text, htext, hparse⟩ := read_eq_ok_iff.1 h
    exact read_eq_ok_iff.2 ⟨text, he ▸ htext, hok hparse⟩
  read_ne_notFound := by
    intro e name h
    rcases read_eq_error h with ⟨fault, hf⟩ | ⟨text, hp⟩
    · exact hfile name _ fault hf
    · exact hne _ text name hp

theorem plain_benchmarks : benchmarks.Plain := by
  refine .of_parse ?_ ?_ ?_
  · intro p q text d h
    exact parsed_eq_ok_iff.2 (parsed_eq_ok_iff.1 h)
  · intro p text name h
    cases parsed_eq_error h
  · intro name path fault h
    cases h

theorem plain_targets : targets.Plain := by
  refine .of_parse ?_ ?_ ?_
  · intro p q text t h
    obtain ⟨hparsed, hvalid⟩ := parse_targets_eq_ok_iff.1 h
    exact parse_targets_eq_ok_iff.2 ⟨hparsed, hvalid⟩
  · intro p text name h
    rcases exists_of_bind_eq_error h with h | ⟨t, -, h⟩
    · cases parsed_eq_error h
    · obtain ⟨stage, hstage⟩ := Target.valid_eq_error h
      cases hstage
  · intro name path fault h
    cases h

/-! ## Look-ups -/

section LookUp

variable {k : DefinitionKind δ} {fs : Files} {directory : Path} {name : String} {d : δ}

theorem directly_eq (k : DefinitionKind δ) (fs : Files) (directory : Path) (name : String) :
    k.directly fs directory name =
      match fs.look (directPath directory name) with
      | .error _ => Except.ok none
      | .ok .directory => Except.ok none
      | .ok node => (k.read ⟨directPath directory name, node⟩).map some := by
  unfold directly directPath
  rfl

theorem directly_of_not_isFile (k : DefinitionKind δ)
    (h : fs.isFile (directPath directory name) = false) :
    k.directly fs directory name = .ok none := by
  rw [directly_eq]
  unfold Files.isFile at h
  cases hl : fs.look (directPath directory name) with
  | error fault => rfl
  | ok node =>
    cases node with
    | directory => rfl
    | file content =>
      rw [hl] at h
      cases h
    | program program =>
      rw [hl] at h
      cases h

theorem directly_of_isDirect (k : DefinitionKind δ) {node : Node}
    (h : IsDirect fs directory name node) :
    k.directly fs directory name = (k.read ⟨directPath directory name, node⟩).map some := by
  rw [directly_eq]
  obtain ⟨hl, hne⟩ := h
  rw [hl]
  cases node with
  | directory => exact (hne rfl).elim
  | file content => rfl
  | program program => rfl

theorem isFile_or_isDirect (fs : Files) (directory : Path) (name : String) :
    fs.isFile (directPath directory name) = false ∨ ∃ node, IsDirect fs directory name node := by
  unfold Files.isFile IsDirect
  cases fs.look (directPath directory name) with
  | error fault => exact .inl rfl
  | ok node =>
    by_cases hd : node = .directory
    · rw [hd]
      exact .inl rfl
    · exact .inr ⟨node, rfl, hd⟩

theorem IsDirect.isFile {node : Node} (h : IsDirect fs directory name node) :
    fs.isFile (directPath directory name) = true := by
  obtain ⟨hl, hne⟩ := h
  unfold Files.isFile
  rw [hl]
  cases node with
  | directory => exact (hne rfl).elim
  | file content => rfl
  | program program => rfl

/-- What the directory holds under a name, where the file called like it does not count. -/
def searched (k : DefinitionKind δ) (fs : Files) (directory : Path) (name : String) :
    Except Failure δ :=
  match (k.defined fs directory).find? (k.name · = name) with
  | some d => .ok d
  | none => .error (k.notFound name)

theorem lookUp_of_directly_none (h : k.directly fs directory name = .ok none) :
    (k.lookUp fs directory name).1 = k.searched fs directory name := by
  unfold lookUp searched
  rw [h]
  rfl

theorem lookUp_of_other_name (h : k.directly fs directory name = .ok (some d))
    (hd : k.name d ≠ name) : (k.lookUp fs directory name).1 = k.searched fs directory name := by
  have hfilter : (some d).filter (k.name · = name) = none := by simp [hd]
  unfold lookUp searched
  cases (k.defined fs directory).find? (k.name · = name) with
  | none => simp only [h, hfilter]
  | some found => simp only [h, hfilter]

theorem lookUp_of_name (h : k.directly fs directory name = .ok (some d)) (hd : k.name d = name) :
    (k.lookUp fs directory name).1 = .ok d := by
  have hfilter : (some d).filter (k.name · = name) = some d := by simp [hd]
  unfold lookUp
  simp only [h, hfilter]

theorem lookUp_of_directly_error {f : Failure} (h : k.directly fs directory name = .error f) :
    (k.lookUp fs directory name).1 = .error f := by
  unfold lookUp
  rw [h]

/-- How a look-up goes: through the directory, unless the file of its name decides it. -/
theorem lookUp_cases (k : DefinitionKind δ) (fs : Files) (directory : Path) (name : String) :
    (k.lookUp fs directory name).1 = k.searched fs directory name ∨
      ∃ node, IsDirect fs directory name node ∧
        ((∃ d, k.read ⟨directPath directory name, node⟩ = .ok d ∧ k.name d = name ∧
            (k.lookUp fs directory name).1 = .ok d) ∨
          ∃ f, k.read ⟨directPath directory name, node⟩ = .error f ∧
            (k.lookUp fs directory name).1 = .error f) := by
  rcases isFile_or_isDirect fs directory name with h | ⟨node, h⟩
  · exact .inl (lookUp_of_directly_none (k.directly_of_not_isFile h))
  · have hdirect := k.directly_of_isDirect h
    cases hr : k.read ⟨directPath directory name, node⟩ with
    | error f =>
      rw [hr] at hdirect
      exact .inr ⟨node, h, .inr ⟨f, hr, lookUp_of_directly_error hdirect⟩⟩
    | ok d =>
      rw [hr] at hdirect
      by_cases hd : k.name d = name
      · exact .inr ⟨node, h, .inl ⟨d, hr, hd, lookUp_of_name hdirect hd⟩⟩
      · exact .inl (lookUp_of_other_name hdirect hd)

theorem mem_of_searched_eq_ok (h : k.searched fs directory name = .ok d) :
    d ∈ k.defined fs directory := by
  unfold searched at h
  split at h
  · rename_i hfind
    cases h
    exact List.mem_of_find?_eq_some hfind
  · cases h

theorem searched_of_mem (hd : d ∈ k.defined fs directory) (hn : k.name d = name) :
    ∃ first, (k.defined fs directory).find? (k.name · = name) = some first ∧
      k.searched fs directory name = .ok first := by
  have hsome : ((k.defined fs directory).find? (k.name · = name)).isSome = true := by
    rw [List.find?_isSome]
    exact ⟨d, hd, decide_eq_true hn⟩
  obtain ⟨first, hfirst⟩ := Option.isSome_iff_exists.1 hsome
  refine ⟨first, hfirst, ?_⟩
  unfold searched
  rw [hfirst]

/-- A definition in the file of its name is listed if a walk through the directory meets that file. -/
theorem mem_defined_of_isDirect (hk : k.Plain) (h : fs.Named) {node : Node}
    (hdirect : IsDirect fs directory name node)
    (hr : k.read ⟨directPath directory name, node⟩ = .ok d) {e : Files.Entry}
    (he : e ∈ candidates fs directory)
    (hplace : fs.place e.path = fs.place (directPath directory name)) :
    d ∈ k.defined fs directory := by
  have hwalk := Files.node?_of_mem_walk h (List.mem_filter.1 he).1
  rw [hplace, Files.look_eq_ok hdirect.1, Option.some.injEq] at hwalk
  refine List.mem_filterMap.2 ⟨e, he, ?_⟩
  rw [hk.read_congr hwalk hr]
  rfl

end LookUp

/-! ## Look-ups and listings -/

/-- Loading a definition by its name agrees with the list of all definitions in the directory. -/
structure Agrees (k : DefinitionKind δ) (directory : Path) (name : String) (w : World σ)
    (all : List δ) : Prop where
  listed : ((k.list directory).on w).1 = .ok all
  /-- What is loaded has the name. It is in the list, unless it comes from the file called like it and
  no walk through the directory meets this file. -/
  found : ∀ d, ((k.load directory name).on w).1 = .ok d →
    k.name d = name ∧
      ((w.files.isFile (directPath directory name) = false ∨
        ∃ e ∈ candidates w.files directory,
          w.files.place e.path = w.files.place (directPath directory name)) → d ∈ all)
  notFound : ((k.load directory name).on w).1 = .error (k.notFound name) →
    ∀ d ∈ all, k.name d ≠ name
  /-- If the list has the name, only a file called like it can keep it from being loaded. -/
  failed : (∃ d ∈ all, k.name d = name) → ∀ f, ((k.load directory name).on w).1 = .error f →
    ∃ node, IsDirect w.files directory name node ∧
      k.read ⟨directPath directory name, node⟩ = .error f
  /-- Where the file called like it does not count, the first of the list is loaded. -/
  first : (∃ d ∈ all, k.name d = name) →
    (w.files.isFile (directPath directory name) = false ∨
      ∃ node d, IsDirect w.files directory name node ∧
        k.read ⟨directPath directory name, node⟩ = .ok d ∧ k.name d ≠ name) →
    ∃ d, all.find? (k.name · = name) = some d ∧ ((k.load directory name).on w).1 = .ok d

theorem agrees {k : DefinitionKind δ} (hk : k.Plain) (directory : Path) (name : String)
    {w : World σ} (h : w.files.Named) : ∃ all, k.Agrees directory name w all := by
  have hload : ((k.load directory name).on w).1 = (k.lookUp w.files directory name).1 := by
    rw [k.on_load]
  have hmem : ∀ d, d ∈ (k.defined w.files directory).mergeSort (fun a b =>
      decide (k.name a ≤ k.name b)) ↔ d ∈ k.defined w.files directory :=
    fun d => (List.mergeSort_perm _ _).mem_iff
  refine ⟨_, congrArg Prod.fst (k.on_list directory w), ?found, ?notFound, ?failed, ?first⟩
  case found =>
    intro d hd
    rw [hload] at hd
    refine ⟨k.name_of_lookUp hd, fun hcount => (hmem d).2 ?_⟩
    rcases k.lookUp_cases w.files directory name with hs | ⟨node, hdirect, hc⟩
    · exact mem_of_searched_eq_ok (hs ▸ hd)
    · rcases hc with ⟨d', hr, -, hd'⟩ | ⟨f, -, hf⟩
      · rw [hd, Except.ok.injEq] at hd'
        rw [← hd'] at hr
        rcases hcount with hno | ⟨e, he, hplace⟩
        · rw [hdirect.isFile] at hno
          cases hno
        · exact mem_defined_of_isDirect hk h hdirect hr he hplace
      · rw [hd] at hf
        cases hf
  case notFound =>
    intro hnone d hd hname
    rw [hload] at hnone
    obtain ⟨first, -, hfirst⟩ := searched_of_mem ((hmem d).1 hd) hname
    rcases k.lookUp_cases w.files directory name with hs | ⟨node, hdirect, hc⟩
    · rw [hs, hfirst] at hnone
      cases hnone
    · rcases hc with ⟨d', -, -, hd'⟩ | ⟨f, hr, hf⟩
      · rw [hnone] at hd'
        cases hd'
      · rw [hnone, Except.error.injEq] at hf
        exact hk.read_ne_notFound _ name (hf ▸ hr)
  case failed =>
    rintro ⟨d, hd, hname⟩ f hf
    rw [hload] at hf
    obtain ⟨first, -, hfirst⟩ := searched_of_mem ((hmem d).1 hd) hname
    rcases k.lookUp_cases w.files directory name with hs | ⟨node, hdirect, hc⟩
    · rw [hs, hfirst] at hf
      cases hf
    · rcases hc with ⟨d', -, -, hd'⟩ | ⟨g, hr, hg⟩
      · rw [hf] at hd'
        cases hd'
      · rw [hf, Except.error.injEq] at hg
        exact ⟨node, hdirect, hg ▸ hr⟩
  case first =>
    rintro ⟨d, hd, hname⟩ hcount
    obtain ⟨first, hfind, hfirst⟩ := searched_of_mem ((hmem d).1 hd) hname
    refine ⟨first, ?_, ?_⟩
    · rw [find?_sortByName, hfind]
    · rw [hload, ← hfirst]
      rcases hcount with hno | ⟨node, other, hdirect, hr, hother⟩
      · exact lookUp_of_directly_none (k.directly_of_not_isFile hno)
      · have hdirectly := k.directly_of_isDirect hdirect
        rw [hr] at hdirectly
        exact lookUp_of_other_name hdirectly hother

end DefinitionKind

/-- Loading one definition agrees with listing all, for benchmarks and for targets. -/
theorem load_agrees_with_list (directory : Path) (name : String) {w : World σ}
    (h : w.files.Named) :
    (∃ all, benchmarks.Agrees directory name w all) ∧ ∃ all, targets.Agrees directory name w all :=
  ⟨DefinitionKind.agrees DefinitionKind.plain_benchmarks directory name h,
    DefinitionKind.agrees DefinitionKind.plain_targets directory name h⟩

/-- Two targets of one name, of which a look-up finds the one in the file of that name. -/
theorem load_agrees_with_list_of_repeated_name :
    let file (text : String) : Node := .file (Text.Utf8.bytes text)
    let tree : Files := ⟨.ofList [(["conf"], .directory),
      (["conf", "a.toml"], file "name = \"t\"\nrun = [\"true\"]\n"),
      (["conf", "t.toml"], file "name = \"t\"\nrun = [\"false\"]\n")], []⟩
    let w : World Unit := ⟨tree, 0, [], ()⟩
    let t : Target := ⟨"t", .empty, none, none, none, none, none, some [.literal "false"]⟩
    tree.Named ∧ ((targets.load ⟨"conf"⟩ "t").on w).1 = .ok t ∧
      ∃ all, targets.Agrees ⟨"conf"⟩ "t" w all ∧ t ∈ all := by
  intro file tree w t
  have hnamed : tree.Named := by decide +kernel
  have hload : ((targets.load ⟨"conf"⟩ "t").on w).1 = .ok t :=
    eq_ok_of_toOption_eq_some (by decide +kernel)
  obtain ⟨-, all, hall⟩ := load_agrees_with_list ⟨"conf"⟩ "t" (w := w) hnamed
  obtain ⟨-, hmem⟩ := hall.found t hload
  refine ⟨hnamed, hload, all, hall, hmem (.inr ⟨⟨⟨"conf/t.toml"⟩,
    file "name = \"t\"\nrun = [\"false\"]\n"⟩, ?_, by decide +kernel⟩)⟩
  refine List.mem_filter.2 ⟨?_, by decide +kernel⟩
  have hfind : tree.find ⟨"conf"⟩ = .ok (["conf"], .directory) :=
    eq_ok_of_toOption_eq_some (by decide +kernel)
  change _ ∈ tree.walk ⟨"conf"⟩
  unfold Files.walk
  rw [hfind]
  refine List.mem_cons_of_mem _ (List.mem_map.2 ⟨(["t.toml"], _), ?_, rfl⟩)
  exact Files.mem_below_iff.2 ⟨by decide, by decide +kernel⟩

end BenchSweep
