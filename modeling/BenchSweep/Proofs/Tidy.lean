import BenchSweep.Collection
import BenchSweep.Proofs.ResultsFile
import BenchSweep.Proofs.Walk

/-! What a run does to files that are collected. As long as its commands neither make nor change any
file of that name below a place, a run that completes changes one of them, which is its own. -/
set_option autoImplicit false

namespace BenchSweep

variable {σ : Type}

/-! ## Names on a way -/

theorem Location.isName_walk {place : Location} {parts : List String}
    (hplace : ∀ name ∈ place, Path.IsName name) (hparts : ∀ part ∈ parts, Path.IsPart part) :
    ∀ name ∈ place.walk parts, Path.IsName name := by
  induction parts generalizing place with
  | nil => exact hplace
  | cons part rest ih =>
    obtain ⟨hpart, hrest⟩ := List.forall_mem_cons.1 hparts
    refine ih (fun name hname => ?_) hrest
    unfold step at hname
    by_cases hdot : part = "."
    · rw [if_pos hdot] at hname
      exact hplace name hname
    · rw [if_neg hdot] at hname
      by_cases hup : part = ".."
      · rw [if_pos hup] at hname
        exact hplace name (List.dropLast_subset _ hname)
      · rw [if_neg hup] at hname
        rcases List.mem_append.1 hname with hname | hname
        · exact hplace name hname
        · rw [List.mem_singleton.1 hname]
          exact ⟨hpart, hdot, hup⟩

namespace Files

/-- A tree in which every node and the working directory stand under names. -/
structure IsTree (fs : Files) : Prop where
  named : fs.Named
  here : ∀ name ∈ fs.here, Path.IsName name

instance (fs : Files) : Decidable fs.IsTree :=
  decidable_of_iff (fs.Named ∧ ∀ name ∈ fs.here, Path.IsName name)
    ⟨fun h => ⟨h.1, h.2⟩, fun h => ⟨h.named, h.here⟩⟩

theorem named_iff {fs : Files} :
    fs.Named ↔ ∀ l node, fs.node? l = some node → ∀ name ∈ l, Path.IsName name := by
  unfold Named node?
  constructor
  · intro h l node hl name hname
    have hne : l ≠ [] := List.ne_nil_of_mem hname
    rw [if_neg hne] at hl
    exact h l (OrderedMap.mem_keys_iff.2 ⟨node, hl⟩) name hname
  · intro h l hl name hname
    have hne : l ≠ [] := List.ne_nil_of_mem hname
    obtain ⟨node, hnode⟩ := OrderedMap.mem_keys_iff.1 hl
    exact h l node (by rw [if_neg hne, hnode]) name hname

theorem IsTree.isName_place {fs : Files} (h : fs.IsTree) (p : Path) (k : Nat) :
    ∀ name ∈ (fs.start p).walk (p.parts.take k), Path.IsName name := by
  refine Location.isName_walk ?_ fun part hpart =>
    Path.isPart_of_mem_parts (List.mem_of_mem_take hpart)
  unfold start
  split
  · simp
  · exact h.here

theorem IsTree.put {fs : Files} (h : fs.IsTree) {l : Location}
    (hl : ∀ name ∈ l, Path.IsName name) (node : Node) : (fs.put l node).IsTree := by
  refine ⟨named_iff.2 fun l' node' hn name hname => ?_, h.here⟩
  by_cases he : l' = l
  · exact hl name (he ▸ hname)
  · rw [node?_put fs l l' node he] at hn
    exact named_iff.1 h.named l' node' hn name hname

theorem IsTree.makeDirectories {fs : Files} (h : fs.IsTree) (p : Path) :
    (fs.makeDirectories p).1.IsTree := by
  refine ⟨named_iff.2 fun l node hn name hname => ?_, ?_⟩
  · rcases fs.node?_makeDirectories p l with hs | ⟨-, -, k, rfl⟩
    · rw [hs] at hn
      exact named_iff.1 h.named l node hn name hname
    · exact h.isName_place p k name hname
  · rw [here_makeDirectories]
    exact h.here

theorem IsTree.put_place {fs : Files} (h : fs.IsTree) {p : Path} {l : Location}
    (hl : fs.writable p = .ok l) (node : Node) : (fs.put l node).IsTree := by
  refine h.put ?_ node
  rw [place_of_locate (writable_eq_ok_iff.1 hl).1]
  have hname := h.isName_place p p.parts.length
  rwa [List.take_length] at hname

/-! ## Leaves -/

/-- What stands at a place, unless it is a directory. -/
def leaf? (fs : Files) (l : Location) : Option Node := (fs.node? l).filter (· ≠ .directory)

theorem leaf?_eq_some_iff {fs : Files} {l : Location} {node : Node} :
    fs.leaf? l = some node ↔ fs.node? l = some node ∧ node ≠ .directory := by
  unfold leaf?
  rw [Option.filter_eq_some_iff]
  simp

theorem leaf?_put (fs : Files) {l other : Location} (node : Node) (h : other ≠ l) :
    (fs.put l node).leaf? other = fs.leaf? other := by
  unfold leaf?
  rw [node?_put fs l other node h]

/-- Directories that are made are no leaves, and they stand where nothing stood. -/
theorem leaf?_makeDirectories (fs : Files) (p : Path) (l : Location) :
    (fs.makeDirectories p).1.leaf? l = fs.leaf? l := by
  unfold leaf?
  rcases fs.node?_makeDirectories p l with hs | ⟨hbefore, hafter, -⟩
  · rw [hs]
  · rw [hbefore, hafter]
    rfl

end Files

/-! ## Tidy commands -/

/-- An executor that keeps the tree and the working directory, and every file of results below a
place. -/
structure Executor.Tidy (execute : Executor σ) (place : Location) : Prop where
  named : ∀ i w, w.files.Named → ((execute i).on w).2.files.Named
  here : ∀ i w, ((execute i).on w).2.files.here = w.files.here
  leaves : ∀ i w names, names.getLast? = some resultsName →
    ((execute i).on w).2.files.leaf? (place ++ names) = w.files.leaf? (place ++ names)

theorem Executor.tidy_of_files_eq {execute : Executor σ}
    (h : ∀ i w, ((execute i).on w).2.files = w.files) (place : Location) : execute.Tidy place :=
  ⟨fun i w hw => (h i w).symm ▸ hw, fun i w => by rw [h i w], fun i w _ _ => by rw [h i w]⟩

/-- Whether one tree has grown out of another and has the same files of results below a place. -/
structure Files.Cleanly (place : Location) (fs fs' : Files) : Prop where
  tree : fs.IsTree → fs'.IsTree
  here : fs'.here = fs.here
  leaves : ∀ names, names.getLast? = some resultsName →
    fs'.leaf? (place ++ names) = fs.leaf? (place ++ names)

namespace Files.Cleanly

variable {place : Location} {fs fs' fs'' : Files}

theorem refl (place : Location) (fs : Files) : Cleanly place fs fs := ⟨id, rfl, fun _ _ => rfl⟩

theorem trans (h : Cleanly place fs fs') (h' : Cleanly place fs' fs'') : Cleanly place fs fs'' :=
  ⟨fun ht => h'.tree (h.tree ht), h'.here.trans h.here,
    fun names hn => (h'.leaves names hn).trans (h.leaves names hn)⟩

theorem makeDirectories (place : Location) (fs : Files) (p : Path) :
    Cleanly place fs (fs.makeDirectories p).1 :=
  ⟨fun h => h.makeDirectories p, fs.here_makeDirectories p,
    fun _ _ => fs.leaf?_makeDirectories p _⟩

theorem put {p : Path} {l : Location} (hl : fs.writable p = .ok l) (node : Node)
    (hname : l.getLast? ≠ some resultsName) : Cleanly place fs (fs.put l node) := by
  refine ⟨fun h => h.put_place hl node, rfl, fun names hn => fs.leaf?_put node ?_⟩
  intro he
  refine hname ?_
  rw [← he, List.getLast?_append, hn]
  rfl

end Files.Cleanly

theorem Executor.Tidy.cleanly {execute : Executor σ} {place : Location} (h : execute.Tidy place)
    (i : Invocation) (w : World σ) :
    Files.Cleanly place w.files ((execute i).on w).2.files := by
  refine ⟨fun ht => ⟨h.named i w ht.named, ?_⟩, h.here i w, h.leaves i w⟩
  rw [h.here i w]
  exact ht.here

theorem Target.Performs.cleanly {t : Target} {execute : Executor σ} {r : Resolver} {b : Binding}
    {w w' : World σ} {cmds : List (Stage × Command)} {calls : List Call} {fault : Option Failure}
    (h : t.Performs execute r b w cmds calls fault w') {place : Location}
    (ht : execute.Tidy place) : Files.Cleanly place w.files w'.files :=
  h.invariant (I := fun _ v => Files.Cleanly place w.files v.files) (fun _ _ _ hv => hv)
    (fun _ v i hv => hv.trans (ht.cleanly i v)) (.refl place w.files)

namespace Plan.Completion

variable {p : Plan} {execute : Executor σ} {w : World σ} {calls : List Call} {fs : Files}
  {place : Location} (done : p.Completion execute w calls fs)

theorem cleanly_prepared (place : Location) :
    Files.Cleanly place w.files done.prepared := by
  obtain ⟨text, made, -, hmade, hwrite⟩ := prepareFiles_eq_ok done.prepared_eq
  obtain ⟨l, hl, hput⟩ := Files.write_eq_ok_iff.1 hwrite
  have hfirst := Files.Cleanly.makeDirectories place w.files p.directory
  rw [hmade] at hfirst
  rw [hput]
  refine hfirst.trans (.put hl _ ?_)
  rw [Files.place_of_locate (Files.writable_eq_ok_iff.1 hl).1, p.manifestPlace_eq,
    List.getLast?_concat]
  decide

variable (hm : Files.Cleanly place done.prepared done.measured.files)

include hm

/-- Before the results are written, nothing has changed that is collected. -/
theorem cleanly_measured : Files.Cleanly place w.files done.measured.files :=
  (done.cleanly_prepared place).trans hm

theorem place_eq : done.place = p.resultsPlace w.files := by
  rw [Files.place_of_locate (Files.writable_eq_ok_iff.1 done.writable).1]
  exact Files.place_congr (done.cleanly_measured hm).here _

/-- What a run that completes leaves behind of the files that are collected: its own is new. -/
theorem leaf?_after {names : List String} (hn : names.getLast? = some resultsName) :
    fs.leaf? (place ++ names) =
      if place ++ names = p.resultsPlace w.files then
        some (.file (p.context.table done.times))
      else w.files.leaf? (place ++ names) := by
  have hfs : fs.leaf? (place ++ names) =
      (done.measured.files.put done.place (.file (p.context.table done.times))).leaf?
        (place ++ names) :=
    congrArg (fun files : Files => files.leaf? (place ++ names)) done.files_eq
  rw [hfs, ← done.place_eq hm]
  by_cases he : place ++ names = done.place
  · have hfree := (Files.writable_eq_ok_iff.1 done.writable).2.2
    rw [if_pos he, he, Files.leaf?_eq_some_iff]
    exact ⟨Files.node?_put_self _ _ _ (Files.ne_nil_of_free hfree), by simp⟩
  · rw [if_neg he, Files.leaf?_put _ _ he]
    exact (done.cleanly_measured hm).leaves names hn

theorem isTree (h : w.files.IsTree) : fs.IsTree := by
  rw [done.files_eq]
  exact ((done.cleanly_measured hm).tree h).put_place done.writable _

theorem here_eq : fs.here = w.files.here := by
  rw [done.files_eq]
  exact (done.cleanly_measured hm).here

end Plan.Completion

end BenchSweep
