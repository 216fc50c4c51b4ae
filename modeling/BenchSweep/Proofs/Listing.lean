import BenchSweep.Proofs.Executable
import BenchSweep.Proofs.Lookup
import Mathlib.Data.List.Sort

/-! Listings are complete. Every entry of a tree that is called like a definition is either in the list
or in one warning, each once; the list goes by name and then by path, the warnings go by path, and no
entry has a say in what becomes of another. -/
set_option autoImplicit false

namespace BenchSweep

open scoped List

variable {σ δ : Type}

/-- Sorting by name keeps the order of those of one name. -/
theorem pairwise_sortByName (key : δ → String) {R : δ → δ → Prop} {l : List δ} (h : l.Pairwise R) :
    (l.mergeSort fun a b => decide (key a ≤ key b)).Pairwise fun a b =>
      key a < key b ∨ key a = key b ∧ R a b := by
  refine List.pairwise_iff_forall_sublist.2 fun {a b} hab => ?_
  have hsorted := List.pairwise_mergeSort (byName_trans key) (byName_total key) l
  have hle : key a ≤ key b := of_decide_eq_true (List.pairwise_iff_forall_sublist.1 hsorted hab)
  by_cases hlt : key a < key b
  · exact .inl hlt
  · have heq : key a = key b := String.le_antisymm hle (String.not_lt.1 hlt)
    have hsub := hab.filter (key · = key a)
    rw [filter_sortByName] at hsub
    have hpair : [a, b].filter (key · = key a) = [a, b] := by simp [heq]
    rw [hpair] at hsub
    exact .inr ⟨heq, List.pairwise_iff_forall_sublist.1 h (hsub.trans List.filter_sublist)⟩

/-! ## Entries -/

namespace Files

/-- The entries of a tree from a path on: the node that the path leads to and, if it is a directory,
every node below it, under the path that leads to it. -/
inductive Shows (fs : Files) (p : Path) : Entry → Prop
  | start {node : Node} (h : fs.look p = .ok node) : Shows fs p ⟨p, node⟩
  | below {names : List String} {node : Node} (h : fs.look p = .ok .directory) (hne : names ≠ [])
      (hnode : fs.node? (fs.place p ++ names) = some node) :
      Shows fs p ⟨names.foldl Path.child p, node⟩

variable {fs : Files} {p : Path} {e : Entry}

theorem find_of_look {node : Node} (h : fs.look p = .ok node) :
    fs.find p = .ok (fs.place p, node) := by
  unfold look at h
  obtain ⟨⟨place, n⟩, hf, rfl⟩ := map_eq_ok_iff.1 h
  rw [hf, (find_eq_ok hf).1]

theorem look_of_find {place : Location} {node : Node} (h : fs.find p = .ok (place, node)) :
    fs.look p = .ok node := by
  unfold look
  rw [h]
  rfl

theorem mem_walk_iff : e ∈ fs.walk p ↔ fs.Shows p e := by
  constructor
  · intro he
    unfold walk at he
    split at he
    · cases he
    · rename_i place hf
      rcases List.mem_cons.1 he with rfl | he
      · exact .start (look_of_find hf)
      · obtain ⟨⟨names, node⟩, hm, rfl⟩ := List.mem_map.1 he
        obtain ⟨hne, hget⟩ := mem_below_iff.1 hm
        refine .below (look_of_find hf) hne ?_
        rw [← (find_eq_ok hf).1]
        unfold node?
        rw [if_neg (by simp [hne]), hget]
    · rename_i hf
      rw [List.mem_singleton.1 he]
      exact .start (look_of_find hf)
  · intro he
    cases he with
    | start h =>
      unfold walk
      rw [find_of_look h]
      split
      · rename_i heq
        cases heq
      · rename_i heq
        cases heq
        exact List.mem_cons_self
      · rename_i heq
        cases heq
        exact List.mem_singleton_self _
    | @below names node h hne hnode =>
      unfold node? at hnode
      rw [if_neg (by simp [hne])] at hnode
      unfold walk
      rw [find_of_look h]
      exact List.mem_cons_of_mem _ (List.mem_map.2 ⟨(names, node), mem_below_iff.2 ⟨hne, hnode⟩, rfl⟩)

/-- Whether an entry stands before another in the order of their paths, part by part. -/
def Entry.Before (e e' : Entry) : Prop := List.Lex (· < ·) e.path.parts e'.path.parts

theorem Entry.Before.irrefl (e : Entry) : ¬e.Before e := List.lt_irrefl e.path.parts

theorem Entry.Before.asymm {e e' : Entry} (h : e.Before e') : ¬e'.Before e := List.lt_asymm h

end Files

/-! ## What an entry holds -/

/-- A command line that starts with an executable. -/
def Command.Starts (c : Command) : Prop := ∃ program rest, c = .literal program :: rest ∧ program ≠ ""

theorem Command.isNone_program?_iff {c : Command} : c.program?.isNone = true ↔ ¬c.Starts := by
  rw [Option.isNone_iff_eq_none, Option.eq_none_iff_forall_ne_some]
  unfold Starts
  constructor
  · rintro h ⟨program, rest, hc, hne⟩
    exact h program (program?_eq_some_iff.2 ⟨hne, rest, hc⟩)
  · intro h program hp
    obtain ⟨hne, rest, hc⟩ := program?_eq_some_iff.1 hp
    exact h ⟨program, rest, hc, hne⟩

theorem Target.faultyStage?_eq_none_iff {t : Target} :
    t.faultyStage? = none ↔ ∀ s c, t.command s = some c → c.Starts := by
  unfold faultyStage?
  simp only [Option.map_eq_none_iff, List.find?_eq_none, Command.isNone_program?_iff, not_not]
  constructor
  · exact fun h s c hc => h (s, c) ((t.mem_commands s c).2 hc)
  · exact fun h x hx => h x.1 x.2 ((t.mem_commands x.1 x.2).1 hx)

theorem Target.faultyStage?_eq_some_iff {t : Target} {s : Stage} :
    t.faultyStage? = some s ↔ ∃ before c after, t.commands = before ++ (s, c) :: after ∧
      (∀ x ∈ before, x.2.Starts) ∧ ¬c.Starts := by
  unfold faultyStage?
  simp only [Option.map_eq_some_iff, List.find?_eq_some_iff_append, Bool.not_eq_true',
    Command.isNone_program?_iff, ← Bool.not_eq_true, not_not]
  constructor
  · rintro ⟨⟨_, c⟩, ⟨hc, before, after, hstages, hbefore⟩, rfl⟩
    exact ⟨before, c, after, hstages, hbefore, hc⟩
  · rintro ⟨before, c, after, hstages, hbefore, hc⟩
    exact ⟨(s, c), ⟨hc, before, after, hstages, hbefore⟩, rfl⟩

/-- The text of an entry defines this benchmark. -/
def Benchmark.In (b : Benchmark) (e : Files.Entry) : Prop :=
  ∃ text, Files.Node.text e.node = .ok text ∧ Benchmark.ofToml? text = some b

/-- The text of an entry defines this target, and all its stages start with an executable. -/
def Target.In (t : Target) (e : Files.Entry) : Prop :=
  ∃ text, Files.Node.text e.node = .ok text ∧ Target.ofToml? text = some t ∧
    ∀ s c, t.command s = some c → c.Starts

/-- Why an entry defines no benchmark. -/
inductive Benchmark.Flaw (e : Files.Entry) : Failure → Prop
  | unreadable {fault : HostFault} (h : Files.Node.text e.node = .error fault) :
      Flaw e (.unreadableFile e.path.text fault)
  | malformed {text : String} (h : Files.Node.text e.node = .ok text)
      (hnone : Benchmark.ofToml? text = none) : Flaw e (.unparsableFile e.path.text)

/-- Why an entry defines no target: also a stage, the first one counts, that does not start with an
executable. -/
inductive Target.Flaw (e : Files.Entry) : Failure → Prop
  | unreadable {fault : HostFault} (h : Files.Node.text e.node = .error fault) :
      Flaw e (.unreadableFile e.path.text fault)
  | malformed {text : String} (h : Files.Node.text e.node = .ok text)
      (hnone : Target.ofToml? text = none) : Flaw e (.unparsableFile e.path.text)
  | invalid {text : String} {t : Target} {before after : List (Stage × Command)} {s : Stage}
      {c : Command} (h : Files.Node.text e.node = .ok text) (ht : Target.ofToml? text = some t)
      (hstages : t.commands = before ++ (s, c) :: after) (hbefore : ∀ x ∈ before, x.2.Starts)
      (hc : ¬c.Starts) : Flaw e (.noExecutable e.path.text s t.name)

theorem parsed_eq_error_iff {path : Path} {x : Option δ} {f : Failure} :
    parsed path x = .error f ↔ x = none ∧ f = .unparsableFile path.text := by
  cases x with
  | none => simp [parsed, eq_comm]
  | some d => simp [parsed]

theorem Target.valid_eq_error_iff {path : Path} {t : Target} {f : Failure} :
    t.valid path = .error f ↔
      ∃ s, t.faultyStage? = some s ∧ f = .noExecutable path.text s t.name := by
  unfold valid
  cases t.faultyStage? <;> simp [eq_comm]

namespace DefinitionKind

theorem read_eq_error_iff {k : DefinitionKind δ} {e : Files.Entry} {f : Failure} :
    k.read e = .error f ↔
      (∃ fault, Files.Node.text e.node = .error fault ∧ f = .unreadableFile e.path.text fault) ∨
        ∃ text, Files.Node.text e.node = .ok text ∧ k.parse e.path text = .error f := by
  unfold read
  cases Files.Node.text e.node with
  | error fault => simp [eq_comm]
  | ok text => simp

theorem read_benchmark_eq_ok_iff {e : Files.Entry} {b : Benchmark} :
    benchmarks.read e = .ok b ↔ b.In e := by
  rw [read_eq_ok_iff]
  exact exists_congr fun text => and_congr_right fun _ => parsed_eq_ok_iff

theorem read_target_eq_ok_iff {e : Files.Entry} {t : Target} :
    targets.read e = .ok t ↔ t.In e := by
  rw [read_eq_ok_iff]
  refine exists_congr fun text => and_congr_right fun _ => ?_
  rw [parse_targets_eq_ok_iff, Target.faultyStage?_eq_none_iff]

theorem read_benchmark_eq_error_iff {e : Files.Entry} {f : Failure} :
    benchmarks.read e = .error f ↔ Benchmark.Flaw e f := by
  rw [read_eq_error_iff]
  constructor
  · rintro (⟨fault, h, rfl⟩ | ⟨text, h, hparse⟩)
    · exact .unreadable h
    · obtain ⟨hnone, rfl⟩ := parsed_eq_error_iff.1 hparse
      exact .malformed h hnone
  · intro h
    cases h with
    | unreadable h => exact .inl ⟨_, h, rfl⟩
    | malformed h hnone => exact .inr ⟨_, h, parsed_eq_error_iff.2 ⟨hnone, rfl⟩⟩

theorem read_target_eq_error_iff {e : Files.Entry} {f : Failure} :
    targets.read e = .error f ↔ Target.Flaw e f := by
  rw [read_eq_error_iff]
  constructor
  · rintro (⟨fault, h, rfl⟩ | ⟨text, h, hparse⟩)
    · exact .unreadable h
    rcases exists_of_bind_eq_error hparse with hparsed | ⟨t, hparsed, hvalid⟩
    · obtain ⟨hnone, rfl⟩ := parsed_eq_error_iff.1 hparsed
      exact .malformed h hnone
    · obtain ⟨s, hs, rfl⟩ := Target.valid_eq_error_iff.1 hvalid
      obtain ⟨before, c, after, hstages, hbefore, hc⟩ := Target.faultyStage?_eq_some_iff.1 hs
      exact .invalid h (parsed_eq_ok_iff.1 hparsed) hstages hbefore hc
  · intro h
    cases h with
    | unreadable h => exact .inl ⟨_, h, rfl⟩
    | @malformed text h hnone =>
      have hparsed : parsed e.path (Target.ofToml? text) = .error (.unparsableFile e.path.text) :=
        parsed_eq_error_iff.2 ⟨hnone, rfl⟩
      refine .inr ⟨text, h, ?_⟩
      change (parsed e.path (Target.ofToml? text)).bind (Target.valid e.path) = _
      rw [hparsed]
      rfl
    | @invalid text t before after s c h ht hstages hbefore hc =>
      refine .inr ⟨text, h, ?_⟩
      change (parsed e.path (Target.ofToml? text)).bind (Target.valid e.path) = _
      rw [parsed_eq_ok_iff.2 ht]
      have hs := Target.faultyStage?_eq_some_iff.2 ⟨before, c, after, hstages, hbefore, hc⟩
      exact Target.valid_eq_error_iff.2 ⟨s, hs, rfl⟩

/-! ## Listings -/

/-- An entry of the directory that is called like a definition, at any depth. -/
def Candidate (fs : Files) (directory : Path) (e : Files.Entry) : Prop :=
  fs.Shows directory e ∧ e.path.extension? = some "toml"

theorem mem_candidates_iff {fs : Files} {directory : Path} {e : Files.Entry} :
    e ∈ candidates fs directory ↔ Candidate fs directory e := by
  unfold candidates Candidate
  rw [List.mem_filter, Files.mem_walk_iff, decide_eq_true_iff]

theorem pairwise_candidates {fs : Files} (h : fs.Named) (directory : Path) :
    (candidates fs directory).Pairwise Files.Entry.Before :=
  (Files.pairwise_walk h directory).filter _

/-- The warning that passes over an entry. -/
def warning (e : Files.Entry) (f : Failure) : Event :=
  ⟨.warning, s!"Skipping invalid definition {e.path.text}: {f.message}", none⟩

/-- Whether an entry is a candidate and holds `x`, be it a definition or a flaw. -/
def Found {α : Type} (Holds : Files.Entry → α → Prop) (fs : Files) (directory : Path)
    (e : Files.Entry) (x : α) : Prop := Candidate fs directory e ∧ Holds e x

/-- The list `all` and the warnings `told` of a listing take account of every candidate once, where
`Good` tells what an entry defines and `Bad` why it defines nothing. -/
structure Accounts (k : DefinitionKind δ) (Good : Files.Entry → δ → Prop)
    (Bad : Files.Entry → Failure → Prop) (directory : Path) (w : World σ) (all : List δ)
    (told : List Event) : Prop where
  answer : (k.list directory).on w = (.ok all, w.told told)
  /-- An entry defines one thing or has one flaw, and not both. -/
  once : ∀ e, (∃! d, Good e d) ∧ (∀ f, ¬Bad e f) ∨ (∃! f, Bad e f) ∧ ∀ d, ¬Good e d
  /-- Definitions go by name, those of one name by path. -/
  listed : ∃ found : List (Files.Entry × δ), all = found.map Prod.snd ∧
    (∀ e d, (e, d) ∈ found ↔ Found Good w.files directory e d) ∧
    found.Pairwise fun x y => k.name x.2 < k.name y.2 ∨ k.name x.2 = k.name y.2 ∧ x.1.Before y.1
  /-- Warnings go by path. -/
  passed : ∃ faulty : List (Files.Entry × Failure),
    told = faulty.map (fun x => warning x.1 x.2) ∧
    (∀ e f, (e, f) ∈ faulty ↔ Found Bad w.files directory e f) ∧
    faulty.Pairwise fun x y => x.1.Before y.1
  /-- In a tree with the same definitions the list is the same, whatever else the tree holds. -/
  unhindered : ∀ w' : World σ, w'.files.Named →
    (∀ e d, Found Good w'.files directory e d ↔ Found Good w.files directory e d) →
    ((k.list directory).on w').1 = .ok all
  /-- In a tree with the same flaws the warnings are the same. -/
  undisturbed : ∀ w' : World σ, w'.files.Named →
    (∀ e f, Found Bad w'.files directory e f ↔ Found Bad w.files directory e f) →
    ((k.list directory).on w').2 = w'.told told

section Accounts

variable {k : DefinitionKind δ} {fs : Files} {directory : Path}

/-- The definitions of a directory beside their entries, in the order of the list. -/
def found (k : DefinitionKind δ) (fs : Files) (directory : Path) : List (Files.Entry × δ) :=
  ((candidates fs directory).filterMap fun e => (k.read e).toOption.map (e, ·)).mergeSort
    fun x y => decide (k.name x.2 ≤ k.name y.2)

/-- The entries of a directory that define nothing beside their flaws. -/
def faulty (k : DefinitionKind δ) (fs : Files) (directory : Path) : List (Files.Entry × Failure) :=
  (candidates fs directory).filterMap fun e =>
    match k.read e with
    | .ok _ => none
    | .error f => some (e, f)

theorem mem_found_iff {e : Files.Entry} {d : δ} :
    (e, d) ∈ k.found fs directory ↔ Candidate fs directory e ∧ k.read e = .ok d := by
  unfold found
  rw [(List.mergeSort_perm _ _).mem_iff, List.mem_filterMap]
  constructor
  · rintro ⟨e', he', h⟩
    obtain ⟨d', hd', h⟩ := Option.map_eq_some_iff.1 h
    cases h
    exact ⟨mem_candidates_iff.1 he', eq_ok_of_toOption_eq_some hd'⟩
  · rintro ⟨he, hd⟩
    exact ⟨e, mem_candidates_iff.2 he, by rw [hd]; rfl⟩

theorem mem_faulty_iff {e : Files.Entry} {f : Failure} :
    (e, f) ∈ k.faulty fs directory ↔ Candidate fs directory e ∧ k.read e = .error f := by
  unfold faulty
  rw [List.mem_filterMap]
  constructor
  · rintro ⟨e', he', h⟩
    cases hr : k.read e' with
    | ok d =>
      rw [hr] at h
      cases h
    | error f' =>
      rw [hr] at h
      cases h
      exact ⟨mem_candidates_iff.1 he', hr⟩
  · rintro ⟨he, hf⟩
    exact ⟨e, mem_candidates_iff.2 he, by rw [hf]⟩

theorem pairwise_found (k : DefinitionKind δ) (h : fs.Named) (directory : Path) :
    (k.found fs directory).Pairwise fun x y =>
      k.name x.2 < k.name y.2 ∨ k.name x.2 = k.name y.2 ∧ x.1.Before y.1 := by
  refine pairwise_sortByName (fun x : Files.Entry × δ => k.name x.2) (List.pairwise_filterMap.2 ?_)
  refine (pairwise_candidates h directory).imp fun {e e'} hbefore x hx y hy => ?_
  obtain ⟨d, -, rfl⟩ := Option.map_eq_some_iff.1 hx
  obtain ⟨d', -, rfl⟩ := Option.map_eq_some_iff.1 hy
  exact hbefore

theorem pairwise_faulty (k : DefinitionKind δ) (h : fs.Named) (directory : Path) :
    (k.faulty fs directory).Pairwise fun x y => x.1.Before y.1 := by
  refine List.pairwise_filterMap.2 ?_
  refine (pairwise_candidates h directory).imp fun {e e'} hbefore x hx y hy => ?_
  cases hr : k.read e with
  | ok d => simp [hr] at hx
  | error f =>
    cases hr' : k.read e' with
    | ok d => simp [hr'] at hy
    | error f' =>
      simp only [hr, hr', Option.some.injEq] at hx hy
      rw [← hx, ← hy]
      exact hbefore

/-- A listing gives what was found and one warning for each flaw. -/
theorem on_list_eq (k : DefinitionKind δ) (directory : Path) (w : World σ) :
    (k.list directory).on w = (.ok ((k.found w.files directory).map Prod.snd),
      w.told ((k.faulty w.files directory).map fun x => warning x.1 x.2)) := by
  have hall : (k.found w.files directory).map Prod.snd =
      (k.defined w.files directory).mergeSort fun a b => decide (k.name a ≤ k.name b) := by
    unfold found defined
    rw [List.map_mergeSort (s := fun a b => decide (k.name a ≤ k.name b)) fun _ _ _ _ => rfl,
      List.map_filterMap]
    congr 2
    funext e
    cases (k.read e).toOption <;> rfl
  have htold : ((k.faulty w.files directory).map fun x => warning x.1 x.2) =
      k.complaints w.files directory := by
    unfold faulty complaints
    rw [List.map_filterMap]
    congr 1
    funext e
    unfold complaint?
    cases k.read e <;> rfl
  rw [on_list, hall, htold]

/-- Two trees with the same definitions in a directory have the same list of them. -/
theorem found_congr {fs' : Files} (h : fs.Named) (h' : fs'.Named)
    (hsame : ∀ e d, (e, d) ∈ k.found fs' directory ↔ (e, d) ∈ k.found fs directory) :
    k.found fs' directory = k.found fs directory := by
  have hirrefl : Std.Irrefl fun x y : Files.Entry × δ =>
      k.name x.2 < k.name y.2 ∨ k.name x.2 = k.name y.2 ∧ x.1.Before y.1 := by
    refine ⟨fun x hx => ?_⟩
    rcases hx with hlt | ⟨-, hbefore⟩
    · exact String.lt_irrefl _ hlt
    · exact Files.Entry.Before.irrefl _ hbefore
  have hantisymm : Std.Antisymm fun x y : Files.Entry × δ =>
      k.name x.2 < k.name y.2 ∨ k.name x.2 = k.name y.2 ∧ x.1.Before y.1 := by
    refine ⟨fun x y hxy hyx => ?_⟩
    rcases hxy with hlt | ⟨heq, hbefore⟩
    · rcases hyx with hlt' | ⟨heq', -⟩
      · exact (String.lt_asymm hlt hlt').elim
      · rw [heq'] at hlt
        exact (String.lt_irrefl _ hlt).elim
    · rcases hyx with hlt' | ⟨-, hbefore'⟩
      · rw [heq] at hlt'
        exact (String.lt_irrefl _ hlt').elim
      · exact (hbefore.asymm hbefore').elim
  exact (k.pairwise_found h' directory).eq_of_mem_iff (k.pairwise_found h directory)
    fun x => hsame x.1 x.2

theorem faulty_congr {fs' : Files} (h : fs.Named) (h' : fs'.Named)
    (hsame : ∀ e f, (e, f) ∈ k.faulty fs' directory ↔ (e, f) ∈ k.faulty fs directory) :
    k.faulty fs' directory = k.faulty fs directory := by
  have hirrefl : Std.Irrefl fun x y : Files.Entry × Failure => x.1.Before y.1 :=
    ⟨fun x => Files.Entry.Before.irrefl x.1⟩
  have hantisymm : Std.Antisymm fun x y : Files.Entry × Failure => x.1.Before y.1 :=
    ⟨fun x y hxy hyx => (hxy.asymm hyx).elim⟩
  exact (k.pairwise_faulty h' directory).eq_of_mem_iff (k.pairwise_faulty h directory)
    fun x => hsame x.1 x.2

/-- A kind of definition whose reading is told by `Good` and `Bad` accounts for every entry. -/
theorem accounts {Good : Files.Entry → δ → Prop} {Bad : Files.Entry → Failure → Prop}
    (hgood : ∀ e d, k.read e = .ok d ↔ Good e d) (hbad : ∀ e f, k.read e = .error f ↔ Bad e f)
    (directory : Path) {w : World σ} (h : w.files.Named) :
    ∃ all told, k.Accounts Good Bad directory w all told := by
  have hfound : ∀ (fs : Files) (e : Files.Entry) (d : δ),
      (e, d) ∈ k.found fs directory ↔ Found Good fs directory e d := fun fs e d => by
    rw [mem_found_iff, hgood]
    rfl
  have hfaulty : ∀ (fs : Files) (e : Files.Entry) (f : Failure),
      (e, f) ∈ k.faulty fs directory ↔ Found Bad fs directory e f := fun fs e f => by
    rw [mem_faulty_iff, hbad]
    rfl
  refine ⟨_, _, k.on_list_eq directory w, ?once, ⟨_, rfl, hfound _, k.pairwise_found h directory⟩,
    ⟨_, rfl, hfaulty _, k.pairwise_faulty h directory⟩, ?unhindered, ?undisturbed⟩
  case once =>
    intro e
    simp only [← hgood, ← hbad]
    cases k.read e with
    | ok d => exact .inl ⟨⟨d, rfl, fun d' hd' => (Except.ok.inj hd').symm⟩, nofun⟩
    | error f => exact .inr ⟨⟨f, rfl, fun f' hf' => (Except.error.inj hf').symm⟩, nofun⟩
  case unhindered =>
    intro w' h' hsame
    rw [on_list_eq, found_congr h h' fun e d => by rw [hfound, hfound, hsame]]
  case undisturbed =>
    intro w' h' hsame
    rw [on_list_eq, faulty_congr h h' fun e f => by rw [hfaulty, hfaulty, hsame]]

end Accounts

end DefinitionKind

/-- A listing of a directory never fails. Each entry of the tree that is called like a definition, at any
depth, gives one definition of the list or, if it cannot be read or defines nothing, one warning, and
nothing else is listed or told. Definitions go by name and those of one name by path, warnings go by
path, and entries without a definition have no say in the list. -/
theorem listing_accounts_for_entries (directory : Path) {w : World σ} (h : w.files.Named) :
    (∃ all told,
      benchmarks.Accounts (fun e b => b.In e) Benchmark.Flaw directory w all told) ∧
    ∃ all told, targets.Accounts (fun e t => t.In e) Target.Flaw directory w all told :=
  ⟨DefinitionKind.accounts (fun _ _ => DefinitionKind.read_benchmark_eq_ok_iff)
      (fun _ _ => DefinitionKind.read_benchmark_eq_error_iff) directory h,
    DefinitionKind.accounts (fun _ _ => DefinitionKind.read_target_eq_ok_iff)
      (fun _ _ => DefinitionKind.read_target_eq_error_iff) directory h⟩

/-- A target below a directory that is called like a definition itself, beside a file that is no
text. -/
theorem listing_accounts_for_entries_of_nested_directory :
    let text : String := "name = \"t\"\nrun = [\"true\"]\n"
    let tree : Files := ⟨.ofList [(["conf"], .directory), (["conf", "d.toml"], .directory),
      (["conf", "d.toml", "t.toml"], .file (Text.Utf8.bytes text)),
      (["conf", "u.toml"], .file [0xFF])], []⟩
    let w : World Unit := ⟨tree, 0, [], ()⟩
    let t : Target := ⟨"t", .empty, none, none, none, none, none, some [.literal "true"]⟩
    let skipped (message : String) : Event :=
      ⟨.warning, "Skipping invalid definition " ++ message, none⟩
    tree.Named ∧ ∃ all told,
      targets.Accounts (fun e t => t.In e) Target.Flaw ⟨"conf"⟩ w all told ∧ t ∈ all ∧
      skipped "conf/d.toml: Failed to read file conf/d.toml: Is a directory (os error 21)" ∈ told ∧
      skipped ("conf/u.toml: Failed to read file conf/u.toml: " ++
        "stream did not contain valid UTF-8") ∈ told := by
  intro text tree w t skipped
  have hnamed : tree.Named := by decide +kernel
  have hlook : tree.look ⟨"conf"⟩ = .ok .directory := eq_ok_of_toOption_eq_some (by decide +kernel)
  have hshows : ∀ names node, names ≠ [] →
      tree.node? (tree.place ⟨"conf"⟩ ++ names) = some node →
      tree.Shows ⟨"conf"⟩ ⟨names.foldl Path.child ⟨"conf"⟩, node⟩ :=
    fun _ _ hne hnode => .below hlook hne hnode
  obtain ⟨-, all, told, hall⟩ := listing_accounts_for_entries ⟨"conf"⟩ (w := w) hnamed
  obtain ⟨found, hfound, hmem, -⟩ := hall.listed
  obtain ⟨faulty, hfaulty, hflaws, -⟩ := hall.passed
  refine ⟨hnamed, all, told, hall, ?_, ?_, ?_⟩
  · rw [hfound]
    have ht : t.In ⟨["d.toml", "t.toml"].foldl Path.child ⟨"conf"⟩,
        .file (Text.Utf8.bytes text)⟩ := by
      refine ⟨text, eq_ok_of_toOption_eq_some (by decide +kernel), by decide +kernel, ?_⟩
      exact Target.faultyStage?_eq_none_iff.1 (by decide)
    exact List.mem_map.2 ⟨_, (hmem _ _).2 ⟨⟨hshows _ _ (by decide) (by decide +kernel),
      by decide +kernel⟩, ht⟩, rfl⟩
  · rw [hfaulty]
    exact List.mem_map.2 ⟨(⟨["d.toml"].foldl Path.child ⟨"conf"⟩, .directory⟩, _), (hflaws _ _).2
      ⟨⟨hshows _ _ (by decide) (by decide +kernel), by decide +kernel⟩, .unreadable rfl⟩,
      by decide +kernel⟩
  · rw [hfaulty]
    have htext : Files.Node.text (.file [0xFF]) = .error .notUtf8 := by decide +kernel
    exact List.mem_map.2 ⟨(⟨["u.toml"].foldl Path.child ⟨"conf"⟩, .file [0xFF]⟩, _), (hflaws _ _).2
      ⟨⟨hshows _ _ (by decide) (by decide +kernel), by decide +kernel⟩, .unreadable htext⟩,
      by decide +kernel⟩

end BenchSweep
