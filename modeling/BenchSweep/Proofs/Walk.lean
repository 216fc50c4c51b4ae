import BenchSweep.Proofs.Directories
import BenchSweep.Proofs.OrderedMap

/-! Walks through a tree. The entries of a walk are the nodes below the place of its path, each under a
path that leads to it, as long as the names of the tree are names that a path can be made of. -/
set_option autoImplicit false

namespace BenchSweep

namespace Files

/-- A tree in which every node stands under names. -/
def Named (fs : Files) : Prop := ∀ l ∈ fs.nodes.keys, ∀ name ∈ l, Path.IsName name

instance (fs : Files) : Decidable fs.Named := by
  unfold Named
  infer_instance

variable {fs : Files} {p : Path} {place : Location} {names : List String} {node : Node}

theorem place_foldl_child (h : ∀ name ∈ names, Path.IsName name) (p : Path) :
    fs.place (names.foldl Path.child p) = fs.place p ++ names := by
  induction names generalizing p with
  | nil => exact (List.append_nil _).symm
  | cons name rest ih =>
    obtain ⟨⟨hpart, hdots⟩, hrest⟩ := List.forall_mem_cons.1 h
    rw [List.foldl_cons, ih hrest, fs.place_child p hpart hdots, List.append_assoc]
    rfl

theorem parts_foldl_child (h : ∀ name ∈ names, Path.IsName name) (p : Path) :
    (names.foldl Path.child p).parts = p.parts ++ names := by
  induction names generalizing p with
  | nil => exact (List.append_nil _).symm
  | cons name rest ih =>
    obtain ⟨⟨hpart, -⟩, hrest⟩ := List.forall_mem_cons.1 h
    rw [List.foldl_cons, ih hrest, Path.parts_child p hpart, List.append_assoc]
    rfl

/-- An entry below the start of a walk is called by the last of its names. -/
theorem fileName?_foldl_child (h : ∀ name ∈ names, Path.IsName name) (hne : names ≠ [])
    (p : Path) : (names.foldl Path.child p).fileName? = names.getLast? := by
  have hall : names.filter (· ≠ ".") = names :=
    List.filter_eq_self.2 fun name hname => by simpa using (h name hname).2.1
  have hlast : (names.foldl Path.child p).names.getLast? = names.getLast? := by
    unfold Path.names
    rw [parts_foldl_child h, List.filter_append, hall, List.getLast?_append_of_ne_nil _ hne]
  unfold Path.fileName?
  rw [hlast]
  cases hn : names.getLast? with
  | none => rfl
  | some name => exact if_neg (h name (List.mem_of_getLast? hn)).2.2

theorem start_foldl_child (h : ∀ name ∈ names, Path.IsName name) (fs : Files) (p : Path) :
    fs.start (names.foldl Path.child p) = fs.start p := by
  induction names generalizing p with
  | nil => rfl
  | cons name rest ih =>
    obtain ⟨⟨hpart, -⟩, hrest⟩ := List.forall_mem_cons.1 h
    rw [List.foldl_cons, ih hrest, start_child hpart]

/-- A path that leads somewhere further down leads to the directories above. -/
theorem leads_of_locate_foldl_child (h : ∀ name ∈ names, Path.IsName name) (hne : names ≠ [])
    (hl : fs.locate (names.foldl Path.child p) = .ok place) :
    fs.Leads (fs.start p) p.parts := by
  obtain ⟨init, last, rfl⟩ := List.eq_nil_or_concat' names |>.resolve_left hne
  obtain ⟨hinit, hlast⟩ := List.forall_mem_append.1 h
  obtain ⟨hpart, -⟩ := List.forall_mem_singleton.1 hlast
  rw [List.foldl_concat] at hl
  have hleads := leads_of_locate_child hpart hl
  rw [start_foldl_child hinit, parts_foldl_child hinit] at hleads
  exact hleads.of_append

/-- Below a path that has a fault every path has it, unless the fault is to be empty. -/
theorem pathFault?_of_foldl_child (h : ∀ name ∈ names, Path.IsName name) (hp : p.text ≠ "")
    (hf : pathFault? (names.foldl Path.child p) = none) : pathFault? p = none := by
  induction names generalizing p with
  | nil => exact hf
  | cons name rest ih =>
    obtain ⟨⟨hpart, -⟩, hrest⟩ := List.forall_mem_cons.1 h
    exact pathFault?_of_child hpart hp (ih hrest (Path.text_child_ne_empty p hpart) hf)

/-! ## Nodes below a place -/

theorem nodup_below (fs : Files) (place : Location) : ((fs.below place).map Prod.fst).Nodup := by
  unfold below
  rw [((List.mergeSort_perm _ _).map _).nodup_iff, List.map_map]
  refine List.Nodup.map_on ?_ (List.Nodup.of_map _ fs.nodes.distinct |>.filter _)
  rintro ⟨l, node⟩ hl ⟨l', node'⟩ hl' he
  obtain ⟨hmem, hcond⟩ := List.mem_filter.1 hl
  obtain ⟨hmem', hcond'⟩ := List.mem_filter.1 hl'
  rw [Bool.and_eq_true, List.isPrefixOf_iff_prefix] at hcond hcond'
  obtain ⟨⟨names, rfl⟩, -⟩ := hcond
  obtain ⟨⟨names', rfl⟩, -⟩ := hcond'
  have hnames : names = names' := by
    dsimp only [Function.comp_apply] at he
    rwa [List.drop_left, List.drop_left] at he
  rw [hnames] at hmem ⊢
  rw [OrderedMap.eq_of_mem_of_mem hmem hmem']

theorem mem_below_iff :
    (names, node) ∈ fs.below place ↔
      names ≠ [] ∧ fs.nodes.get? (place ++ names) = some node := by
  unfold below
  rw [(List.mergeSort_perm _ _).mem_iff, List.mem_map, OrderedMap.get?_eq_some_iff]
  constructor
  · rintro ⟨⟨l, n⟩, hl, he⟩
    obtain ⟨hmem, hcond⟩ := List.mem_filter.1 hl
    rw [Bool.and_eq_true, List.isPrefixOf_iff_prefix, decide_eq_true_iff] at hcond
    obtain ⟨⟨rest, rfl⟩, hne⟩ := hcond
    dsimp only at he
    rw [List.drop_left] at he
    cases he
    refine ⟨?_, hmem⟩
    rintro rfl
    exact hne (List.append_nil place)
  · rintro ⟨hne, hmem⟩
    refine ⟨(place ++ names, node), List.mem_filter.2 ⟨hmem, ?_⟩, ?_⟩
    · rw [Bool.and_eq_true, List.isPrefixOf_iff_prefix, decide_eq_true_iff]
      exact ⟨List.prefix_append _ _, fun h => hne (List.append_right_eq_self.1 h)⟩
    · dsimp only
      rw [List.drop_left]

/-- Nodes below a place stand in the order of the names that lead to them. -/
theorem pairwise_below (fs : Files) (place : Location) :
    (fs.below place).Pairwise fun a b => List.Lex (· < ·) a.1 b.1 := by
  have hsorted : (fs.below place).Pairwise fun a b => ¬b.1 < a.1 := by
    have hle : ∀ a b : List String × Node,
        (!List.lex b.1 a.1 fun x y => decide (x < y)) = true ↔ ¬b.1 < a.1 := by
      intro a b
      rw [Bool.not_eq_true', List.lex_eq_false_iff_ge]
      exact Iff.rfl
    refine (List.pairwise_mergeSort ?_ ?_ _).imp (hle _ _).1
    · intro a b c hab hbc
      exact (hle a c).2 (List.le_trans ((hle a b).1 hab) ((hle b c).1 hbc))
    · intro a b
      rw [Bool.or_eq_true, hle, hle]
      exact List.le_total a.1 b.1
  refine (hsorted.and (List.pairwise_map.1 (fs.nodup_below place))).imp ?_
  rintro a b ⟨hle, hne⟩
  exact (List.le_iff_lt_or_eq.1 hle).resolve_right hne

theorem Named.of_mem_below (h : fs.Named) (hm : (names, node) ∈ fs.below place) :
    ∀ name ∈ names, Path.IsName name := by
  have hkey : place ++ names ∈ fs.nodes.keys :=
    OrderedMap.mem_keys_iff.2 ⟨node, (mem_below_iff.1 hm).2⟩
  exact fun name hname => h _ hkey name (List.mem_append_right place hname)

/-! ## Entries of a walk -/

theorem find_eq_ok_iff :
    fs.find p = .ok (place, node) ↔ fs.locate p = .ok place ∧ fs.node? place = some node ∧
      (p.endsWithSlash = true → node = .directory) := by
  unfold find
  cases hl : fs.locate p with
  | error fault => simp [bind, Except.bind]
  | ok l =>
    simp only [bind, Except.bind, Except.ok.injEq]
    cases hn : fs.node? l with
    | none =>
      constructor
      · intro h
        cases h
      · rintro ⟨rfl, h, -⟩
        rw [hn] at h
        cases h
    | some n =>
      by_cases hslash : p.endsWithSlash = true ∧ n ≠ .directory
      · have hcond : (p.endsWithSlash && decide (n ≠ .directory)) = true := by simpa using hslash
        simp only [hcond, if_true]
        constructor
        · intro h
          cases h
        · rintro ⟨rfl, h, hd⟩
          rw [hn, Option.some.injEq] at h
          exact (hslash.2 (h ▸ hd hslash.1)).elim
      · have hcond : (p.endsWithSlash && decide (n ≠ .directory)) = false := by
          simpa using hslash
        simp only [hcond, Bool.false_eq_true, if_false, Except.ok.injEq, Prod.mk.injEq]
        constructor
        · rintro ⟨rfl, rfl⟩
          exact ⟨rfl, hn, by simpa using hslash⟩
        · rintro ⟨rfl, h, -⟩
          rw [hn, Option.some.injEq] at h
          exact ⟨rfl, h⟩

theorem find_eq_ok (h : fs.find p = .ok (place, node)) :
    place = fs.place p ∧ fs.node? place = some node := by
  obtain ⟨hl, hn, -⟩ := find_eq_ok_iff.1 h
  exact ⟨place_of_locate hl, hn⟩

theorem look_eq_ok (h : fs.look p = .ok node) : fs.node? (fs.place p) = some node := by
  unfold look at h
  cases hf : fs.find p with
  | error fault =>
    rw [hf] at h
    cases h
  | ok found =>
    obtain ⟨l, n⟩ := found
    rw [hf] at h
    cases h
    obtain ⟨rfl, hn⟩ := find_eq_ok hf
    exact hn

theorem find_of_leads (hf : pathFault? p = none) (h : fs.Leads (fs.start p) p.parts) :
    fs.find p = .ok (fs.place p, .directory) := by
  refine find_eq_ok_iff.2 ⟨?_, h.2, fun _ => rfl⟩
  unfold locate
  rw [hf]
  exact h.1

/-- A walk goes in the order of its paths. -/
theorem pairwise_walk (h : fs.Named) (p : Path) :
    (fs.walk p).Pairwise fun e e' => List.Lex (· < ·) e.path.parts e'.path.parts := by
  unfold walk
  split
  · exact .nil
  · rename_i place _
    have hparts : ∀ x ∈ fs.below place,
        (x.1.foldl Path.child p).parts = p.parts ++ x.1 := fun x hx =>
      parts_foldl_child (h.of_mem_below hx) p
    refine List.pairwise_cons.2 ⟨?_, List.pairwise_map.2 ?_⟩
    · intro e he
      obtain ⟨x, hx, rfl⟩ := List.mem_map.1 he
      dsimp only
      rw [hparts x hx]
      obtain ⟨name, rest, hnames⟩ := List.exists_cons_of_ne_nil (mem_below_iff.1 hx).1
      have hlt : p.parts ++ [] < p.parts ++ name :: rest := List.append_left_lt .nil
      rwa [List.append_nil, ← hnames] at hlt
    · refine (fs.pairwise_below place).imp_of_mem fun {a b} ha hb hlt => ?_
      dsimp only
      rw [hparts a ha, hparts b hb]
      exact List.append_left_lt hlt
  · exact List.pairwise_singleton _ _

/-- The path of an entry leads to its node. -/
theorem node?_of_mem_walk (h : fs.Named) {e : Entry} (he : e ∈ fs.walk p) :
    fs.node? (fs.place e.path) = some e.node := by
  unfold walk at he
  split at he
  · cases he
  · rename_i place hf
    obtain ⟨rfl, hd⟩ := find_eq_ok hf
    rcases List.mem_cons.1 he with rfl | he
    · exact hd
    · obtain ⟨⟨names, n⟩, hm, rfl⟩ := List.mem_map.1 he
      obtain ⟨hne, hget⟩ := mem_below_iff.1 hm
      dsimp only
      rw [place_foldl_child (h.of_mem_below hm)]
      unfold node?
      rw [if_neg (by simp [hne]), hget]
  · rename_i place n _ hf
    obtain ⟨rfl, hn⟩ := find_eq_ok hf
    rw [List.mem_singleton.1 he]
    exact hn

end Files

end BenchSweep
