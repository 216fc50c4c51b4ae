import BenchSweep.Proofs.Steps
import BenchSweep.Proofs.Sweep
import Mathlib.Algebra.Group.Nat.Defs

/-! The order of the points of a sweep. With the numbers of values as radices and the first override
as the most significant place, the digits of a position say which value each override gives to the
point there. -/
set_option autoImplicit false

namespace BenchSweep

namespace Override

/-! ## Digits -/

/-- How many choices there are. -/
def combinations (os : List Override) : Nat := (os.map fun o => o.values.length).prod

/-- The digits of a position, the most significant one first. -/
def digits : List Override → Nat → List Nat
  | [], _ => []
  | _ :: rest, i => i / combinations rest :: digits rest (i % combinations rest)

/-- The position that digits stand for. -/
def position : List Override → List Nat → Nat
  | _ :: rest, d :: ds => d * combinations rest + position rest ds
  | _, _ => 0

/-- Each digit picks a value of its override. -/
inductive Picks : List Override → List Nat → List Value → Prop where
  | nil : Picks [] [] []
  | cons {o : Override} {rest : List Override} {d : Nat} {ds : List Nat} {v : Value}
      {vs : List Value} : o.values[d]? = some v → Picks rest ds vs →
      Picks (o :: rest) (d :: ds) (v :: vs)

theorem combinations_cons (o : Override) (rest : List Override) :
    combinations (o :: rest) = o.values.length * combinations rest := by
  simp [combinations]

theorem position_digits {os : List Override} {i : Nat} (hi : i < combinations os) :
    position os (digits os i) = i := by
  induction os generalizing i with
  | nil =>
    have h : i = 0 := Nat.lt_one_iff.1 hi
    rw [h]
    rfl
  | cons o rest ih =>
    rw [combinations_cons] at hi
    have hn : 0 < combinations rest := Nat.pos_of_lt_mul_left hi
    rw [digits, position, ih (Nat.mod_lt i hn), Nat.mul_comm]
    exact Nat.div_add_mod i (combinations rest)

theorem Picks.position_lt {os : List Override} {ds : List Nat} {vs : List Value}
    (h : Picks os ds vs) : position os ds < combinations os := by
  induction h with
  | nil => exact Nat.one_pos
  | @cons o rest d ds v vs hv _ ih =>
    have hd : d < o.values.length := (List.getElem?_eq_some_iff.1 hv).1
    have hm := Nat.mul_le_mul_right (combinations rest) (Nat.succ_le_of_lt hd)
    rw [Nat.succ_mul] at hm
    rw [combinations_cons, position]
    omega

/-- No other digits stand for the position. -/
theorem Picks.digits_position {os : List Override} {ds : List Nat} {vs : List Value}
    (h : Picks os ds vs) : digits os (position os ds) = ds := by
  induction h with
  | nil => rfl
  | @cons o rest d ds v vs _ hrest ih =>
    have hlt := hrest.position_lt
    have hn : 0 < combinations rest := by omega
    rw [position, digits, Nat.mul_comm d, Nat.mul_add_div hn, Nat.div_eq_of_lt hlt,
      Nat.mul_add_mod, Nat.mod_eq_of_lt hlt, ih, Nat.add_zero]

theorem Picks.unique {os : List Override} {ds : List Nat} {vs vs' : List Value}
    (h : Picks os ds vs) (h' : Picks os ds vs') : vs = vs' := by
  induction h generalizing vs' with
  | nil =>
    cases h'
    rfl
  | cons hv _ ih =>
    cases h' with
    | cons hv' hrest' => rw [Option.some.inj (hv.symm.trans hv'), ih hrest']

/-! ## Choices in order -/

/-- In blocks of one length the quotient finds the block and the remainder the place in it. -/
theorem getElem?_flatMap_of_length {α β : Type} {l : List α} {f : α → List β} {n : Nat}
    (hf : ∀ a ∈ l, (f a).length = n) (hn : 0 < n) (i : Nat) :
    (l.flatMap f)[i]? = l[i / n]?.bind fun a => (f a)[i % n]? := by
  induction l generalizing i with
  | nil => simp
  | cons a l ih =>
    have ha : (f a).length = n := hf a List.mem_cons_self
    have hl := ih fun b hb => hf b (List.mem_cons_of_mem a hb)
    rw [List.flatMap_cons]
    by_cases h : i < n
    · rw [List.getElem?_append_left (by rw [ha]; exact h), Nat.div_eq_of_lt h, Nat.mod_eq_of_lt h]
      rfl
    · obtain ⟨j, rfl⟩ := Nat.exists_eq_add_of_le (Nat.le_of_not_lt h)
      have hj : n + j - n = j := by omega
      rw [List.getElem?_append_right (by omega), ha, hj, hl j, Nat.add_div_left j hn,
        Nat.add_mod_left, List.getElem?_cons_succ]

theorem length_choices (os : List Override) : (choices os).length = combinations os := by
  induction os with
  | nil => rfl
  | cons o rest ih =>
    rw [choices, List.length_flatMap, combinations_cons]
    simp [ih]

/-- The digits of a position pick the choice that stands there. -/
theorem exists_picks {os : List Override} {i : Nat} (hi : i < combinations os) :
    ∃ vs, Picks os (digits os i) vs ∧ (choices os)[i]? = some vs := by
  induction os generalizing i with
  | nil =>
    have h0 : i = 0 := Nat.lt_one_iff.1 hi
    subst h0
    exact ⟨[], .nil, rfl⟩
  | cons o rest ih =>
    rw [combinations_cons] at hi
    have hn : 0 < combinations rest := Nat.pos_of_lt_mul_left hi
    obtain ⟨vs, hvs, hget⟩ := ih (Nat.mod_lt i hn)
    have hd : i / combinations rest < o.values.length := (Nat.div_lt_iff_lt_mul hn).2 hi
    have hv : o.values[i / combinations rest]? = some o.values[i / combinations rest] :=
      List.getElem?_eq_getElem hd
    refine ⟨_, .cons hv hvs, ?_⟩
    rw [choices, getElem?_flatMap_of_length (n := combinations rest) _ hn, hv, Option.bind_some,
      List.getElem?_map, hget]
    · rfl
    · intro v _
      rw [List.length_map, length_choices]

/-! ## Names -/

theorem last?_of_not_mem {os : List Override} {vs : List Value} {name : String}
    (h : name ∉ os.map Override.name) : last? os vs name = none := by
  induction os generalizing vs with
  | nil => rfl
  | cons o rest ih =>
    rw [List.map_cons, List.mem_cons, not_or] at h
    cases vs with
    | nil => rfl
    | cons v vs => rw [last?_cons, ih h.2, if_neg h.1]; rfl

theorem get?_choose_of_not_mem {os : List Override} {name : String}
    (h : name ∉ os.map Override.name) (base : Params) (vs : List Value) :
    (choose base os vs).get? name = base.get? name := by
  rw [get?_choose, effective, last?_of_not_mem h]
  rfl

/-! ## Points apart -/

/-- Somewhere the two points have values that are apart. -/
def Differ (apart : Value → Value → Prop) (p q : Params) : Prop :=
  ∃ name v w, p.get? name = some v ∧ q.get? name = some w ∧ apart v w

theorem Differ.ne {p q : Params} (h : Differ (· ≠ ·) p q) : p ≠ q := by
  rintro rfl
  obtain ⟨name, v, w, hv, hw, hne⟩ := h
  rw [hv, Option.some.injEq] at hw
  exact hne hw

/-- Where every override has a name of its own, the first digit that two positions do not share makes
the points there differ. -/
theorem pairwise_differ {apart : Value → Value → Prop} {os : List Override}
    (hnames : (os.map Override.name).Nodup) (hvalues : ∀ o ∈ os, o.values.Pairwise apart)
    (base : Params) : ((choices os).map (choose base os)).Pairwise (Differ apart) := by
  induction os generalizing base with
  | nil => exact List.pairwise_singleton _ _
  | cons o rest ih =>
    rw [List.map_cons, List.nodup_cons] at hnames
    obtain ⟨ho, hrest⟩ := List.forall_mem_cons.1 hvalues
    have hblocks : (choices (o :: rest)).map (choose base (o :: rest)) =
        o.values.flatMap fun v => (choices rest).map (choose (base.insert o.name v) rest) := by
      rw [choices, List.map_flatMap]
      refine List.flatMap_congr fun v _ => ?_
      rw [List.map_map]
      rfl
    have hfirst : ∀ v, ∀ p ∈ (choices rest).map (choose (base.insert o.name v) rest),
        p.get? o.name = some v := by
      intro v p hp
      obtain ⟨vs, -, rfl⟩ := List.mem_map.1 hp
      rw [get?_choose_of_not_mem hnames.1, OrderedMap.get?_insert, if_pos rfl]
    rw [hblocks, List.pairwise_flatMap]
    constructor
    · intro v _
      exact ih hnames.2 hrest _
    · refine ho.imp ?_
      intro v w hvw p hp q hq
      exact ⟨o.name, v, w, hfirst v p hp, hfirst w q hq, hvw⟩

end Override

open Override

/-! ## The sweep -/

theorem foldlM_widen_eq_error_iff {base : Params} {os : List Override} {start : List Params}
    {f : Failure} :
    os.foldlM (widen base) start = .error f ↔
      ∃ o, os.find? (fun o => !base.contains o.name) = some o ∧ f = .unknownParameter o.name := by
  induction os generalizing start with
  | nil =>
    constructor
    · intro h
      cases h
    · rintro ⟨o, ho, -⟩
      cases ho
  | cons o rest ih =>
    rw [List.foldlM_cons, List.find?_cons]
    unfold widen
    cases ho : base.contains o.name with
    | true => exact ih
    | false =>
      constructor
      · intro h
        cases h
        exact ⟨o, rfl, rfl⟩
      · rintro ⟨o', ho', rfl⟩
        cases ho'
        rfl

/-- A sweep fails with the first override whose name is not declared, and only then. Otherwise there is
a point for each combination of values. The point at a position has, put in one after the other, the
values that the digits of the position pick: it keeps the declared names in their order and every value
that no override names, and of several overrides of one name the last decides. If the overrides have
different names, points are apart as soon as values of one override are, whatever it means to be apart.
Overrides that were read leave at least one point. -/
theorem sweep_is_ordered_product (base : Params) (os : List Override) :
    (∀ f, sweep base os = .error f ↔
      ∃ o, os.find? (fun o => !base.contains o.name) = some o ∧ f = .unknownParameter o.name) ∧
    ((∀ o ∈ os, base.contains o.name = true) → ∃ points, sweep base os = .ok points ∧
      points.length = (os.map fun o => o.values.length).prod ∧
      (∀ i < points.length, position os (digits os i) = i ∧
        (∀ ds vs, Picks os ds vs → position os ds = i → ds = digits os i) ∧
        ∃ vs, Picks os (digits os i) vs ∧ points[i]? = some (choose base os vs) ∧
          ∀ name, (choose base os vs).get? name = (last? os vs name <|> base.get? name)) ∧
      (∀ point ∈ points, point.keys = base.keys ∧
        ∀ name, name ∉ os.map Override.name → point.get? name = base.get? name) ∧
      ((os.map Override.name).Nodup → (∀ o ∈ os, o.values.Nodup) → points.Nodup) ∧
      (∀ apart : Value → Value → Prop, (os.map Override.name).Nodup →
        (∀ o ∈ os, o.values.Pairwise apart) → points.Pairwise (Differ apart)) ∧
      ((∀ o ∈ os, ∃ raw, ofText raw = .ok o) → points ≠ [])) := by
  refine ⟨fun f => foldlM_widen_eq_error_iff, ?_⟩
  intro hnames
  have hsweep : sweep base os = .ok ((choices os).map (choose base os)) :=
    sweep_eq_ok_iff.2 ⟨hnames, rfl⟩
  have hlength : ((choices os).map (choose base os)).length = combinations os := by
    rw [List.length_map, length_choices]
  refine ⟨_, hsweep, hlength, ?_, ?_, ?_, ?_, ?_⟩
  · intro i hi
    rw [hlength] at hi
    obtain ⟨vs, hvs, hget⟩ := exists_picks hi
    refine ⟨position_digits hi, ?_, vs, hvs, ?_, get?_choose base os vs⟩
    · rintro ds vs' hds rfl
      exact hds.digits_position.symm
    · rw [List.getElem?_map, hget]
      rfl
  · intro point hpoint
    refine ⟨keys_of_mem_sweep hsweep hpoint, ?_⟩
    intro name hname
    obtain ⟨vs, -, rfl⟩ := List.mem_map.1 hpoint
    exact get?_choose_of_not_mem hname base vs
  · intro hn hv
    exact (pairwise_differ hn hv base).imp Differ.ne
  · intro apart hn hv
    exact pairwise_differ hn hv base
  · intro hread
    refine sweep_ne_nil hsweep fun o ho => ?_
    obtain ⟨raw, hraw⟩ := hread o ho
    exact values_ne_nil_of_ofText hraw

/-- The fifth of six points, where one parameter is overridden twice, and four points of overrides that
were read. -/
theorem sweep_is_ordered_product_of_repeated_name :
    let base : Params := .ofList
      [("depth", .integer 1), ("mode", .text "a"), ("seed", .bool true)]
    let os : List Override := [⟨"depth", [.integer 2, .integer 3]⟩, ⟨"mode", [.text "x"]⟩,
      ⟨"depth", [.integer 4, .integer 5, .integer 6]⟩]
    let os' : List Override := [⟨"depth", [.integer 2, .integer 3]⟩,
      ⟨"mode", [.text "x", .text "y"]⟩]
    let point : Params := .ofList
      [("depth", .integer 5), ("mode", .text "x"), ("seed", .bool true)]
    (∃ points, sweep base os = .ok points ∧ points.length = 6 ∧ points[4]? = some point) ∧
      ∃ points, sweep base os' = .ok points ∧ points.Nodup ∧ points ≠ [] := by
  intro base os os' point
  obtain ⟨-, h⟩ := sweep_is_ordered_product base os
  obtain ⟨points, hpoints, hlength, hplace, -⟩ := h (by decide)
  obtain ⟨-, -, vs, hvs, hget, -⟩ := hplace 4 (by rw [hlength]; decide)
  obtain ⟨-, h'⟩ := sweep_is_ordered_product base os'
  obtain ⟨points', hpoints', -, -, -, hnodup, -, hread⟩ := h' (by decide)
  refine ⟨⟨points, hpoints, hlength, ?_⟩, points', hpoints', hnodup (by decide) (by decide),
    hread ?_⟩
  · have hpicks : Picks os [1, 0, 1] [.integer 3, .text "x", .integer 5] :=
      .cons rfl (.cons rfl (.cons rfl .nil))
    rw [hget, hvs.unique hpicks]
    decide
  · simp only [os', List.forall_mem_cons]
    exact ⟨⟨"depth=2,3", eq_ok_of_toOption_eq_some (by decide +kernel)⟩,
      ⟨"mode=x,y", eq_ok_of_toOption_eq_some (by decide +kernel)⟩, by simp⟩

end BenchSweep
