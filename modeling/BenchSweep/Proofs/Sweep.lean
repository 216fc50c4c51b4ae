import BenchSweep.Override
import BenchSweep.Proofs.OrderedMap

/-! The points of a sweep. Each of them is a choice of one value from every override, put into the
declared values in the order of the overrides, so that of two overrides of one name the later counts
and no point has other names than the declared ones. -/
set_option autoImplicit false

namespace BenchSweep

namespace Override

/-- All choices of one value from each override, the first override varying slowest. -/
def choices : List Override → List (List Value)
  | [] => [[]]
  | o :: rest => o.values.flatMap fun v => (choices rest).map (v :: ·)

/-- The values put in under the names of the overrides, one after the other. -/
def choose (base : Params) : List Override → List Value → Params
  | o :: rest, v :: vs => choose (base.insert o.name v) rest vs
  | _, _ => base

/-- The overrides with the chosen value as their only one. -/
def fixed (os : List Override) (vs : List Value) : List Override :=
  os.zipWith (fun o v => ⟨o.name, [v]⟩) vs

theorem keys_insert_of_contains {base : Params} {name : String} (h : base.contains name = true)
    (v : Value) : (base.insert name v).keys = base.keys := by
  rw [OrderedMap.keys_insert, if_pos ((base.contains_eq_true_iff name).1 h)]

theorem keys_choose {base : Params} {os : List Override}
    (h : ∀ o ∈ os, base.contains o.name = true) (vs : List Value) :
    (choose base os vs).keys = base.keys := by
  induction os generalizing base vs with
  | nil => rfl
  | cons o rest ih =>
    cases vs with
    | nil => rfl
    | cons v vs =>
      obtain ⟨ho, hrest⟩ := List.forall_mem_cons.1 h
      have hk := keys_insert_of_contains ho v
      have hnext : ∀ o' ∈ rest, (base.insert o.name v).contains o'.name = true := by
        intro o' ho'
        rw [OrderedMap.contains_eq_true_iff, hk, ← OrderedMap.contains_eq_true_iff]
        exact hrest o' ho'
      exact (ih hnext vs).trans hk

/-! ## Choices -/

theorem mem_choices {os : List Override} {vs : List Value} :
    vs ∈ choices os ↔ List.Forall₂ (fun v o => v ∈ o.values) vs os := by
  induction os generalizing vs with
  | nil => simp [choices]
  | cons o rest ih =>
    simp only [choices, List.mem_flatMap, List.mem_map, ih, List.forall₂_cons_right_iff]
    constructor
    · rintro ⟨v, hv, vs', h, rfl⟩
      exact ⟨v, vs', hv, h, rfl⟩
    · rintro ⟨v, vs', hv, h, rfl⟩
      exact ⟨v, hv, vs', h, rfl⟩

theorem choices_fixed {os : List Override} {vs : List Value} (h : vs ∈ choices os) :
    choices (fixed os vs) = [vs] := by
  induction mem_choices.1 h with
  | nil => rfl
  | @cons v o vs os hv hvs ih =>
    change [v].flatMap (fun v => (choices (fixed os vs)).map (v :: ·)) = _
    rw [ih (mem_choices.2 hvs)]
    rfl

theorem choose_fixed (base : Params) {os : List Override} {vs : List Value}
    (h : vs ∈ choices os) : choose base (fixed os vs) vs = choose base os vs := by
  induction mem_choices.1 h generalizing base with
  | nil => rfl
  | @cons v o vs os hv hvs ih => exact ih _ (mem_choices.2 hvs)

theorem choices_ne_nil {os : List Override} (h : ∀ o ∈ os, o.values ≠ []) : choices os ≠ [] := by
  induction os with
  | nil => exact List.cons_ne_nil _ _
  | cons o rest ih =>
    obtain ⟨ho, hrest⟩ := List.forall_mem_cons.1 h
    obtain ⟨v, hv⟩ := List.exists_mem_of_ne_nil _ ho
    obtain ⟨vs, hvs⟩ := List.exists_mem_of_ne_nil _ (ih hrest)
    rw [mem_choices] at hvs
    exact List.ne_nil_of_mem (mem_choices.2 (.cons hv hvs))

theorem names_fixed {os : List Override} {vs : List Value} (h : vs ∈ choices os) :
    (fixed os vs).map Override.name = os.map Override.name := by
  induction mem_choices.1 h with
  | nil => rfl
  | @cons v o vs os hv hvs ih => exact congrArg (o.name :: ·) (ih (mem_choices.2 hvs))

/-! ## Values at a choice -/

/-- The value chosen for the last override of this name. -/
def last? (os : List Override) (vs : List Value) (name : String) : Option Value :=
  ((os.zip vs).reverse.find? fun (o, _) => o.name = name).map Prod.snd

/-- The value of a parameter where these values are chosen for the overrides. -/
def effective (base : Params) (os : List Override) (vs : List Value) (name : String) :
    Option Value :=
  last? os vs name <|> base.get? name

theorem last?_cons (o : Override) (os : List Override) (v : Value) (vs : List Value)
    (name : String) :
    last? (o :: os) (v :: vs) name =
      (last? os vs name <|> if name = o.name then some v else none) := by
  unfold last?
  rw [List.zip_cons_cons, List.reverse_cons, List.find?_append]
  cases (os.zip vs).reverse.find? fun (o, _) => o.name = name with
  | some found => simp
  | none =>
    by_cases hn : name = o.name
    · simp [hn]
    · have hn' : ¬o.name = name := fun e => hn e.symm
      simp [hn, hn']

/-- Choices put in one after the other leave the last of each name. -/
theorem get?_choose (base : Params) (os : List Override) (vs : List Value) (name : String) :
    (choose base os vs).get? name = effective base os vs name := by
  unfold effective
  induction os generalizing base vs with
  | nil => simp [choose, last?]
  | cons o rest ih =>
    cases vs with
    | nil => simp [choose, last?]
    | cons v vs =>
      rw [choose, ih, last?_cons, OrderedMap.get?_insert]
      cases last? rest vs name with
      | some found => simp
      | none => by_cases hn : name = o.name <;> simp [hn]

end Override

open Override

/-! ## Points -/

/-- The points with an override more. -/
def Override.widen (base : Params) (points : List Params) (o : Override) :
    Except Failure (List Params) :=
  if base.contains o.name then .ok (o.spread points) else .error (.unknownParameter o.name)

theorem spread_flatMap_choices (o : Override) (rest : List Override) (points : List Params) :
    ((o.spread points).flatMap fun point => (choices rest).map (choose point rest)) =
      points.flatMap fun point => (choices (o :: rest)).map (choose point (o :: rest)) := by
  unfold spread
  rw [List.flatMap_assoc]
  refine List.flatMap_congr fun point _ => ?_
  rw [choices, List.flatMap_map, List.map_flatMap]
  refine List.flatMap_congr fun v _ => ?_
  rw [List.map_map]
  rfl

theorem foldlM_widen_eq_ok_iff {base : Params} {os : List Override} {start points : List Params} :
    os.foldlM (widen base) start = .ok points ↔
      (∀ o ∈ os, base.contains o.name = true) ∧
        points = start.flatMap fun point => (choices os).map (choose point os) := by
  induction os generalizing start with
  | nil =>
    have hstart : (start.flatMap fun point => (choices []).map (choose point [])) = start :=
      List.flatMap_singleton' start
    rw [hstart]
    constructor
    · intro h
      cases h
      exact ⟨by simp, rfl⟩
    · rintro ⟨-, rfl⟩
      rfl
  | cons o rest ih =>
    rw [List.foldlM_cons, List.forall_mem_cons, ← spread_flatMap_choices]
    unfold widen
    cases ho : base.contains o.name with
    | false => simp [bind, Except.bind]
    | true => exact ih.trans (by simp)

/-- A sweep has points if every override names a declared parameter, one for each choice. -/
theorem sweep_eq_ok_iff {base : Params} {os : List Override} {points : List Params} :
    sweep base os = .ok points ↔
      (∀ o ∈ os, base.contains o.name = true) ∧ points = (choices os).map (choose base os) := by
  have h : sweep base os = os.foldlM (widen base) [base] := rfl
  rw [h, foldlM_widen_eq_ok_iff, List.flatMap_singleton]

theorem keys_of_mem_sweep {base : Params} {os : List Override} {points : List Params}
    (h : sweep base os = .ok points) {point : Params} (hp : point ∈ points) :
    point.keys = base.keys := by
  obtain ⟨hnames, rfl⟩ := sweep_eq_ok_iff.1 h
  obtain ⟨vs, -, rfl⟩ := List.mem_map.1 hp
  exact keys_choose hnames vs

theorem sweep_ne_nil {base : Params} {os : List Override} {points : List Params}
    (h : sweep base os = .ok points) (hvalues : ∀ o ∈ os, o.values ≠ []) : points ≠ [] := by
  obtain ⟨-, rfl⟩ := sweep_eq_ok_iff.1 h
  exact mt List.map_eq_nil_iff.1 (choices_ne_nil hvalues)

/-- An override that was read has a value. -/
theorem Override.values_ne_nil_of_ofText {raw : String} {o : Override} (h : ofText raw = .ok o) :
    o.values ≠ [] := by
  unfold ofText at h
  split at h
  · cases h
  · dsimp only at h
    split at h
    · cases h
    · cases h
      exact mt List.map_eq_nil_iff.1 (Text.splitWhere_ne_nil _ _)

/-- A point is the only one of the sweep in which its choice is fixed. -/
theorem sweep_fixed {base : Params} {os : List Override} {points : List Params}
    (h : sweep base os = .ok points) {vs : List Value} (hv : vs ∈ choices os) :
    sweep base (fixed os vs) = .ok [choose base os vs] := by
  obtain ⟨hnames, -⟩ := sweep_eq_ok_iff.1 h
  rw [sweep_eq_ok_iff, choices_fixed hv, List.map_singleton, choose_fixed base hv]
  refine ⟨fun o ho => ?_, rfl⟩
  have hname := List.mem_map_of_mem (f := Override.name) ho
  rw [names_fixed hv] at hname
  obtain ⟨o', ho', he⟩ := List.mem_map.1 hname
  rw [← he]
  exact hnames o' ho'

end BenchSweep
