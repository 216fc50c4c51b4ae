import BenchSweep.Collection
import BenchSweep.Proofs.OrderedMap
import Mathlib.Data.List.Induction

/-! First appearances. `firsts` loses no element of a list, repeats none and keeps the order in which
they come first. The keys of a map that is made of pairs and the columns of a table that is made of
rows are first appearances. -/
set_option autoImplicit false

namespace BenchSweep

open scoped List

variable {α : Type} [DecidableEq α]

/-! ## Elements at their first places -/

/-- An element more at the end is a first appearance unless it came before. -/
theorem firsts_concat (xs : List α) (x : α) :
    firsts (xs ++ [x]) = if x ∈ firsts xs then firsts xs else firsts xs ++ [x] := by
  unfold firsts
  rw [List.foldl_concat]

theorem mem_firsts_iff {xs : List α} {x : α} : x ∈ firsts xs ↔ x ∈ xs := by
  induction xs using List.reverseRecOn with
  | nil => exact Iff.rfl
  | append_singleton xs y ih =>
    rw [firsts_concat, List.mem_append, ← ih, List.mem_singleton]
    split
    · rename_i hy
      exact ⟨.inl, fun h => h.elim id fun e => e ▸ hy⟩
    · rw [List.mem_append, List.mem_singleton]

theorem nodup_firsts (xs : List α) : (firsts xs).Nodup := by
  induction xs using List.reverseRecOn with
  | nil => exact List.nodup_nil
  | append_singleton xs x ih =>
    rw [firsts_concat]
    split
    · exact ih
    · rename_i hx
      refine List.nodup_append'.2 ⟨ih, List.nodup_singleton x, ?_⟩
      exact List.disjoint_singleton.2 hx

theorem firsts_replicate (n : Nat) (x : α) : firsts (List.replicate (n + 1) x) = [x] := by
  induction n with
  | zero => rfl
  | succ n ih => rw [List.replicate_succ', firsts_concat, ih, if_pos (List.mem_singleton_self x)]

/-- The first place of an element is before every other. -/
theorem idxOf_le_of_getElem? {xs : List α} {i : Nat} {x : α} (h : xs[i]? = some x) :
    xs.idxOf x ≤ i := by
  obtain ⟨hi, hx⟩ := List.getElem?_eq_some_iff.1 h
  refine Nat.le_of_not_lt fun hlt => ?_
  have hne := List.not_of_lt_findIdx (p := (· == x)) hlt
  simp [hx] at hne

/-- First appearances stand in the order of their places. -/
theorem pairwise_firsts (xs : List α) :
    (firsts xs).Pairwise fun x y => xs.idxOf x < xs.idxOf y := by
  induction xs using List.reverseRecOn with
  | nil => exact .nil
  | append_singleton xs z ih =>
    have hold : (firsts xs).Pairwise fun x y => (xs ++ [z]).idxOf x < (xs ++ [z]).idxOf y := by
      refine ih.imp_of_mem fun hx hy h => ?_
      rwa [List.idxOf_append_of_mem (mem_firsts_iff.1 hx),
        List.idxOf_append_of_mem (mem_firsts_iff.1 hy)]
    rw [firsts_concat]
    split
    · exact hold
    · rename_i hz
      rw [mem_firsts_iff] at hz
      refine List.pairwise_append.2 ⟨hold, List.pairwise_singleton _ z, ?_⟩
      intro x hx y hy
      rw [List.mem_singleton.1 hy, List.idxOf_append_of_mem (mem_firsts_iff.1 hx),
        List.idxOf_append_of_notMem hz]
      exact Nat.lt_add_right _ (List.idxOf_lt_length_iff.2 (mem_firsts_iff.1 hx))

theorem getElem?_concat_cases {γ : Type} {xs : List γ} {x z : γ} {i : Nat}
    (h : (xs ++ [x])[i]? = some z) : xs[i]? = some z ∨ i = xs.length ∧ x = z := by
  rcases Nat.lt_or_ge i xs.length with hi | hi
  · exact .inl (List.getElem?_append_left hi ▸ h)
  · rw [List.getElem?_append_right hi, List.getElem?_singleton] at h
    split at h
    · exact .inr ⟨by omega, Option.some.inj h⟩
    · cases h

/-- First appearances of values are those of some elements in their order, and no element comes before
the one of these that has its value. -/
theorem exists_sublist_firsts {γ : Type} (f : γ → α) (xs : List γ) :
    ∃ ys, ys <+ xs ∧ ys.map f = firsts (xs.map f) ∧
      ∀ (i : Nat) (x : γ), xs[i]? = some x → ∃ j ≤ i, ∃ y ∈ ys, xs[j]? = some y ∧ f y = f x := by
  induction xs using List.reverseRecOn with
  | nil => exact ⟨[], .slnil, rfl, fun i x h => by cases h⟩
  | append_singleton xs x ih =>
    obtain ⟨ys, hsub, hmap, hfirst⟩ := ih
    have hold : ∀ (i : Nat) (z : γ), xs[i]? = some z →
        ∃ j ≤ i, ∃ y ∈ ys, (xs ++ [x])[j]? = some y ∧ f y = f z := by
      intro i z hz
      obtain ⟨j, hj, y, hy, hget, hf⟩ := hfirst i z hz
      refine ⟨j, hj, y, hy, ?_, hf⟩
      rwa [List.getElem?_append_left (List.getElem?_eq_some_iff.1 hget).1]
    rw [List.map_append, List.map_singleton, firsts_concat, ← hmap]
    split
    · rename_i hx
      refine ⟨ys, hsub.trans (List.sublist_append_left _ _), rfl, fun i z hz => ?_⟩
      rcases getElem?_concat_cases hz with hz | ⟨rfl, rfl⟩
      · exact hold i z hz
      · obtain ⟨y, hy, hf⟩ := List.mem_map.1 hx
        obtain ⟨j, hj⟩ := List.mem_iff_getElem?.1 (hsub.mem hy)
        obtain ⟨j', hle, h⟩ := hold j y hj
        rw [hf] at h
        exact ⟨j', Nat.le_trans hle (Nat.le_of_lt (List.getElem?_eq_some_iff.1 hj).1), h⟩
    · refine ⟨ys ++ [x], hsub.append (.refl _), by simp, fun i z hz => ?_⟩
      rcases getElem?_concat_cases hz with hz | ⟨rfl, rfl⟩
      · obtain ⟨j, hj, y, hy, h⟩ := hold i z hz
        exact ⟨j, hj, y, List.mem_append_left _ hy, h⟩
      · exact ⟨_, Nat.le_refl _, x, by simp, by simp, rfl⟩

theorem firsts_perm {xs ys : List α} (h : xs.Perm ys) : (firsts xs).Perm (firsts ys) := by
  rw [List.perm_ext_iff_of_nodup (nodup_firsts xs) (nodup_firsts ys)]
  intro x
  rw [mem_firsts_iff, mem_firsts_iff, h.mem_iff]

/-- Of different elements put behind others those are first appearances that did not come before. -/
theorem firsts_append {ys : List α} (h : ys.Nodup) (xs : List α) :
    firsts (xs ++ ys) = firsts xs ++ ys.filter (· ∉ firsts xs) := by
  induction ys using List.reverseRecOn with
  | nil => simp
  | append_singleton ys y ih =>
    obtain ⟨hys, -, hy⟩ := List.nodup_append'.1 h
    rw [List.disjoint_singleton] at hy
    rw [← List.append_assoc, firsts_concat, ih hys, List.filter_append]
    by_cases hm : y ∈ firsts xs
    · simp [hm]
    · simp [hm, hy]

namespace OrderedMap

variable {β : Type}

theorem ofList_concat (pairs : List (α × β)) (p : α × β) :
    ofList (pairs ++ [p]) = (ofList pairs).insert p.1 p.2 := by
  unfold ofList
  rw [List.foldl_concat]

/-- The keys of pairs stand in the order in which they come first. -/
theorem keys_ofList (pairs : List (α × β)) :
    (ofList pairs).keys = firsts (pairs.map Prod.fst) := by
  induction pairs using List.reverseRecOn with
  | nil => rfl
  | append_singleton pairs p ih =>
    rw [ofList_concat, keys_insert, ih, List.map_append, List.map_singleton, firsts_concat]

/-- Of pairs with one key the last counts. -/
theorem get?_ofList {before after : List (α × β)} {key : α} {value : β}
    (h : key ∉ after.map Prod.fst) :
    (ofList (before ++ (key, value) :: after)).get? key = some value := by
  unfold ofList
  rw [List.foldl_append, List.foldl_cons, get?_foldl_insert_of_not_mem h, get?_insert, if_pos rfl]

theorem get?_ofList_eq_none_iff {pairs : List (α × β)} {key : α} :
    (ofList pairs).get? key = none ↔ key ∉ pairs.map Prod.fst := by
  rw [← mem_firsts_iff, ← keys_ofList, mem_keys_iff, ← Option.isSome_iff_exists,
    Option.not_isSome_iff_eq_none]

/-- A value is found under a key exactly if the last pair with this key has it. -/
theorem get?_ofList_eq_some_iff {pairs : List (α × β)} {key : α} {value : β} :
    (ofList pairs).get? key = some value ↔
      ∃ before after, pairs = before ++ (key, value) :: after ∧ key ∉ after.map Prod.fst := by
  constructor
  · intro h
    induction pairs using List.reverseRecOn with
    | nil => cases h
    | append_singleton pairs p ih =>
      rw [ofList_concat, get?_insert] at h
      by_cases hp : key = p.1
      · rw [if_pos hp, Option.some.injEq] at h
        exact ⟨pairs, [], by rw [hp, ← h], List.not_mem_nil⟩
      · rw [if_neg hp] at h
        obtain ⟨before, after, rfl, hafter⟩ := ih h
        refine ⟨before, after ++ [p], by simp, ?_⟩
        rw [List.map_append, List.map_singleton, List.mem_append, List.mem_singleton, not_or]
        exact ⟨hafter, hp⟩
  · rintro ⟨before, after, rfl, hafter⟩
    exact get?_ofList hafter

end OrderedMap

end BenchSweep
