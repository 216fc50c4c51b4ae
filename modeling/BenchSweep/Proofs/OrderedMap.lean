import BenchSweep.OrderedMap
import Mathlib.Data.List.Nodup

/-! What stays of pairs that are inserted one after the other: new keys in the order in which they
come, and of each key the last value. -/
set_option autoImplicit false

namespace BenchSweep.OrderedMap

variable {κ α : Type} [DecidableEq κ]

/-! ## Values under keys -/

omit [DecidableEq κ] in
theorem eq_of_mem_of_mem {m : OrderedMap κ α} {key : κ} {a b : α} (ha : (key, a) ∈ m.entries)
    (hb : (key, b) ∈ m.entries) : a = b := by
  have hinj := List.inj_on_of_nodup_map m.distinct
  exact congrArg Prod.snd (hinj ha hb rfl)

theorem get?_eq_some_iff {m : OrderedMap κ α} {key : κ} {value : α} :
    m.get? key = some value ↔ (key, value) ∈ m.entries := by
  unfold get?
  constructor
  · intro h
    obtain ⟨⟨n, v⟩, he, rfl⟩ := Option.map_eq_some_iff.1 h
    have hk : n = key := by simpa using List.find?_some he
    rw [← hk]
    exact List.mem_of_find?_eq_some he
  · intro h
    have hs : (m.entries.find? fun e => e.1 = key).isSome = true := by
      rw [List.find?_isSome]
      exact ⟨_, h, by simp⟩
    obtain ⟨⟨n, v⟩, he⟩ := Option.isSome_iff_exists.1 hs
    have hk : n = key := by simpa using List.find?_some he
    have hm := List.mem_of_find?_eq_some he
    rw [hk] at hm
    rw [he]
    exact congrArg some (eq_of_mem_of_mem hm h)

/-- A map is what its keys are, in order, and what stands under them. -/
theorem ext_of_keys {a b : OrderedMap κ α} (hkeys : a.keys = b.keys)
    (h : ∀ key ∈ a.keys, a.get? key = b.get? key) : a = b := by
  have hentries : ∀ m : OrderedMap κ α,
      m.entries = m.keys.filterMap fun key => (m.get? key).map (key, ·) := by
    intro m
    unfold keys
    rw [List.filterMap_map]
    refine (List.filterMap_some.symm).trans (List.filterMap_congr ?_)
    rintro ⟨key, value⟩ he
    simp [get?_eq_some_iff.2 he]
  refine ext ?_
  rw [hentries a, hentries b, ← hkeys]
  exact List.filterMap_congr fun key hkey => by rw [h key hkey]

theorem get?_erase (m : OrderedMap κ α) (key other : κ) :
    (m.erase key).get? other = if other = key then none else m.get? other := by
  unfold get? erase
  rw [List.find?_filter]
  by_cases h : other = key
  · rw [if_pos h, List.find?_eq_none.2 (by simp [h]), Option.map_none]
  · rw [if_neg h]
    congr 2
    funext e
    by_cases he : e.1 = other
    · simp [he, h]
    · simp [he]

/-! ## Pairs with new keys -/

theorem put_of_not_mem {key : κ} (value : α) {es : List (κ × α)} (h : key ∉ es.map Prod.fst) :
    put key value es = es ++ [(key, value)] := by
  induction es with
  | nil => rfl
  | cons e rest ih =>
    obtain ⟨n, v⟩ := e
    obtain ⟨hn, hr⟩ : key ≠ n ∧ key ∉ rest.map Prod.fst := by simpa using h
    rw [put, if_neg hn.symm, ih hr]
    rfl

theorem entries_insert_of_not_mem {m : OrderedMap κ α} {key : κ} (value : α) (h : key ∉ m.keys) :
    (m.insert key value).entries = m.entries ++ [(key, value)] := put_of_not_mem value h

theorem entries_foldl_insert (pairs : List (κ × α)) (m : OrderedMap κ α)
    (h : (m.keys ++ pairs.map Prod.fst).Nodup) :
    (pairs.foldl (fun m p => m.insert p.1 p.2) m).entries = m.entries ++ pairs := by
  induction pairs generalizing m with
  | nil => exact (List.append_nil _).symm
  | cons p rest ih =>
    have hp : p.1 ∉ m.keys := by
      intro hm
      exact List.disjoint_of_nodup_append h hm (List.mem_cons_self)
    have hk : (m.insert p.1 p.2).keys = m.keys ++ [p.1] := by
      rw [keys_insert, if_neg hp]
    rw [List.foldl_cons, ih, entries_insert_of_not_mem p.2 hp, List.append_assoc]
    · rfl
    · rw [hk, List.append_assoc]
      exact h

/-- Pairs under different keys are the entries of their map. -/
theorem entries_ofList {pairs : List (κ × α)} (h : (pairs.map Prod.fst).Nodup) :
    (ofList pairs).entries = pairs := entries_foldl_insert pairs empty h

theorem ofList_entries (m : OrderedMap κ α) : ofList m.entries = m := ext (entries_ofList m.distinct)

/-! ## Keys beside values -/

section Values

variable {keys : List κ} (h : keys.Nodup) (f : κ → α)

include h

theorem entries_ofList_zip_map :
    (ofList (keys.zip (keys.map f))).entries = keys.map fun key => (key, f key) := by
  have hzip : keys.zip (keys.map f) = keys.map fun key => (key, f key) := by
    have hz := List.zip_map' (f := id) (g := f) (l := keys)
    rwa [List.map_id] at hz
  have hkeys : (keys.map fun key => (key, f key)).map Prod.fst = keys := by
    rw [List.map_map]
    exact List.map_id _
  rw [hzip, entries_ofList (by rwa [hkeys])]

theorem keys_ofList_zip_map : (ofList (keys.zip (keys.map f))).keys = keys := by
  unfold OrderedMap.keys
  rw [entries_ofList_zip_map h, List.map_map]
  exact List.map_id _

theorem get?_ofList_zip_map {key : κ} (hkey : key ∈ keys) :
    (ofList (keys.zip (keys.map f))).get? key = some (f key) := by
  rw [get?_eq_some_iff, entries_ofList_zip_map h]
  exact List.mem_map.2 ⟨key, hkey, rfl⟩

end Values

/-! ## Pairs put into a map -/

theorem get?_foldl_insert_of_not_mem {pairs : List (κ × α)} {key : κ}
    (h : key ∉ pairs.map Prod.fst) (m : OrderedMap κ α) :
    (pairs.foldl (fun m p => m.insert p.1 p.2) m).get? key = m.get? key := by
  induction pairs generalizing m with
  | nil => rfl
  | cons p rest ih =>
    obtain ⟨hp, hr⟩ := not_or.1 (fun hm => h (List.mem_cons.2 hm))
    rw [List.foldl_cons, ih hr, get?_insert, if_neg hp]

theorem get?_foldl_insert {pairs : List (κ × α)} (hn : (pairs.map Prod.fst).Nodup) {key : κ}
    {value : α} (h : (key, value) ∈ pairs) (m : OrderedMap κ α) :
    (pairs.foldl (fun m p => m.insert p.1 p.2) m).get? key = some value := by
  induction pairs generalizing m with
  | nil => cases h
  | cons p rest ih =>
    rw [List.map_cons, List.nodup_cons] at hn
    rw [List.foldl_cons]
    rcases List.mem_cons.1 h with rfl | hr
    · rw [get?_foldl_insert_of_not_mem hn.1, get?_insert, if_pos rfl]
    · exact ih hn.2 hr _

theorem mem_keys_iff {m : OrderedMap κ α} {key : κ} :
    key ∈ m.keys ↔ ∃ v, m.get? key = some v := by
  rw [← contains_eq_true_iff, contains, Option.isSome_iff_exists]

/-- Of two maps put together the second counts. -/
theorem get?_merge (m other : OrderedMap κ α) (key : κ) :
    (m.merge other).get? key = (other.get? key <|> m.get? key) := by
  unfold merge
  cases h : other.get? key with
  | some v => exact get?_foldl_insert other.distinct (get?_eq_some_iff.1 h) m
  | none =>
    have hkey : key ∉ other.keys := by
      rw [mem_keys_iff, h]
      simp
    exact get?_foldl_insert_of_not_mem hkey m

theorem keys_foldl_insert {pairs : List (κ × α)} (hn : (pairs.map Prod.fst).Nodup)
    (m : OrderedMap κ α) :
    (pairs.foldl (fun m p => m.insert p.1 p.2) m).keys =
      m.keys ++ (pairs.map Prod.fst).filter (· ∉ m.keys) := by
  induction pairs generalizing m with
  | nil => exact (List.append_nil _).symm
  | cons p rest ih =>
    rw [List.map_cons, List.nodup_cons] at hn
    rw [List.foldl_cons, ih hn.2, keys_insert, List.map_cons, List.filter_cons]
    by_cases hp : p.1 ∈ m.keys
    · simp [hp]
    · have hrest : (rest.map Prod.fst).filter (· ∉ m.keys ++ [p.1]) =
          (rest.map Prod.fst).filter (· ∉ m.keys) := by
        refine List.filter_congr fun k hk => ?_
        have hne : k ≠ p.1 := fun e => hn.1 (e ▸ hk)
        simp [hne]
      simp only [hp, if_false, hrest, not_false_eq_true, decide_true, if_true, List.append_assoc,
        List.singleton_append]

theorem keys_merge (m other : OrderedMap κ α) :
    (m.merge other).keys = m.keys ++ other.keys.filter (· ∉ m.keys) :=
  keys_foldl_insert other.distinct m

/-- What is put into the second of two maps before they are put together may as well be put in after. -/
theorem merge_insert (m other : OrderedMap κ α) (key : κ) (value : α) :
    m.merge (other.insert key value) = (m.merge other).insert key value := by
  refine ext_of_keys ?_ fun k _ => ?_
  · rw [keys_merge, keys_insert, keys_insert, keys_merge]
    by_cases hm : key ∈ m.keys <;> by_cases ho : key ∈ other.keys <;> simp [hm, ho]
  · rw [get?_merge, get?_insert, get?_insert, get?_merge]
    by_cases hk : k = key
    · rw [if_pos hk, if_pos hk]
      rfl
    · rw [if_neg hk, if_neg hk]

/-! ## Known keys -/

theorem put_of_mem {key : κ} (value : α) {es : List (κ × α)} (hn : (es.map Prod.fst).Nodup)
    (h : key ∈ es.map Prod.fst) :
    put key value es = es.map fun e => if e.1 = key then (key, value) else e := by
  induction es with
  | nil => cases h
  | cons e rest ih =>
    obtain ⟨n, v⟩ := e
    rw [List.map_cons, List.nodup_cons] at hn
    rw [put, List.map_cons]
    by_cases hk : n = key
    · subst hk
      have hrest : ∀ e ∈ rest, (if e.1 = n then (n, value) else e) = id e := by
        intro e he
        refine if_neg fun hkey => hn.1 ?_
        exact List.mem_map.2 ⟨e, he, hkey⟩
      rw [if_pos rfl, if_pos rfl, List.map_congr_left hrest, List.map_id]
    · have hm : key ∈ rest.map Prod.fst := (List.mem_cons.1 h).resolve_left fun e => hk e.symm
      rw [if_neg hk, if_neg hk, ih hn.2 hm]

theorem entries_insert_of_mem {m : OrderedMap κ α} {key : κ} (value : α) (h : key ∈ m.keys) :
    (m.insert key value).entries = m.entries.map fun e => if e.1 = key then (key, value) else e :=
  put_of_mem value m.distinct h

end BenchSweep.OrderedMap
