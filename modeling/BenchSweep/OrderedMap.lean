/-! Maps that remember in which order their keys first came. A new key goes to the end, a known key
keeps its place and takes the new value. -/
set_option autoImplicit false

namespace BenchSweep

/-- Values under keys in order of first insertion, each key once. -/
structure OrderedMap (κ α : Type) where
  entries : List (κ × α)
  distinct : (entries.map Prod.fst).Nodup

namespace OrderedMap

variable {κ α β : Type}

theorem ext {a b : OrderedMap κ α} (h : a.entries = b.entries) : a = b := by
  cases a; cases b; cases h; rfl

theorem ext_iff {a b : OrderedMap κ α} : a = b ↔ a.entries = b.entries :=
  ⟨fun h => h ▸ rfl, ext⟩

instance [DecidableEq κ] [DecidableEq α] : DecidableEq (OrderedMap κ α) := fun _ _ =>
  decidable_of_iff' _ ext_iff

/-! ## Reading -/

/-- The keys, oldest first. -/
def keys (m : OrderedMap κ α) : List κ := m.entries.map Prod.fst

def values (m : OrderedMap κ α) : List α := m.entries.map Prod.snd

def size (m : OrderedMap κ α) : Nat := m.entries.length

def isEmpty (m : OrderedMap κ α) : Bool := m.entries.isEmpty

theorem nodup_keys (m : OrderedMap κ α) : m.keys.Nodup := m.distinct

theorem length_keys (m : OrderedMap κ α) : m.keys.length = m.size := by simp [keys, size]

variable [DecidableEq κ]

def get? (m : OrderedMap κ α) (key : κ) : Option α :=
  (m.entries.find? (fun e => e.1 = key)).map Prod.snd

def contains (m : OrderedMap κ α) (key : κ) : Bool := (m.get? key).isSome

/-! ## Entries with one key replaced or added -/

/-- Replaces the value of the first entry with this key, or adds an entry at the end. -/
def put (key : κ) (value : α) : List (κ × α) → List (κ × α)
  | [] => [(key, value)]
  | (n, v) :: rest => if n = key then (n, value) :: rest else (n, v) :: put key value rest

theorem keys_put (key : κ) (value : α) (es : List (κ × α)) :
    (put key value es).map Prod.fst =
      if key ∈ es.map Prod.fst then es.map Prod.fst else es.map Prod.fst ++ [key] := by
  induction es with
  | nil => simp [put]
  | cons e rest ih =>
    obtain ⟨n, v⟩ := e
    by_cases h : n = key
    · simp [put, h]
    · have h' : ¬key = n := fun e => h e.symm
      simp only [put, h, if_false, List.map_cons, List.mem_cons, h', false_or, ih]
      split <;> simp

theorem nodup_put (key : κ) (value : α) (es : List (κ × α))
    (h : (es.map Prod.fst).Nodup) : ((put key value es).map Prod.fst).Nodup := by
  rw [keys_put]
  split
  · exact h
  · rename_i hn
    refine List.nodup_append.2 ⟨h, by simp, ?_⟩
    rintro a ha b hb rfl
    rw [List.mem_singleton.1 hb] at ha
    exact hn ha

theorem find?_put (key other : κ) (value : α) (es : List (κ × α)) :
    ((put key value es).find? (fun e => e.1 = other)).map Prod.snd =
      if other = key then some value else (es.find? (fun e => e.1 = other)).map Prod.snd := by
  induction es with
  | nil => by_cases h : key = other <;> simp [put, h, eq_comm]
  | cons e rest ih =>
    obtain ⟨n, v⟩ := e
    by_cases hn : n = key
    · subst hn
      by_cases h : n = other
      · simp [put, h]
      · have h' : ¬other = n := fun e => h e.symm
        simp [put, h, h']
    · by_cases h : n = other
      · have h' : ¬other = key := fun e => hn (h.trans e)
        simp [put, h, h']
      · simp [put, hn, h, ih]

/-! ## Building -/

def empty : OrderedMap κ α := ⟨[], List.nodup_nil⟩

instance : Inhabited (OrderedMap κ α) := ⟨empty⟩

def insert (m : OrderedMap κ α) (key : κ) (value : α) : OrderedMap κ α :=
  ⟨put key value m.entries, nodup_put key value m.entries m.distinct⟩

/-- The pairs inserted one by one: of a repeated key the first place and the last value stay. -/
def ofList (pairs : List (κ × α)) : OrderedMap κ α :=
  pairs.foldl (fun m p => m.insert p.1 p.2) empty

/-- `m` with the entries of `other` inserted after its own. -/
def merge (m other : OrderedMap κ α) : OrderedMap κ α :=
  other.entries.foldl (fun m p => m.insert p.1 p.2) m

/-- `m` without `key`; the order of the rest stays. -/
def erase (m : OrderedMap κ α) (key : κ) : OrderedMap κ α :=
  ⟨m.entries.filter (fun e => e.1 ≠ key),
    List.Nodup.sublist (List.Sublist.map _ List.filter_sublist) m.distinct⟩

/-- Every value replaced, keys and order kept. -/
def mapValues (f : α → β) (m : OrderedMap κ α) : OrderedMap κ β :=
  ⟨m.entries.map (fun e => (e.1, f e.2)), by
    have h : (m.entries.map (fun e => (e.1, f e.2))).map Prod.fst = m.entries.map Prod.fst := by
      simp [List.map_map, Function.comp_def]
    rw [h]; exact m.distinct⟩

/-! ## What each operation does -/

theorem keys_insert (m : OrderedMap κ α) (key : κ) (value : α) :
    (m.insert key value).keys = if key ∈ m.keys then m.keys else m.keys ++ [key] :=
  keys_put key value m.entries

theorem get?_insert (m : OrderedMap κ α) (key other : κ) (value : α) :
    (m.insert key value).get? other = if other = key then some value else m.get? other :=
  find?_put key other value m.entries

theorem get?_mapValues (f : α → β) (m : OrderedMap κ α) (key : κ) :
    (m.mapValues f).get? key = (m.get? key).map f := by
  unfold get? mapValues
  rw [List.find?_map, Option.map_map, Option.map_map]
  rfl

theorem keys_erase (m : OrderedMap κ α) (key : κ) :
    (m.erase key).keys = m.keys.filter (· ≠ key) := by
  simp [keys, erase, List.filter_map, Function.comp_def]

theorem contains_eq_true_iff (m : OrderedMap κ α) (key : κ) :
    m.contains key = true ↔ key ∈ m.keys := by
  simp [contains, get?, keys]

end OrderedMap

end BenchSweep
