import BenchSweep.Proofs.Firsts
import BenchSweep.Results

/-! Maps and the pairs put into them. Whether pairs come one by one, together or with a map that is put
behind another, the keys stand where they came first, and under each of them is what came last. The
parameters of a run, those of the benchmark with those of the target behind them, are such a map. -/
set_option autoImplicit false

namespace BenchSweep

namespace OrderedMap

variable {κ α β : Type} [DecidableEq κ]

/-! ## What is left of pairs -/

/-- `m` has the keys of the pairs in the order in which they first came, each once, and under each of
them the value that came last. -/
structure Remembers (m : OrderedMap κ α) (pairs : List (κ × α)) : Prop where
  nodup : m.keys.Nodup
  mem_iff : ∀ key, key ∈ m.keys ↔ key ∈ pairs.map Prod.fst
  first_place : m.keys.Pairwise fun a b =>
    (pairs.map Prod.fst).idxOf a < (pairs.map Prod.fst).idxOf b
  last_value : ∀ key value, m.get? key = some value ↔
    ∃ before after, pairs = before ++ (key, value) :: after ∧ key ∉ after.map Prod.fst
  no_value : ∀ key, m.get? key = none ↔ key ∉ pairs.map Prod.fst

theorem remembers_ofList (pairs : List (κ × α)) : (ofList pairs).Remembers pairs where
  nodup := nodup_keys _
  mem_iff key := by rw [keys_ofList, mem_firsts_iff]
  first_place := by
    rw [keys_ofList]
    exact pairwise_firsts _
  last_value _ _ := get?_ofList_eq_some_iff
  no_value _ := get?_ofList_eq_none_iff

theorem Remembers.unique {m m' : OrderedMap κ α} {pairs : List (κ × α)} (h : m.Remembers pairs)
    (h' : m'.Remembers pairs) : m = m' := by
  have hperm : m.keys.Perm m'.keys := by
    rw [List.perm_ext_iff_of_nodup h.nodup h'.nodup]
    exact fun key => (h.mem_iff key).trans (h'.mem_iff key).symm
  have hkeys : m.keys = m'.keys := by
    refine hperm.eq_of_pairwise (fun a b _ _ hab hba => ?_) h.first_place h'.first_place
    exact absurd hab (Nat.lt_asymm hba)
  refine ext_of_keys hkeys fun key _ => Option.ext fun value => ?_
  rw [h.last_value, h'.last_value]

/-! ## Ways to put pairs in -/

/-- How a map came about: from nothing, by one pair more, from pairs taken together, or from two maps of
which the second is put behind the first. -/
inductive History (κ α : Type) where
  | empty
  | insert (earlier : History κ α) (key : κ) (value : α)
  | ofList (pairs : List (κ × α))
  | merge (first second : History κ α)

namespace History

def result : History κ α → OrderedMap κ α
  | empty => .empty
  | insert earlier key value => earlier.result.insert key value
  | ofList pairs => .ofList pairs
  | merge first second => first.result.merge second.result

omit [DecidableEq κ] in
/-- The pairs that were put in, oldest first. -/
def pairs : History κ α → List (κ × α)
  | empty => []
  | insert earlier key value => earlier.pairs ++ [(key, value)]
  | ofList pairs => pairs
  | merge first second => first.pairs ++ second.pairs

end History

theorem merge_ofList (first second : List (κ × α)) :
    (ofList first).merge (ofList second) = ofList (first ++ second) := by
  induction second using List.reverseRecOn with
  | nil => rw [List.append_nil]; rfl
  | append_singleton second p ih =>
    rw [ofList_concat, merge_insert, ih, ← List.append_assoc, ofList_concat]

/-- The pairs tell the map, however they were put in. -/
theorem History.result_eq (h : History κ α) : h.result = .ofList h.pairs := by
  induction h with
  | empty => rfl
  | insert earlier key value ih =>
    rw [result, pairs, ofList_concat, ih]
  | ofList pairs => rfl
  | merge first second ih ih' =>
    rw [result, pairs, ih, ih', merge_ofList]

/-! ## Values replaced -/

theorem map_put (f : α → β) (key : κ) (value : α) (es : List (κ × α)) :
    (put key value es).map (fun e => (e.1, f e.2)) =
      put key (f value) (es.map fun e => (e.1, f e.2)) := by
  induction es with
  | nil => rfl
  | cons e rest ih =>
    obtain ⟨n, v⟩ := e
    rw [List.map_cons, put, put]
    by_cases hk : n = key
    · rw [if_pos hk, if_pos hk, List.map_cons]
    · rw [if_neg hk, if_neg hk, List.map_cons, ih]

theorem mapValues_insert (f : α → β) (m : OrderedMap κ α) (key : κ) (value : α) :
    (m.insert key value).mapValues f = (m.mapValues f).insert key (f value) :=
  ext (map_put f key value m.entries)

theorem mapValues_ofList (f : α → β) (pairs : List (κ × α)) :
    (ofList pairs).mapValues f = ofList (pairs.map fun p => (p.1, f p.2)) := by
  induction pairs using List.reverseRecOn with
  | nil => rfl
  | append_singleton pairs p ih =>
    rw [ofList_concat, mapValues_insert, ih, List.map_append, List.map_singleton, ofList_concat]

end OrderedMap

/-! ## Sets of parameters -/

/-- The texts of the parameters of a run are those of the benchmark and then those of the target, put
into one map. -/
theorem RunContext.texts_eq (c : RunContext) :
    c.params.mapValues Value.toText =
      .ofList ((c.benchmarkParams.entries ++ c.targetParams.entries).map fun p =>
        (p.1, p.2.toText)) := by
  have hparams : c.params = .ofList (c.benchmarkParams.entries ++ c.targetParams.entries) := by
    rw [← OrderedMap.merge_ofList, OrderedMap.ofList_entries, OrderedMap.ofList_entries]
    rfl
  rw [hparams, OrderedMap.mapValues_ofList]

/-- A set of parameters that starts empty remembers all pairs put into it, whether they come one by one,
together or with a set that is put behind it: its names are those of the pairs, each once and in the
order in which they first came, and a name has the value that came last for it and no other one has any.
So do the texts of the parameters of a run, first those of the benchmark and then those of the target.
Nothing else remembers these pairs. A set has exactly its names and as many entries as names; where a
known name gets another value, all names stay in their places and so does every other entry. -/
theorem insertions_keep_first_place_and_last_value :
    (∀ h : OrderedMap.History String Value, h.result.Remembers h.pairs) ∧
    (∀ c : RunContext, (c.params.mapValues Value.toText).Remembers
      ((c.benchmarkParams.entries ++ c.targetParams.entries).map fun p => (p.1, p.2.toText))) ∧
    (∀ (pairs : List (String × Value)) (m m' : Params),
      m.Remembers pairs → m'.Remembers pairs → m = m') ∧
    ∀ m : Params, m.size = m.keys.length ∧ ∀ name,
      (m.contains name = true ↔ name ∈ m.keys) ∧
      (name ∈ m.keys → ∀ value, (m.insert name value).keys = m.keys ∧
        (m.insert name value).entries =
          m.entries.map fun e => if e.1 = name then (name, value) else e) := by
  refine ⟨fun h => ?_, fun c => ?_, fun _ _ _ h h' => h.unique h', fun m => ⟨?_, fun name => ⟨?_, ?_⟩⟩⟩
  · rw [h.result_eq]
    exact OrderedMap.remembers_ofList _
  · rw [c.texts_eq]
    exact OrderedMap.remembers_ofList _
  · exact m.length_keys.symm
  · exact m.contains_eq_true_iff name
  · intro hname value
    exact ⟨by rw [OrderedMap.keys_insert, if_pos hname], OrderedMap.entries_insert_of_mem value hname⟩

/-- Pairs with repeated names, two of them put in behind the others; the same pairs put in as two sets;
and a target that has a parameter of the benchmark. -/
theorem insertions_keep_first_place_and_last_value_of_repeated_names :
    let collected : List (String × Value) := [("b", .integer 1), ("a", .integer 2), ("b", .integer 3)]
    let h : OrderedMap.History String Value :=
      .insert (.insert (.ofList collected) "c" (.bool true)) "a" (.text "x")
    let h' : OrderedMap.History String Value :=
      .merge (.ofList collected) (.ofList [("c", .bool true), ("a", .text "x")])
    let c : RunContext := ⟨"b", "t", ⟨2, 4⟩, .ofList [("mode", .text "fast"), ("size", .integer 1)],
      .ofList [("level", .integer 3), ("mode", .text "slow")]⟩
    let texts := c.params.mapValues Value.toText
    h.result.keys = ["b", "a", "c"] ∧ h.result.get? "b" = some (.integer 3) ∧
      h.result.get? "d" = none ∧ h.result = h'.result ∧
      texts.keys = ["mode", "size", "level"] ∧ texts.get? "mode" = some "slow" ∧
      "a" ∈ h.result.keys ∧ (h.result.insert "a" (.integer 4)).keys = h.result.keys := by
  intro collected h h' c texts
  obtain ⟨hhistory, htexts, hunique, hset⟩ := insertions_keep_first_place_and_last_value
  have hname : "a" ∈ h.result.keys := ((hhistory h).mem_iff "a").2 (by decide)
  refine ⟨by decide, ?_, ?_, hunique h.pairs _ _ (hhistory h) (hhistory h'), by decide, ?_, hname,
    (((hset h.result).2 "a").2 hname _).1⟩
  · exact ((hhistory h).last_value "b" _).2 ⟨[("b", .integer 1), ("a", .integer 2)],
      [("c", .bool true), ("a", .text "x")], rfl, by decide⟩
  · exact ((hhistory h).no_value "d").2 (by decide)
  · exact ((htexts c).last_value "mode" _).2
      ⟨[("mode", "fast"), ("size", "1"), ("level", "3")], [], by decide, List.not_mem_nil⟩

end BenchSweep
