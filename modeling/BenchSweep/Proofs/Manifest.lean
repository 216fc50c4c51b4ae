import BenchSweep.Proofs.Configuration
import BenchSweep.Proofs.Decimal
import BenchSweep.Proofs.Uniformity

/-! The record of a configuration can be read back from its file. A value is found as it is: a float
stays a float and a text a text, whatever they look like, since each kind of value has a spelling of its
own. -/
set_option autoImplicit false

namespace BenchSweep

variable {σ : Type}

/-! ## Parameters in a document -/

/-- The value that the spelling of a value shows. -/
def Value.shown : Value → Value
  | .float x => .float x.shown
  | v => v

theorem Value.shown_eq_self {v : Value} (h : ∀ x, v = .float x → x.isNaN = false) : v.shown = v := by
  cases v with
  | float x =>
    have hx : x.shown = x := if_neg (Bool.eq_false_iff.1 (h x rfl))
    exact congrArg Value.float hx
  | _ => rfl

/-- Whether parameters can be read under a key of a document: their names in their order, each with its
value. Of a NaN sign and payload are lost; parameters without one are read as they are. -/
structure Params.StandIn (params : Params) (record : List (String × Toml.Value)) (key : String) :
    Prop where
  shown : Toml.required record key Toml.params? = some (params.mapValues Value.shown)
  same : (∀ x, Value.float x ∈ params.values → x.isNaN = false) →
    Toml.required record key Toml.params? = some params

namespace Plan

theorem fst_pair (x : String × Value) : (pair x).1 = x.1 := by
  obtain ⟨name, v⟩ := x
  cases v <;> rfl

theorem param?_pair (x : String × Value) : (pair x).2.value.param? = some x.2.shown := by
  obtain ⟨name, v⟩ := x
  cases v with
  | integer n => exact congrArg (some ∘ Value.integer) n.ofInt_toInt
  | _ => rfl

theorem mapValues_shown {params : Params}
    (h : ∀ x, Value.float x ∈ params.values → x.isNaN = false) :
    params.mapValues Value.shown = params := by
  have hself : ∀ e ∈ params.entries, (e.1, e.2.shown) = e := by
    intro e he
    rw [Value.shown_eq_self fun x hx => h x (hx ▸ List.mem_map_of_mem he)]
  exact OrderedMap.ext ((List.map_congr_left hself).trans (List.map_id' _))

/-- The table that parameters make is read as what they show. -/
theorem params?_pairs (params : Params) :
    Toml.params? (.table (Toml.pairEntries (params.entries.map pair))) =
      some (params.mapValues Value.shown) := by
  have hstep : ∀ x ∈ params.entries, ((pair x).2.value.param?).map ((pair x).1, ·) =
      some (x.1, x.2.shown) := by
    intro x _
    rw [param?_pair, fst_pair, Option.map_some]
  have hentries : OrderedMap.ofList (params.entries.map fun x => (x.1, x.2.shown)) =
      params.mapValues Value.shown :=
    OrderedMap.ofList_entries (params.mapValues Value.shown)
  unfold Toml.params? Toml.Value.map? Toml.pairEntries
  simp only [Toml.Value.entries?, Option.bind_eq_bind, Option.bind_some, Option.pure_def,
    List.map_map, List.mapM_map, Function.comp_def]
  rw [mapM_eq_some_map hstep, Option.bind_some, hentries]

/-! ## The record of a plan -/

theorem distinct_manifest (p : Plan) (startedAt : Nat) : (p.manifest startedAt).Distinct where
  names := by simp [manifest]
  keys := by
    have hkeys : ∀ params : Params, ((params.entries.map pair).map Prod.fst).Nodup := by
      intro params
      have hfst : (params.entries.map pair).map Prod.fst = params.keys := by
        rw [List.map_map]
        exact List.map_congr_left fun x _ => fst_pair x
      rw [hfst]
      exact params.distinct
    exact List.forall_mem_cons.2 ⟨hkeys _, List.forall_mem_singleton.2 (hkeys _)⟩

/-- Whether the configuration of a plan can be read from a document. -/
structure StandsIn (p : Plan) (record : List (String × Toml.Value)) : Prop where
  benchmark : Toml.required record "benchmark" Toml.Value.text? = some p.benchmark.name
  target : Toml.required record "target" Toml.Value.text? = some p.target.name
  iterations :
    Toml.required record "iterations" Configuration.iterations? = some p.settings.iterations
  threads : Toml.required record "threads" Configuration.threads? = some p.settings.threads
  policy : Toml.required record "continue_on_error" Toml.Value.bool? = some p.policy.flag
  params : p.benchmark.params.StandIn record "params"
  targetParams : p.target.params.StandIn record "target_params"

theorem standsIn_entries {p : Plan} (h : p.settings.threads.toNat < 2 ^ 63) (startedAt : Nat) :
    p.StandsIn (p.manifest startedAt).entries where
  benchmark := rfl
  target := rfl
  iterations := Configuration.iterations?_value p.settings.iterations
  threads := Configuration.threads?_value h
  policy := rfl
  params := ⟨params?_pairs _, fun hx => (params?_pairs _).trans (congrArg some (mapValues_shown hx))⟩
  targetParams :=
    ⟨params?_pairs _, fun hx => (params?_pairs _).trans (congrArg some (mapValues_shown hx))⟩

/-- Let the number of threads be one of 64 bits with sign, and let the host let the file of the record
be written. Then the record is written, its file is read back as a text, the text is a document, and the
document holds the configuration of the plan. -/
theorem manifest_keeps_configuration (p : Plan) (w : World σ) {place : Location}
    (hthreads : p.settings.threads.toNat < 2 ^ 63)
    (hplace : w.files.writable p.manifestPath = .ok place) :
    ∃ fs text record, (p.writeManifest : Run σ Unit).on w = (.ok (), { w with files := fs }) ∧
      fs.readText p.manifestPath = .ok text ∧ Toml.parse? text = some record ∧ p.StandsIn record := by
  obtain ⟨text, htext⟩ :=
    Option.isSome_iff_exists.1 ((p.isSome_write_manifest_iff w.clock).2 hthreads)
  have hwrite := Files.write_eq_ok_iff.2
    ⟨place, hplace, (rfl : w.files.put place (.file (Text.Utf8.bytes text)) = _)⟩
  refine ⟨_, text, _, ?_, Files.readText_put hplace text,
    Toml.parse?_write htext (p.distinct_manifest w.clock), standsIn_entries hthreads w.clock⟩
  rw [on_writeManifest htext]
  unfold recordFiles
  dsimp only
  rw [hwrite]
  rfl

/-- Names that need quotes, an integral float and a text that looks like a number. -/
theorem manifest_keeps_configuration_of_quoted_names :
    let params : Params := .ofList [("", .float (Binary64.ofInt 12)), ("a.b", .text "012"),
      ("\"\x27\\\n\x01", .text "\x27\x27\x27\n\"\"\""), ("n", .integer (-1)), ("t", .bool true)]
    let b : Benchmark := ⟨"b = \"x\"\n", params, .empty⟩
    let p : Plan := ⟨b, ⟨"[t]", .empty, none, none, none, none, none, none⟩, ⟨7, 9223372036854775807⟩,
      .goOn, ⟨"."⟩⟩
    let w : World Unit := ⟨⟨.empty, []⟩, 0, [], ()⟩
    ∃ fs text record, (p.writeManifest : Run Unit Unit).on w = (.ok (), { w with files := fs }) ∧
      fs.readText p.manifestPath = .ok text ∧ Toml.parse? text = some record ∧
      Toml.required record "benchmark" Toml.Value.text? = some "b = \"x\"\n" ∧
      Toml.required record "threads" Configuration.threads? = some 9223372036854775807 ∧
      Toml.required record "params" Toml.params? = some params := by
  intro params b p w
  have hplace : w.files.writable p.manifestPath = .ok ["run.toml"] := by decide +kernel
  obtain ⟨fs, text, record, hwrite, hread, hparse, hrecord⟩ :=
    manifest_keeps_configuration p w (by decide) hplace
  refine ⟨fs, text, record, hwrite, hread, hparse, hrecord.benchmark, hrecord.threads,
    hrecord.params.same ?_⟩
  intro x hx
  have hvalues : params.values = [.float (Binary64.ofInt 12), .text "012",
      .text "\x27\x27\x27\n\"\"\"", .integer (-1), .bool true] := by decide +kernel
  rw [hvalues] at hx
  simp only [List.mem_cons, Value.float.injEq, reduceCtorEq, List.not_mem_nil, or_false] at hx
  rw [hx]
  decide +kernel

end Plan

end BenchSweep
