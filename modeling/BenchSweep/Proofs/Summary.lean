import BenchSweep.Proofs.Binary64
import BenchSweep.Proofs.SummaryRows
import Mathlib.Data.List.Perm.Basic

/-! Summaries of samples. The samples are put into an order that tells all patterns apart, so there is
only one list in that order, and what is taken from it does not depend on the order in which the samples
came. -/
set_option autoImplicit false

namespace BenchSweep

namespace Summary

variable {samples ranked : List Binary64} {summary : Summary}

/-! ## Samples by rank -/

/-- The samples in the order of their patterns. -/
structure Ranks (samples ranked : List Binary64) : Prop where
  perm : ranked.Perm samples
  ordered : ranked.Pairwise fun x y => x.signed ≤ y.signed

theorem ranks_sorted (samples : List Binary64) : Ranks samples (sorted samples) := by
  have hle : (sorted samples).Pairwise fun x y => x.le y = true :=
    @List.pairwise_mergeSort _ Binary64.le (fun _ _ _ => Binary64.le_trans) Binary64.le_total samples
  exact ⟨List.mergeSort_perm _ _, hle.imp fun h => Binary64.le_iff.1 h⟩

/-- There is one order only, since patterns that stand for equal numbers are ordered too. -/
theorem Ranks.eq_sorted (h : Ranks samples ranked) : ranked = sorted samples := by
  have hs := ranks_sorted samples
  refine List.Perm.eq_of_pairwise (fun x y _ _ hxy hyx => ?_) h.ordered hs.ordered
    (h.perm.trans hs.perm.symm)
  exact Binary64.le_antisymm (Binary64.le_iff.2 hxy) (Binary64.le_iff.2 hyx)

theorem Ranks.of_perm (h : Ranks samples ranked) {other : List Binary64} (hp : samples.Perm other) :
    Ranks other ranked := ⟨h.perm.trans hp, h.ordered⟩

theorem sorted_eq_of_perm {other : List Binary64} (h : other.Perm samples) :
    sorted other = sorted samples := ((ranks_sorted other).of_perm h).eq_sorted

theorem ofSamples_eq_of_perm {other : List Binary64} (h : other.Perm samples) :
    ofSamples other = ofSamples samples := by
  unfold ofSamples
  rw [sorted_eq_of_perm h]

/-! ## Members of a summary -/

theorem ofSamples_eq_some_iff :
    ofSamples samples = some summary ↔ ∃ least greatest, (sorted samples).head? = some least ∧
      (sorted samples).getLast? = some greatest ∧ summary =
        ⟨least, greatest, middle (sorted samples),
          sum (sorted samples) / Binary64.ofInt (sorted samples).length⟩ := by
  unfold ofSamples
  dsimp only
  cases (sorted samples).head? <;> cases (sorted samples).getLast? <;> simp [eq_comm]

theorem Ranks.head_le (h : Ranks samples ranked) {least x : Binary64}
    (hleast : ranked.head? = some least) (hx : x ∈ samples) : least.signed ≤ x.signed := by
  obtain ⟨rest, rfl⟩ := List.head?_eq_some_iff.1 hleast
  rcases List.mem_cons.1 (h.perm.mem_iff.2 hx) with rfl | hrest
  · exact Int64.le_refl _
  · exact (List.pairwise_cons.1 h.ordered).1 x hrest

theorem Ranks.le_getLast (h : Ranks samples ranked) {greatest x : Binary64}
    (hgreatest : ranked.getLast? = some greatest) (hx : x ∈ samples) :
    x.signed ≤ greatest.signed := by
  obtain ⟨init, rfl⟩ := List.getLast?_eq_some_iff.1 hgreatest
  rcases List.mem_append.1 (h.perm.mem_iff.2 hx) with hinit | hlast
  · exact (List.pairwise_append.1 h.ordered).2.2 x hinit greatest (List.mem_singleton_self _)
  · rw [List.mem_singleton.1 hlast]
    exact Int64.le_refl _

/-- Of an odd number of samples the one of middle rank is the median. -/
theorem getElem?_middle_of_odd {n : Nat} (h : ranked.length = 2 * n + 1) :
    ranked[n]? = some (middle ranked) := by
  have hn : n < ranked.length := by omega
  have hhalf : ranked.length / 2 = n := by omega
  have hodd : ranked.length % 2 = 1 := by omega
  unfold middle
  rw [hhalf, if_pos hodd, List.getD_eq_getElem?_getD, List.getElem?_eq_getElem hn]
  rfl

/-- Of an even number of samples half the sum of the two in the middle is the median. -/
theorem middle_of_even {n : Nat} (h : ranked.length = 2 * n + 2) :
    ∃ x y, ranked[n]? = some x ∧ ranked[n + 1]? = some y ∧
      middle ranked = (x + y) / Binary64.ofInt 2 := by
  have hn : n < ranked.length := by omega
  have hn' : n + 1 < ranked.length := by omega
  have hhalf : ranked.length / 2 = n + 1 := by omega
  have heven : ¬ranked.length % 2 = 1 := by omega
  refine ⟨ranked[n], ranked[n + 1], List.getElem?_eq_getElem hn, List.getElem?_eq_getElem hn', ?_⟩
  unfold middle
  rw [hhalf, if_neg heven, Nat.add_sub_cancel, List.getD_eq_getElem?_getD,
    List.getD_eq_getElem?_getD, List.getElem?_eq_getElem hn, List.getElem?_eq_getElem hn']
  rfl

end Summary

/-! ## Records in another order -/

section Records

variable {records records' : List Row}

theorem exists_rowSamples_of_perm (hp : records'.Perm records) {path : Path}
    {samples : List Binary64} (h : rowSamples path records = .ok samples) (path' : Path) :
    ∃ samples', rowSamples path' records' = .ok samples' ∧ samples'.Perm samples := by
  have hcells := hp.filterMap (·.get? "time_ms")
  obtain ⟨samples', hread, hperm⟩ := List.perm_comp_forall₂ hcells (rowSamples_eq_ok_iff.1 h)
  exact ⟨samples', rowSamples_eq_ok_iff.2 hread, hperm⟩

theorem condense_perm (summary : Option Summary) (hp : records'.Perm records) :
    (condense summary records').Perm (condense summary records) :=
  (firsts_perm (hp.map Row.withoutSample)).map _

/-- Rows under the same columns go through these columns alike, in whatever order they stand. -/
theorem flatMap_keys_of_perm {rows rows' : List Row} {columns : List String}
    (hp : rows'.Perm rows) (h : ∀ r ∈ rows, r.keys = columns) :
    rows'.flatMap OrderedMap.keys = rows.flatMap OrderedMap.keys := by
  have hmap : ∀ l : List Row, (∀ r ∈ l, r.keys = columns) →
      l.map OrderedMap.keys = List.replicate l.length columns := by
    intro l hl
    rw [List.eq_replicate_iff, List.length_map]
    exact ⟨rfl, List.forall_mem_map.2 hl⟩
  have h' : ∀ r ∈ rows', r.keys = columns := fun r hr => h r (hp.mem_iff.1 hr)
  rw [List.flatMap_def, List.flatMap_def, hmap rows h, hmap rows' h', hp.length_eq]

end Records

namespace Files.Entry

/-- Whether two files hold the same records under one header, perhaps in another order. -/
def SameRecords (e e' : Entry) : Prop :=
  ∃ bytes bytes' header records records', e.node = .file bytes ∧
    Csv.read bytes = .ok (header, records) ∧ e'.node = .file bytes' ∧
    Csv.read bytes' = .ok (header, records') ∧ records'.Perm records

variable {e e' : Entry} {rows : List Row}

/-- The rows of such files are the same, perhaps in another order, and all of them stand under one
summary and under the same columns. -/
theorem SameRecords.exists_contribution (h : e.SameRecords e')
    (hrows : e.contribution false = .ok rows) :
    ∃ rows', e'.contribution false = .ok rows' ∧ rows'.Perm rows ∧
      rows'.flatMap OrderedMap.keys = rows.flatMap OrderedMap.keys ∧
      ∀ r ∈ rows, ∀ r' ∈ rows', ∀ column ∈ summaryColumns, r'.get? column = r.get? column := by
  obtain ⟨bytes, bytes', header, records, records', hn, hb, hn', hb', hp⟩ := h
  have hown : e.rows = .ok (rowsOf (header, records)) := rows_of_read hn hb
  have hown' : e'.rows = .ok (rowsOf (header, records')) := rows_of_read hn' hb'
  have hrecords : (rowsOf (header, records')).Perm (rowsOf (header, records)) := hp.map _
  obtain ⟨own, samples, hown'', hsamples, rfl⟩ := contribution_summary_iff.1 hrows
  obtain rfl : rowsOf (header, records) = own := Except.ok.inj (hown.symm.trans hown'')
  obtain ⟨samples', hsamples', hperm⟩ := exists_rowSamples_of_perm hrecords hsamples e'.path
  have hcondense := condense_perm (Summary.ofSamples samples) hrecords
  refine ⟨condense (Summary.ofSamples samples) (rowsOf (header, records')), ?_, hcondense,
    flatMap_keys_of_perm hcondense fun r hr =>
      keys_of_mem_condense (fun own hown => keys_of_mem_rowsOf hb hown) hr, ?_⟩
  · rw [contribution_summary_iff]
    exact ⟨_, samples', hown', hsamples', by rw [Summary.ofSamples_eq_of_perm hperm]⟩
  · intro r hr r' hr' column hcolumn
    obtain ⟨⟨_, cell⟩, hcell, rfl⟩ := List.mem_map.1
      (show column ∈ (summaryCells (Summary.ofSamples samples)).map Prod.fst from hcolumn)
    rw [get?_of_mem_condense hr hcell, get?_of_mem_condense hr' hcell]

end Files.Entry

/-! ## Tables -/

theorem exists_blocks_of_sameRecords {es es' : List Files.Entry} {blocks : List (List Row)}
    (h : List.Forall₂ Files.Entry.SameRecords es es')
    (hb : List.Forall₂ (fun e rows => e.contribution false = .ok rows) es blocks) :
    ∃ blocks', List.Forall₂ (fun e rows => e.contribution false = .ok rows) es' blocks' ∧
      blocks'.flatten.Perm blocks.flatten ∧
      blocks'.flatten.flatMap OrderedMap.keys = blocks.flatten.flatMap OrderedMap.keys := by
  induction h generalizing blocks with
  | nil =>
    obtain rfl := List.forall₂_nil_left_iff.1 hb
    exact ⟨[], .nil, .refl _, rfl⟩
  | cons he _ ih =>
    obtain ⟨rows, blocks, hrows, hrest, rfl⟩ := List.forall₂_cons_left_iff.1 hb
    obtain ⟨rows', hrows', hp, hk, -⟩ := he.exists_contribution hrows
    obtain ⟨blocks', hblocks', hps, hks⟩ := ih hrest
    refine ⟨rows' :: blocks', .cons hrows' hblocks', ?_, ?_⟩
    · rw [List.flatten_cons, List.flatten_cons]
      exact hp.append hps
    · rw [List.flatten_cons, List.flatten_cons, List.flatMap_append, List.flatMap_append, hk, hks]

variable {σ τ : Type}

/-- Files with the same records are summed up in tables with the same columns and rows. -/
theorem exists_collect_of_sameRecords {w : World σ} {v : World τ} {source source' : Path}
    (h : List.Forall₂ Files.Entry.SameRecords (w.files.results source) (v.files.results source'))
    {t : Table} {w' : World σ} (hc : (collect false source).on w = (.ok t, w')) :
    ∃ t' v', (collect false source').on v = (.ok t', v') ∧ t'.columns = t.columns ∧
      t'.rows.Perm t.rows := by
  obtain ⟨events, heq⟩ := on_collect_eq false source w
  rw [hc] at heq
  obtain ⟨blocks, hblocks, rfl⟩ := map_eq_ok_iff.1 (congrArg Prod.fst heq).symm
  obtain ⟨blocks', hblocks', hp, hk⟩ := exists_blocks_of_sameRecords h (mapM_eq_ok_iff.1 hblocks)
  obtain ⟨v', hv⟩ := on_collect hblocks'
  refine ⟨_, v', hv, ?_, ?_⟩
  · rw [Table.columns_eq_firsts, Table.columns_eq_firsts, hk]
  · rw [Table.rows_foldl_push, Table.rows_foldl_push]
    exact hp

/-- The summary of samples does not depend on the order in which they came. There is one list of them in
the order of all patterns, in which NaNs and zeros with either sign have their places. The least and the
greatest are samples with all others between them; of an odd number of samples the median is the one in
the middle of that list, of an even number half the sum of the two in the middle; the mean is summed
along the list. So samples in another order have the same summary, bit for bit. If two files hold the
same records in different orders, the same rows are collected from them, all under the same summary,
and trees with such files are collected into tables that differ in the order of their rows only. -/
theorem summary_ignores_order :
    (∀ samples : List Binary64, samples ≠ [] → ∃ summary ranked,
      Summary.ofSamples samples = some summary ∧ Summary.Ranks samples ranked ∧
      (∀ other, Summary.Ranks samples other → other = ranked) ∧
      summary.min ∈ samples ∧ summary.max ∈ samples ∧
      (∀ x ∈ samples, summary.min.signed ≤ x.signed ∧ x.signed ≤ summary.max.signed) ∧
      (∀ n, samples.length = 2 * n + 1 → ranked[n]? = some summary.median) ∧
      (∀ n, samples.length = 2 * n + 2 → ∃ x y, ranked[n]? = some x ∧ ranked[n + 1]? = some y ∧
        summary.median = (x + y) / Binary64.ofInt 2) ∧
      summary.mean = Summary.sum ranked / Binary64.ofInt samples.length ∧
      ∀ other : List Binary64, other.Perm samples → Summary.ofSamples other = some summary) ∧
    (∀ (e e' : Files.Entry) (rows : List Row), e.SameRecords e' → e.contribution false = .ok rows →
      ∃ rows', e'.contribution false = .ok rows' ∧ rows'.Perm rows ∧
        ∀ r ∈ rows, ∀ r' ∈ rows', ∀ column ∈ summaryColumns, r'.get? column = r.get? column) ∧
    ∀ (w : World σ) (v : World τ) (source source' : Path) (t : Table) (w' : World σ),
      List.Forall₂ Files.Entry.SameRecords (w.files.results source) (v.files.results source') →
        (collect false source).on w = (.ok t, w') →
          ∃ t' v', (collect false source').on v = (.ok t', v') ∧ t'.columns = t.columns ∧
            t'.rows.Perm t.rows := by
  refine ⟨fun samples hne => ?_, fun e e' rows hsame hrows => ?_,
    fun w v source source' t w' hsame hc => exists_collect_of_sameRecords hsame hc⟩
  · obtain ⟨summary, hs⟩ := Summary.exists_ofSamples hne
    obtain ⟨least, greatest, hleast, hgreatest, rfl⟩ := Summary.ofSamples_eq_some_iff.1 hs
    have hranks := Summary.ranks_sorted samples
    have hlength := hranks.perm.length_eq
    refine ⟨_, Summary.sorted samples, hs, hranks, fun other h => h.eq_sorted,
      hranks.perm.mem_iff.1 (List.mem_of_head? hleast),
      hranks.perm.mem_iff.1 (List.mem_of_getLast? hgreatest), ?_, ?_, ?_, ?_, ?_⟩
    · intro x hx
      exact ⟨hranks.head_le hleast hx, hranks.le_getLast hgreatest hx⟩
    · intro n hn
      exact Summary.getElem?_middle_of_odd (hlength.trans hn)
    · intro n hn
      exact Summary.middle_of_even (hlength.trans hn)
    · rw [hlength]
    · intro other hp
      rw [Summary.ofSamples_eq_of_perm hp, hs]
  · obtain ⟨rows', hrows', hp, -, hcells⟩ := hsame.exists_contribution hrows
    exact ⟨rows', hrows', hp, hcells⟩

/-- Zeros with both signs and a negative NaN, and a table with its records turned around. -/
theorem summary_ignores_order_of_zeros :
    let plus : Binary64 := Binary64.zero
    let minus : Binary64 := ⟨0x8000000000000000⟩
    let nan := Binary64.nan true
    let e : Files.Entry := ⟨⟨"a/results.csv"⟩,
      .file (Text.Utf8.bytes "size,time_ms\n1,0.0\n2,-0.0\n2,NaN\n")⟩
    let e' : Files.Entry := ⟨⟨"b/results.csv"⟩,
      .file (Text.Utf8.bytes "size,time_ms\n2,NaN\n2,-0.0\n1,0.0\n")⟩
    (∃ summary, Summary.ofSamples [plus, nan, minus] = some summary ∧ summary.median = minus ∧
      Summary.ofSamples [minus, nan, plus] = some summary) ∧
      ∃ rows rows', e.contribution false = .ok rows ∧ e'.contribution false = .ok rows' ∧
        rows.length = 2 ∧ rows'.Perm rows := by
  intro plus minus nan e e'
  obtain ⟨hsamples, hfiles, -⟩ := summary_ignores_order (σ := Unit) (τ := Unit)
  constructor
  · obtain ⟨summary, ranked, hs, -, hunique, -, -, -, hodd, -, -, hperm⟩ :=
      hsamples [plus, nan, minus] (by decide)
    have hranked : [nan, minus, plus] = ranked := hunique _ ⟨by decide, by decide⟩
    refine ⟨summary, hs, ?_, hperm _ (by decide)⟩
    have hmiddle := hodd 1 rfl
    rw [← hranked] at hmiddle
    exact (Option.some.inj hmiddle).symm
  · have hread : Csv.read (Text.Utf8.bytes "size,time_ms\n1,0.0\n2,-0.0\n2,NaN\n") =
        .ok (["size", "time_ms"], [["1", "0.0"], ["2", "-0.0"], ["2", "NaN"]]) :=
      eq_ok_of_toOption_eq_some (by decide +kernel)
    have hread' : Csv.read (Text.Utf8.bytes "size,time_ms\n2,NaN\n2,-0.0\n1,0.0\n") =
        .ok (["size", "time_ms"], [["2", "NaN"], ["2", "-0.0"], ["1", "0.0"]]) :=
      eq_ok_of_toOption_eq_some (by decide +kernel)
    have hrows := Files.Entry.rows_of_read (e := e) rfl hread
    have htimes : rowSamples e.path (rowsOf (["size", "time_ms"],
        [["1", "0.0"], ["2", "-0.0"], ["2", "NaN"]])) = .ok [plus, minus, Binary64.nan false] :=
      eq_ok_of_toOption_eq_some (by decide +kernel)
    have hcontribution := Files.Entry.contribution_summary_iff.2 ⟨_, _, hrows, htimes, rfl⟩
    obtain ⟨rows', hrows', hp, -⟩ := hfiles e e' _
      ⟨_, _, _, _, _, rfl, hread, rfl, hread', by decide⟩ hcontribution
    refine ⟨_, rows', hcontribution, hrows', ?_, hp⟩
    unfold condense
    rw [List.length_map]
    decide +kernel

end BenchSweep
