import BenchSweep.Proofs.Collection
import BenchSweep.Proofs.Tidy
import Mathlib.Data.List.Perm.Basic

/-! One table from the results of several runs. The files that are collected are the leaves of that
name below the source, each once; if they are the tables of runs under one header, what is collected
are the rows of these runs, one run after the other. -/
set_option autoImplicit false

namespace BenchSweep

variable {σ : Type}

/-! ## Files of results -/

namespace Files

variable {fs : Files} {source : Path} {place : Location}

/-- The leaves called like a file of results below a place, in the order of their names. -/
def resultsBelow (fs : Files) (place : Location) : List (List String × Node) :=
  (fs.below place).filter fun (names, node) =>
    node ≠ .directory && names.getLast? = some resultsName

theorem mem_resultsBelow_iff {names : List String} {node : Node} :
    (names, node) ∈ fs.resultsBelow place ↔
      names.getLast? = some resultsName ∧ fs.leaf? (place ++ names) = some node := by
  unfold resultsBelow
  rw [List.mem_filter, mem_below_iff, leaf?_eq_some_iff, Bool.and_eq_true, decide_eq_true_iff,
    decide_eq_true_iff]
  constructor
  · rintro ⟨⟨hne, hget⟩, hd, hlast⟩
    refine ⟨hlast, ?_, hd⟩
    unfold node?
    rw [if_neg (by simp [hne]), hget]
  · rintro ⟨hlast, hnode, hd⟩
    have hne : names ≠ [] := by
      rintro rfl
      cases hlast
    unfold node? at hnode
    rw [if_neg (by simp [hne])] at hnode
    exact ⟨⟨hne, hnode⟩, hd, hlast⟩

theorem nodup_resultsBelow (fs : Files) (place : Location) :
    ((fs.resultsBelow place).map Prod.fst).Nodup :=
  (fs.nodup_below place).sublist (List.Sublist.map _ List.filter_sublist)

/-- What is collected from a directory are the leaves of that name below it. -/
theorem results_eq (h : fs.Named) (hf : fs.find source = .ok (place, .directory)) :
    fs.results source = (fs.resultsBelow place).map fun (names, node) =>
      ⟨names.foldl Path.child source, node⟩ := by
  have hwalk : fs.walk source = ⟨source, .directory⟩ :: (fs.below place).map fun (names, node) =>
      ⟨names.foldl Path.child source, node⟩ := by
    unfold walk
    rw [hf]
  unfold results resultsBelow
  rw [hwalk, List.filter_cons_of_neg (by simp), List.filter_map]
  congr 1
  refine List.filter_congr ?_
  rintro ⟨names, node⟩ hmem
  have hname : Entry.name ⟨names.foldl Path.child source, node⟩ =
      names.getLast?.getD (names.foldl Path.child source).text := by
    unfold Entry.name
    rw [fileName?_foldl_child (h.of_mem_below hmem) (mem_below_iff.1 hmem).1]
  obtain ⟨first, rest, hnames⟩ := List.exists_cons_of_ne_nil (mem_below_iff.1 hmem).1
  obtain ⟨last, hlast⟩ := Option.isSome_iff_exists.1
    (List.getLast?_isSome.2 (mem_below_iff.1 hmem).1)
  simp only [Function.comp_apply, hname, hlast, Option.getD_some, Option.some.injEq]

theorem results_of_below (h : fs.Named) (hf : fs.find source = .ok (place, .directory))
    {nodes : List (List String × Node)} (hb : fs.below place = nodes) :
    fs.results source = (nodes.filter fun (names, node) =>
      node ≠ .directory && names.getLast? = some resultsName).map fun (names, node) =>
        ⟨names.foldl Path.child source, node⟩ := by
  rw [results_eq h hf, resultsBelow, hb]

/-- If the leaves of that name are known, so are the files that are collected, up to their order. -/
theorem results_perm (h : fs.Named) (hf : fs.find source = .ok (place, .directory))
    {expected : List (List String × Node)} (hnodup : (expected.map Prod.fst).Nodup)
    (hexpected : ∀ names node, (names, node) ∈ expected ↔
      names.getLast? = some resultsName ∧ fs.leaf? (place ++ names) = some node) :
    ((fs.results source).map Entry.node).Perm (expected.map Prod.snd) := by
  have hperm : (fs.resultsBelow place).Perm expected := by
    rw [List.perm_ext_iff_of_nodup (.of_map _ (fs.nodup_resultsBelow place)) (.of_map _ hnodup)]
    rintro ⟨names, node⟩
    rw [mem_resultsBelow_iff, hexpected]
  rw [results_eq h hf, List.map_map]
  exact hperm.map Prod.snd

end Files

/-! ## Rows of several runs -/

/-- A run whose results are collected: what its records share, and its samples. -/
abbrev Measured := RunContext × List Binary64

namespace Measured

def node (m : Measured) : Node := .file (m.1.table m.2)

def rows (m : Measured) : List Row := (Sample.number m.2).map m.1.row

theorem length_rows (m : Measured) : m.rows.length = m.2.length := by
  simp [rows, Sample.number]

theorem contribution_raw {m : Measured} {e : Files.Entry} (h : e.node = m.node) :
    e.contribution true = .ok m.rows := contribution_written h

theorem contribution_summary {m : Measured} {e : Files.Entry} (h : e.node = m.node) :
    e.contribution false = .ok (m.1.summaryRows m.2) :=
  (contribution_written h).trans (m.1.summarise_rows e.path m.2)

/-- Files that hold the results of runs in some order hold those of the runs put in that order. -/
theorem exists_order {nodes : List Node} {runs : List Measured}
    (h : nodes.Perm (runs.map Measured.node)) :
    ∃ order : List Measured, order.Perm runs ∧ nodes = order.map Measured.node := by
  have hcomp : Relation.Comp (· = List.map Measured.node ·) List.Perm nodes runs := by
    rw [List.eq_map_comp_perm]
    exact h
  obtain ⟨order, hnodes, hperm⟩ := hcomp
  exact ⟨order, hperm, hnodes⟩

theorem map_node_eq_iff {files : List Files.Entry} {runs : List Measured} :
    files.map Files.Entry.node = runs.map Measured.node ↔
      List.Forall₂ (fun e m => e.node = m.node) files runs := by
  rw [← List.forall₂_eq_eq_eq, List.forall₂_map_left_iff, List.forall₂_map_right_iff]

end Measured

section Tables

variable {w : World σ} {source : Path} {order : List Measured}

theorem on_collect_of_runs {raw : Bool} {rows : Measured → List Row}
    (hrows : ∀ {m : Measured} {e : Files.Entry}, e.node = m.node →
      e.contribution raw = .ok (rows m))
    (h : (w.files.results source).map Files.Entry.node = order.map Measured.node) :
    ∃ w', (collect raw source).on w =
      (.ok ((order.flatMap rows).foldl Table.push Table.empty), w') := by
  rw [List.flatMap_def]
  refine on_collect ?_
  rw [List.forall₂_map_right_iff]
  exact (Measured.map_node_eq_iff.1 h).imp fun _ _ => hrows

theorem length_rows_of_runs (order : List Measured) :
    (order.flatMap Measured.rows).length = (order.flatMap Prod.snd).length := by
  rw [List.length_flatMap, List.length_flatMap]
  exact congrArg List.sum (List.map_congr_left fun m _ => m.length_rows)

theorem rows_ne_nil (h : ∃ m ∈ order, m.2 ≠ []) : order.flatMap Measured.rows ≠ [] := by
  obtain ⟨m, hm, hsamples⟩ := h
  intro hnil
  have hlength := m.length_rows
  rw [List.flatMap_eq_nil_iff.1 hnil m hm] at hlength
  exact hsamples (List.length_eq_zero_iff.1 hlength.symm)

variable {header : List String}

theorem keys_of_mem_rows (hheader : ∀ m ∈ order, m.1.header = header) {r : Row}
    (h : r ∈ order.flatMap Measured.rows) : r.keys = header := by
  obtain ⟨m, hm, hr⟩ := List.mem_flatMap.1 h
  obtain ⟨s, -, rfl⟩ := List.mem_map.1 hr
  rw [m.1.keys_row, hheader m hm]

/-- Runs under one header are collected into a table under this header that has no gaps. -/
theorem collect_runs (hheader : ∀ m ∈ order, m.1.header = header)
    (h : (w.files.results source).map Files.Entry.node = order.map Measured.node) :
    ∃ t w', (collect true source).on w = (.ok t, w') ∧
      t.rows = order.flatMap Measured.rows ∧
      ((∃ m ∈ order, m.2 ≠ []) → t.columns = header) ∧
      ∀ r ∈ t.rows, ∀ column ∈ t.columns, ∃ cell, r.get? column = some cell := by
  obtain ⟨w', hcollect⟩ := on_collect_of_runs Measured.contribution_raw h
  have hrows : ((order.flatMap Measured.rows).foldl Table.push Table.empty).rows =
      order.flatMap Measured.rows := Table.rows_foldl_push _ Table.empty
  have hcolumns : order.flatMap Measured.rows ≠ [] →
      ((order.flatMap Measured.rows).foldl Table.push Table.empty).columns = header :=
    Table.columns_of_rows fun r hr => keys_of_mem_rows hheader hr
  refine ⟨_, w', hcollect, hrows, fun hsamples => hcolumns (rows_ne_nil hsamples), ?_⟩
  rw [hrows]
  intro r hr column hcolumn
  rw [hcolumns (List.ne_nil_of_mem hr), ← keys_of_mem_rows hheader hr] at hcolumn
  exact OrderedMap.mem_keys_iff.1 hcolumn

theorem collect_summaries
    (h : (w.files.results source).map Files.Entry.node = order.map Measured.node) :
    ∃ t w', (collect false source).on w = (.ok t, w') ∧
      t.rows = order.flatMap fun m => m.1.summaryRows m.2 := by
  obtain ⟨w', hcollect⟩ := on_collect_of_runs Measured.contribution_summary h
  exact ⟨_, w', hcollect, Table.rows_foldl_push _ Table.empty⟩

end Tables

end BenchSweep
