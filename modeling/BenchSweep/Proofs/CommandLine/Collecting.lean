import BenchSweep.Proofs.CollectionFaults
import BenchSweep.Proofs.CommandLine.Console

/-! Requests to collect that fail. The table is written after all files were read, so a failure to
collect leaves every file as it was, the one for the table among them. -/
set_option autoImplicit false

namespace BenchSweep.CommandLine

open Console

variable {σ : Type}

section Failed

variable {w : World (Screen σ)} {source output : Path} {raw : Bool}

theorem on_collectRequested_of_not_directory (h : w.files.isDirectory source = false) :
    (collectRequested source output raw).on w = (.error (.notADirectory source), w) := by
  unfold collectRequested
  rw [on_bind_ok (on_get w), h]
  rfl

theorem on_collectRequested_of_error (hd : w.files.isDirectory source = true) {f : Failure}
    (h : ((collect raw source).on w).1 = .error f) :
    (collectRequested source output raw).on w =
      (.error (.failure f), ((collect raw source).on w).2) := by
  have hcollect := on_running (collect raw source) w
  rw [h] at hcollect
  unfold collectRequested
  rw [on_bind_ok (on_get w), hd]
  exact on_bind_error hcollect _

end Failed

/-- Collecting at the start of a call does what it does in any world with these files. -/
theorem collect_atStart (raw : Bool) (source : Path) (w : World σ) (clock : Nat) :
    ((collect raw source).on (atStart w.files clock)).1 = ((collect raw source).on w).1 := by
  rw [fst_on_collect, fst_on_collect]
  rfl

/-- A call that asks to collect what cannot be collected fails and leaves the files alone. -/
theorem call_of_failed_collection {w : World σ} {source output : Path} {raw : Bool} {f : Failure}
    (h : ((collect raw source).on w).1 = .error f) (processors : UInt64) {words : List String}
    (hwords : Request.ofWords words = .ok (.collect source output raw)) (clock : Nat) :
    (call processors words w.files clock).code = 1 ∧
      (call processors words w.files clock).files = w.files ∧
      (w.files.isDirectory source = true →
        (call processors words w.files clock).complaint = some f.message) := by
  rw [← collect_atStart raw source w clock] at h
  cases hd : w.files.isDirectory source with
  | true =>
    rw [call_of_error hwords (on_collectRequested_of_error (w := atStart w.files clock) hd h)]
    exact ⟨rfl, files_on_collect raw source _, fun _ => rfl⟩
  | false =>
    rw [call_of_error hwords (on_collectRequested_of_not_directory (w := atStart w.files clock) hd)]
    exact ⟨rfl, rfl, fun hdirectory => by cases hdirectory⟩

/-- The files of results below a directory are those of that name, and they are read in the order of
their paths. Collecting them succeeds exactly if each of them is a table and, if times are summed up,
all its times are numbers. Otherwise the first file that is not so decides the failure: it cannot be
read; or a record of it has not as many fields as the first one or has a field that is no text, and the
first such record is named; or it is a table, and the first of its times that is no number is named.
Then every call that asks to collect fails, and each file is as it was, be it the one for the table. -/
theorem collection_fails_at_first_offence {w : World σ} (source : Path) (raw : Bool)
    (htree : w.files.Named) :
    let files := w.files.results source
    (∀ place, w.files.find source = .ok (place, .directory) → ∀ e, e ∈ files ↔
      ∃ names : List String, names.getLast? = some "results.csv" ∧
        w.files.leaf? (place ++ names) = some e.node ∧ e.path = names.foldl Path.child source) ∧
    files.Pairwise (fun e e' => List.Lex (· < ·) e.path.parts e'.path.parts) ∧
    ((∃ t, ((collect raw source).on w).1 = .ok t) ↔ ∀ e ∈ files, e.Accepted raw) ∧
    ∀ f, (((collect raw source).on w).1 = .error f ↔ ∃ before e after,
        files = before ++ e :: after ∧ (∀ e' ∈ before, e'.Accepted raw) ∧ e.Offends raw f) ∧
      (((collect raw source).on w).1 = .error f →
        ((collect raw source).on w).2.files = w.files ∧
        ∀ (processors : UInt64) (words : List String) (output : Path) (clock : Nat),
          Request.ofWords words = .ok (.collect source output raw) →
            (call processors words w.files clock).code = 1 ∧
            (call processors words w.files clock).files = w.files ∧
            (w.files.isDirectory source = true →
              (call processors words w.files clock).complaint = some f.message)) := by
  intro files
  refine ⟨fun place hf e => Files.mem_results_iff htree hf, Files.pairwise_results htree source,
    exists_collect_iff, fun f => ⟨collect_eq_error_iff, fun h => ⟨files_on_collect raw source w, ?_⟩⟩⟩
  intro processors words output clock hwords
  exact call_of_failed_collection h processors hwords clock

/-- A file with a bad time, before one that is no table. -/
theorem collection_fails_at_first_offence_of_three_files :
    let first := Text.Utf8.bytes "time_ms\n1\n"
    let second := Text.Utf8.bytes "a,time_ms\nx,1\ny,fast\nz,slow\n"
    let third := Text.Utf8.bytes "a,b\n1\n"
    let tree : Files := ⟨.ofList [(["runs"], .directory),
      (["runs", "a", "results.csv"], .file first), (["runs", "b", "results.csv"], .file second),
      (["runs", "c", "results.csv"], .file third), (["out.csv"], .file [])], []⟩
    let w : World Unit := ⟨tree, 0, [], ()⟩
    let words := ["collect", "runs", "out.csv"]
    tree.Named ∧ ((collect false ⟨"runs"⟩).on w).1 =
        .error (.unreadableSample "results runs/b/results.csv" "fast" "invalid float literal") ∧
      (call 4 words tree 0).code = 1 ∧ (call 4 words tree 0).files = tree := by
  intro first second third tree w words
  let e : Files.Entry := ⟨⟨"runs/a/results.csv"⟩, .file first⟩
  let e' : Files.Entry := ⟨⟨"runs/b/results.csv"⟩, .file second⟩
  let e'' : Files.Entry := ⟨⟨"runs/c/results.csv"⟩, .file third⟩
  have hnamed : tree.Named := by decide +kernel
  have hfiles : w.files.results ⟨"runs"⟩ = [e, e', e''] := by
    have hbelow : w.files.below ["runs"] = [(["a", "results.csv"], .file first),
        (["b", "results.csv"], .file second), (["c", "results.csv"], .file third)] :=
      List.mergeSort_of_pairwise (by decide +kernel)
    rw [Files.results_of_below hnamed (by decide +kernel) hbelow]
    decide +kernel
  have hfirst : Csv.read first = .ok (["time_ms"], [["1"]]) :=
    eq_ok_of_toOption_eq_some (by decide +kernel)
  have hsecond : Csv.read second = .ok (["a", "time_ms"], [["x", "1"], ["y", "fast"],
      ["z", "slow"]]) :=
    eq_ok_of_toOption_eq_some (by decide +kernel)
  have htime : IsTime "1" := ⟨Binary64.ofInt 1, by decide +kernel⟩
  have haccepted : e.Accepted false := by
    refine (Files.Entry.accepted_iff_of_read rfl hfirst).2 fun _ j hj record hrecord cell hcell => ?_
    obtain rfl : record = ["1"] := List.mem_singleton.1 hrecord
    obtain rfl : cell = "1" := List.mem_singleton.1 (List.mem_of_getElem? hcell)
    exact htime
  have hoffends : e'.Offends false
      (.unreadableSample "results runs/b/results.csv" "fast" "invalid float literal") := by
    have hreason : Decimal.readFloat (Text.trim "fast".toList) = .error .invalid := by decide +kernel
    have hbefore : ∀ r ∈ [["x", "1"]], ∀ cell, r[1]? = some cell → IsTime cell := by
      refine List.forall_mem_singleton.2 fun cell hcell => ?_
      cases hcell
      exact htime
    exact .badTime (e := e') rfl rfl hsecond ⟨rfl, by decide⟩ hbefore rfl hreason
  obtain ⟨-, -, -, hfail⟩ := collection_fails_at_first_offence (w := w) ⟨"runs"⟩ false hnamed
  obtain ⟨herror, hcall⟩ := hfail
    (.unreadableSample "results runs/b/results.csv" "fast" "invalid float literal")
  have h := herror.2 ⟨[e], e', [e''], hfiles, List.forall_mem_singleton.2 haccepted, hoffends⟩
  obtain ⟨-, hcalls⟩ := hcall h
  obtain ⟨hcode, hsame, -⟩ := hcalls 4 words ⟨"out.csv"⟩ 0 (by decide +kernel)
  exact ⟨hnamed, h, hcode, hsame⟩

end BenchSweep.CommandLine
