import BenchSweep.Proofs.Decimal
import BenchSweep.Proofs.Sampling

/-! Elapsed times in nanoseconds. Behind its mark a line holds an integer of 64 bits with sign, with
commas anywhere in it and blanks around it, and every other text there makes the line unreadable. -/
set_option autoImplicit false

namespace BenchSweep

/-! ## The number of a line -/

/-- What is read as the number of a line that goes on like this behind the mark. -/
def elapsedNumber (rest : List Char) : List Char := (Text.trim rest).filter (· ≠ ',')

/-- A number of nanoseconds in milliseconds. -/
def nanoseconds (n : Int) : Binary64 := Binary64.ofInt n / Binary64.ofInt 1000000

theorem readElapsed_eq_ok_iff {rest : List Char} {block : List Binary64} :
    readElapsed (elapsedPrefix ++ rest) = .ok block ↔
      ∃ n, Decimal.DenotesInt64 (elapsedNumber rest) n ∧ block = [nanoseconds n] := by
  have hread : ∀ n, Decimal.DenotesInt64 (elapsedNumber rest) n ↔
      Decimal.readInt64 (elapsedNumber rest) = .ok n := fun n => Decimal.readInt64_eq_ok_iff.symm
  simp only [hread]
  unfold readElapsed elapsedNumber
  rw [Text.stripPrefix?_append]
  dsimp only
  cases Decimal.readInt64 ((Text.trim rest).filter (· ≠ ',')) with
  | ok n => simp [nanoseconds, eq_comm]
  | error e => simp

theorem exists_readElapsed_eq_error_iff {rest : List Char} :
    (∃ reason, readElapsed (elapsedPrefix ++ rest) = .error reason) ↔
      ¬∃ n, Decimal.DenotesInt64 (elapsedNumber rest) n := by
  have hok : (∃ n, Decimal.DenotesInt64 (elapsedNumber rest) n) ↔
      ∃ block, readElapsed (elapsedPrefix ++ rest) = .ok block := by
    simp [readElapsed_eq_ok_iff]
  rw [hok]
  cases readElapsed (elapsedPrefix ++ rest) <;> simp

/-- Commas and the blanks around a number do not count. -/
theorem elapsedNumber_grouped {n : Int} {before grouped after : List Char}
    (hb : ∀ c ∈ before, Text.isBlank c = true) (ha : ∀ c ∈ after, Text.isBlank c = true)
    (h : grouped.filter (· ≠ ',') = Decimal.integer n) :
    elapsedNumber (before ++ grouped ++ after) = Decimal.integer n := by
  have hsolid : ∀ c ∈ grouped, Text.isBlank c = false := by
    intro c hc
    by_cases hcomma : c = ','
    · rw [hcomma]
      decide
    · refine Decimal.solid_integer n c ?_
      rw [← h]
      exact List.mem_filter.2 ⟨hc, decide_eq_true hcomma⟩
  have htrim : Text.trim (before ++ grouped ++ after) = grouped :=
    Text.trim_append hb ha (fun c hc => hsolid c (List.mem_of_mem_head? hc))
      fun c hc => hsolid c (List.mem_of_mem_getLast? hc)
  rw [elapsedNumber, htrim, h]

theorem elapsedNumber_integer (n : Int) : elapsedNumber (Decimal.integer n) = Decimal.integer n := by
  have hfilter : (Decimal.integer n).filter (· ≠ ',') = Decimal.integer n := by
    refine List.filter_eq_self.2 fun c hc => decide_eq_true ?_
    rintro rfl
    rcases (Decimal.integerText_integer n).mem _ hc with h | h | h
    · exact absurd h (by decide)
    · exact absurd h (by decide)
    · exact absurd h (by decide)
  have h : elapsedNumber ([] ++ Decimal.integer n ++ []) = Decimal.integer n :=
    elapsedNumber_grouped nofun nofun hfilter
  rwa [List.nil_append, List.append_nil] at h

/-! ## Lines of an output -/

/-- In the format `lf-c` a line that starts with the mark gives a sample exactly if what follows the mark,
without blanks at its ends and without commas, is a sign, if there is one, and digits that denote an
integer of 64 bits with sign; the sample is that many nanoseconds in milliseconds. Any other line with
the mark cannot be read, and the failure names it as it stands. A line without the mark gives no sample.
So commas anywhere in the digits of such an integer, and blanks around it, change nothing. -/
theorem elapsed_reads_grouped_integers {s : Sampler}
    (hs : (SampleFormat.known .lfC).sampler = .ok s) :
    (∀ rest : List Char,
      let line := String.ofList (elapsedPrefix ++ rest)
      let number := (Text.trim rest).filter (· ≠ ',')
      (∀ block, s.samples [line] = .ok block ↔ ∃ n : Int, Decimal.IntegerText number n ∧
        -2 ^ 63 ≤ n ∧ n < 2 ^ 63 ∧ block = [Binary64.ofInt n / Binary64.ofInt 1000000]) ∧
      ((∃ reason, s.samples [line] = .error (.unreadableSample "lf-c" line reason)) ↔
        ¬∃ n : Int, Decimal.IntegerText number n ∧ -2 ^ 63 ≤ n ∧ n < 2 ^ 63)) ∧
    (∀ line : String, ¬elapsedPrefix <+: line.toList → s.samples [line] = .ok []) ∧
    ∀ (n : Int) (before grouped after : List Char), -2 ^ 63 ≤ n → n < 2 ^ 63 →
      grouped.filter (· ≠ ',') = Decimal.integer n →
      (∀ c ∈ before, Text.isBlank c = true) → (∀ c ∈ after, Text.isBlank c = true) →
      ∃ x, s.samples [String.ofList (elapsedPrefix ++ Decimal.integer n)] = .ok [x] ∧
        s.samples [String.ofList (elapsedPrefix ++ (before ++ grouped ++ after))] = .ok [x] := by
  obtain rfl : ⟨"lf-c", readElapsed⟩ = s := Except.ok.inj hs
  have hok : ∀ rest block, Sampler.samples ⟨"lf-c", readElapsed⟩
      [String.ofList (elapsedPrefix ++ rest)] = .ok block ↔
      ∃ n, Decimal.DenotesInt64 (elapsedNumber rest) n ∧ block = [nanoseconds n] := by
    intro rest block
    rw [Sampler.samples_singleton, Sampler.line_eq_ok_iff, String.toList_ofList]
    exact readElapsed_eq_ok_iff
  refine ⟨fun rest => ⟨fun block => ?_, ?_⟩, fun line hline => ?_, ?_⟩
  · rw [hok]
    simp only [Decimal.DenotesInt64, elapsedNumber, nanoseconds, and_assoc]
  · refine (Sampler.exists_unreadable_iff (s := ⟨"lf-c", readElapsed⟩)).trans ?_
    rw [String.toList_ofList]
    exact exists_readElapsed_eq_error_iff
  · rw [Sampler.samples_singleton, Sampler.line_eq_ok_iff]
    change readElapsed line.toList = .ok []
    rw [readElapsed, Text.stripPrefix?_of_not_prefix hline]
  · intro n before grouped after hl hu hg hb ha
    have hn : Decimal.DenotesInt64 (Decimal.integer n) n := ⟨Decimal.integerText_integer n, hl, hu⟩
    refine ⟨nanoseconds n, (hok _ _).2 ⟨n, ?_, rfl⟩, (hok _ _).2 ⟨n, ?_, rfl⟩⟩
    · rwa [elapsedNumber_integer]
    · rwa [elapsedNumber_grouped hb ha hg]

/-- The least integer with commas and blanks, and the first one that is too large. -/
theorem elapsed_reads_grouped_integers_of_extremes :
    let lfC : Sampler := ⟨"lf-c", readElapsed⟩
    let least := "-9,223,372,,036,854775808,".toList
    let large := "9,223,372,036,854,775,808".toList
    (∃ x, lfC.samples [String.ofList (elapsedPrefix ++ "-9223372036854775808".toList)] = .ok [x] ∧
      lfC.samples [String.ofList (elapsedPrefix ++ (['\t', ' '] ++ least ++ [' ']))] = .ok [x]) ∧
    ∃ reason, lfC.samples [String.ofList (elapsedPrefix ++ large)] =
      .error (.unreadableSample "lf-c" (String.ofList (elapsedPrefix ++ large)) reason) := by
  intro lfC least large
  obtain ⟨hread, -, hgrouped⟩ := elapsed_reads_grouped_integers (s := lfC) rfl
  have hleast : Decimal.integer (-2 ^ 63) = "-9223372036854775808".toList := by decide +kernel
  have hcommas : least.filter (· ≠ ',') = Decimal.integer (-2 ^ 63) := by decide +kernel
  refine ⟨?_, (hread large).2.2 ?_⟩
  · rw [← hleast]
    exact hgrouped (-2 ^ 63) ['\t', ' '] least [' '] (by decide) (by decide) hcommas
      (List.all_eq_true.1 (by decide)) (List.all_eq_true.1 (by decide))
  · have hlarge : Decimal.readInt64 ((Text.trim large).filter (· ≠ ',')) = .error .tooLarge := by
      decide +kernel
    rintro ⟨n, hn⟩
    rw [Decimal.readInt64_eq_ok_iff.2 hn] at hlarge
    cases hlarge

end BenchSweep
