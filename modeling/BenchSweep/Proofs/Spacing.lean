import BenchSweep.Proofs.Sampling
import BenchSweep.Proofs.Text.Blank

/-! The spacing of a line does not count. The formats whose marker holds no blank see only the fields
of a line, so lines with the same fields are read alike; the marker with a space at its end is found
again when the blanks are made single spaces, since a field follows it in every line that is read. -/
set_option autoImplicit false

namespace BenchSweep

/-! ## Lines that are read alike -/

/-- Both lines give no sample, or the same one, or cannot be read for the same reason. -/
inductive Sampler.ReadsAlike (s : Sampler) (l m : String) : Prop
  | nothing (hl : s.samples [l] = .ok []) (hm : s.samples [m] = .ok [])
  | sample (x : Binary64) (hl : s.samples [l] = .ok [x]) (hm : s.samples [m] = .ok [x])
  | unreadable (reason : String)
      (hl : s.samples [l] = .error (.unreadableSample s.label l reason))
      (hm : s.samples [m] = .error (.unreadableSample s.label m reason))

theorem KnownFormat.readsAlike {k : KnownFormat} {s : Sampler} (hs : s.read = k.reader)
    {l m : String} (h : k.reader l.toList = k.reader m.toList) : s.ReadsAlike l m := by
  have hline : ∀ line, s.samples [line] = s.line line := s.samples_singleton
  cases hl : k.reader l.toList with
  | error reason =>
    have hread : ∀ {line : String}, k.reader line.toList = .error reason →
        s.samples [line] = .error (.unreadableSample s.label line reason) := by
      intro line h
      rw [hline, Sampler.line_eq_error_iff, hs]
      exact ⟨reason, h, rfl⟩
    exact .unreadable reason (hread hl) (hread (h ▸ hl))
  | ok block =>
    have hread : ∀ {line : String}, k.reader line.toList = .ok block →
        s.samples [line] = .ok block := by
      intro line h
      rw [hline, Sampler.line_eq_ok_iff, hs]
      exact h
    have hlength := length_of_reader hl
    match block with
    | [] => exact .nothing (hread hl) (hread (h ▸ hl))
    | [x] => exact .sample x (hread hl) (hread (h ▸ hl))
    | x :: y :: rest => simp at hlength

/-! ## Marked lines -/

theorem readMarked_congr {marker : String} (hne : marker.toList ≠ [])
    (hmarker : ∀ c ∈ marker.toList, Text.isBlank c = false) {l m : List Char}
    (h : Text.fields l = Text.fields m) : readMarked marker l = readMarked marker m := by
  have hoccurs : Text.occurs marker.toList l = Text.occurs marker.toList m := by
    rw [Bool.eq_iff_iff, Text.occurs_iff, Text.occurs_iff,
      Text.infix_iff_exists_mem_fields hne hmarker, Text.infix_iff_exists_mem_fields hne hmarker, h]
  unfold readMarked
  rw [h, hoccurs]

theorem KnownFormat.reader_congr {k : KnownFormat} (hk : k = .akka ∨ k = .caf) {l m : List Char}
    (h : Text.fields l = Text.fields m) : k.reader l = k.reader m := by
  rcases hk with rfl | rfl
  · exact readMarked_congr (by decide) (Text.not_isBlank_of_any (by decide)) h
  · exact readMarked_congr (by decide) (Text.not_isBlank_of_any (by decide)) h

/-! ## Dashed lines -/

/-- What a line needs to be read as a dashed one. -/
theorem readDashed_ne_nothing {line : List Char} (h : readDashed line ≠ .ok []) :
    ∃ label number dash time, Text.fields line = [label, number, dash, time, "ms".toList] ∧
      "Iteration ".toList <:+: line := by
  unfold readDashed at h
  split at h
  · rename_i label number dash time unit hfields
    split at h
    · rename_i hgate
      rw [Bool.and_eq_true, Bool.and_eq_true, decide_eq_true_iff, decide_eq_true_iff] at hgate
      obtain ⟨⟨-, rfl⟩, hoccurs⟩ := hgate
      exact ⟨label, number, dash, time, hfields, Text.occurs_iff.1 hoccurs⟩
    · exact (h rfl).elim
  · exact (h rfl).elim

theorem readDashed_singleSpaced {line : List Char} (h : readDashed line ≠ .ok []) :
    readDashed (Text.singleSpaced line) = readDashed line := by
  obtain ⟨label, number, dash, time, hfields, hmarker⟩ := readDashed_ne_nothing h
  have hspaced : "Iteration ".toList <:+: Text.singleSpaced line := by
    have hword : ∀ c ∈ "Iteration".toList, Text.isBlank c = false :=
      Text.not_isBlank_of_any (by decide)
    rcases Text.infix_singleSpaced_or (by decide) hword hmarker with hspaced | ⟨f, hf, hsuffix⟩
    · exact hspaced
    · rw [hfields] at hf
      obtain rfl : "ms".toList = f := by simpa using hf
      exact absurd hsuffix (by decide)
  have hoccurs : Text.occurs "Iteration ".toList (Text.singleSpaced line) =
      Text.occurs "Iteration ".toList line := by
    rw [Text.occurs_iff.2 hspaced, Text.occurs_iff.2 hmarker]
  unfold readDashed
  rw [Text.fields_singleSpaced, hoccurs]

/-! ## Lines of an output -/

/-- A line with its fields set apart by single spaces has the same fields. Lines with the same fields
are read alike by the formats `akka` and `caf`, whatever blanks stand around the fields: they give no
sample, or the same one, or cannot be read for the same reason. A line that gives a sample in the format
`lf-cpp`, or cannot be read, is read alike when its fields are set apart by single spaces. -/
theorem spacing_keeps_samples {k : KnownFormat} {s : Sampler}
    (hs : (SampleFormat.known k).sampler = .ok s) :
    (∀ l : String, Text.fields (Text.singleSpaced l.toList) = Text.fields l.toList) ∧
    (k = .akka ∨ k = .caf →
      (∀ l m : String, Text.fields l.toList = Text.fields m.toList → s.ReadsAlike l m) ∧
      ∀ l : String, s.ReadsAlike l (String.ofList (Text.singleSpaced l.toList))) ∧
    (k = .lfCpp → ∀ l : String, s.samples [l] ≠ .ok [] →
      s.ReadsAlike l (String.ofList (Text.singleSpaced l.toList))) := by
  obtain rfl : ⟨k.name, k.reader⟩ = s := Except.ok.inj hs
  refine ⟨fun l => Text.fields_singleSpaced l.toList, fun hk => ⟨fun l m h => ?_, fun l => ?_⟩, ?_⟩
  · exact KnownFormat.readsAlike rfl (KnownFormat.reader_congr hk h)
  · refine KnownFormat.readsAlike rfl (KnownFormat.reader_congr hk ?_)
    rw [String.toList_ofList, Text.fields_singleSpaced]
  · rintro rfl l hread
    refine KnownFormat.readsAlike (k := .lfCpp) rfl ?_
    have hne : readDashed l.toList ≠ .ok [] := by
      intro h
      refine hread ?_
      rw [Sampler.samples_singleton, Sampler.line_eq_ok_iff]
      exact h
    rw [String.toList_ofList]
    exact (readDashed_singleSpaced hne).symm

/-- A tab, a no-break space and blanks at both ends, in a line of each kind. -/
theorem spacing_keeps_samples_of_tabs :
    let akka : Sampler := ⟨"akka", KnownFormat.akka.reader⟩
    let dashed : Sampler := ⟨"lf-cpp", KnownFormat.lfCpp.reader⟩
    let marked := "\tsort\u00a0Iteration-0:  12.5\tms "
    let bad := " Iteration  0\t-\u2003abc ms"
    akka.samples [marked] = .ok [⟨0x4029000000000000⟩] ∧
      akka.ReadsAlike marked "sort Iteration-0: 12.5 ms" ∧
      dashed.samples [bad] = .error (.unreadableSample "lf-cpp" bad "invalid float literal") ∧
      dashed.ReadsAlike bad "Iteration 0 - abc ms" := by
  intro akka dashed marked bad
  have hmarked : akka.samples [marked] = .ok [⟨0x4029000000000000⟩] :=
    eq_ok_of_toOption_eq_some (by decide +kernel)
  have hbad : dashed.samples [bad] =
      .error (.unreadableSample "lf-cpp" bad "invalid float literal") := by
    rw [Sampler.samples_singleton, Sampler.line_eq_error_iff]
    exact ⟨_, by decide +kernel, rfl⟩
  have hne : dashed.samples [bad] ≠ .ok [] := by
    rw [hbad]
    exact nofun
  obtain ⟨-, hfields, -⟩ := spacing_keeps_samples (k := .akka) (s := akka) rfl
  obtain ⟨-, -, hspaced⟩ := spacing_keeps_samples (k := .lfCpp) (s := dashed) rfl
  have hsingle : String.ofList (Text.singleSpaced bad.toList) = "Iteration 0 - abc ms" := by
    decide +kernel
  exact ⟨hmarked, (hfields (.inl rfl)).1 marked _ (by decide +kernel), hbad,
    hsingle ▸ hspaced rfl bad hne⟩

end BenchSweep
