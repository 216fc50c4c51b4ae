import BenchSweep.Proofs.Steps
import BenchSweep.Sampling

/-! Samples are read line by line. Two outputs put together give what they give one after the other,
the first line that cannot be read decides the failure, and no line changes what another one gives. -/
set_option autoImplicit false

namespace BenchSweep

/-! ## Lines -/

namespace Sampler

variable {s : Sampler} {line : String} {lines : List String} {block times : List Binary64}
  {f : Failure}

theorem line_eq_ok_iff : s.line line = .ok block ↔ s.read line.toList = .ok block := by
  unfold Sampler.line
  cases s.read line.toList <;> simp

theorem line_eq_error_iff :
    s.line line = .error f ↔
      ∃ reason, s.read line.toList = .error reason ∧ f = .unreadableSample s.label line reason := by
  unfold Sampler.line
  cases s.read line.toList <;> simp [eq_comm]

theorem samples_eq_ok_iff :
    s.samples lines = .ok times ↔
      ∃ blocks, List.Forall₂ (fun line block => s.line line = .ok block) lines blocks ∧
        blocks.flatten = times := by
  unfold samples
  simp only [map_eq_ok_iff, mapM_eq_ok_iff]

theorem samples_eq_error_iff :
    s.samples lines = .error f ↔ ∃ before line after, lines = before ++ line :: after ∧
      (∀ l ∈ before, ∃ block, s.line l = .ok block) ∧ s.line line = .error f := by
  rw [← mapM_eq_error_iff]
  unfold samples
  cases lines.mapM s.line <;> simp [Except.map]

/-- An output cannot be read exactly if one of its lines cannot. -/
theorem exists_samples_error_iff :
    (∃ f, s.samples lines = .error f) ↔ ∃ line ∈ lines, ∃ f, s.line line = .error f := by
  constructor
  · rintro ⟨f, hf⟩
    obtain ⟨before, line, after, rfl, -, hline⟩ := samples_eq_error_iff.1 hf
    exact ⟨line, List.mem_append_cons_self, f, hline⟩
  · rintro ⟨line, hmem, f, hline⟩
    cases h : s.samples lines with
    | error g => exact ⟨g, rfl⟩
    | ok times =>
      obtain ⟨blocks, hblocks, -⟩ := samples_eq_ok_iff.1 h
      obtain ⟨block, -, hblock⟩ := exists_of_mem_of_forall₂ hblocks.flip hmem
      rw [hline] at hblock
      cases hblock

theorem samples_singleton (s : Sampler) (line : String) : s.samples [line] = s.line line := by
  unfold samples
  rw [List.mapM_cons, List.mapM_nil]
  cases s.line line with
  | error f => rfl
  | ok block => exact congrArg Except.ok List.flatten_singleton

theorem exists_unreadable_iff : (∃ reason, s.samples [line] =
    .error (.unreadableSample s.label line reason)) ↔ ∃ reason, s.read line.toList = .error reason := by
  simp [samples_singleton, line_eq_error_iff]

theorem samples_append (s : Sampler) (xs ys : List String) :
    s.samples (xs ++ ys) = do return (← s.samples xs) ++ (← s.samples ys) := by
  unfold samples
  rw [List.mapM_append]
  cases xs.mapM s.line with
  | error f => rfl
  | ok a =>
    cases ys.mapM s.line with
    | error f => rfl
    | ok b => exact congrArg Except.ok List.flatten_append

end Sampler

/-! ## Known formats -/

theorem length_of_fieldSample {field : List Char} {block : List Binary64}
    (h : fieldSample field = .ok block) : block.length = 1 := by
  unfold fieldSample at h
  split at h
  · cases h
    rfl
  · cases h

theorem length_of_readMarked {marker : String} {line : List Char} {block : List Binary64}
    (h : readMarked marker line = .ok block) : block.length ≤ 1 := by
  unfold readMarked at h
  split at h
  · split at h
    · exact Nat.le_of_eq (length_of_fieldSample h)
    · cases h
      exact Nat.zero_le 1
  · cases h
    exact Nat.zero_le 1

/-- A line of a known format gives one sample or none. -/
theorem KnownFormat.length_of_reader {k : KnownFormat} {line : List Char} {block : List Binary64}
    (h : k.reader line = .ok block) : block.length ≤ 1 := by
  cases k with
  | akka => exact length_of_readMarked h
  | caf => exact length_of_readMarked h
  | lfCpp =>
    change readDashed line = .ok block at h
    unfold readDashed at h
    split at h
    · split at h
      · exact Nat.le_of_eq (length_of_fieldSample h)
      · cases h
        exact Nat.zero_le 1
    · cases h
      exact Nat.zero_le 1
  | lfC =>
    change readElapsed line = .ok block at h
    unfold readElapsed at h
    split at h
    · cases h
      exact Nat.zero_le 1
    · split at h
      · cases h
        exact Nat.le_refl 1
      · cases h

/-! ## Patterns -/

/-- What a pattern finds in a line: the text of each match and, if it took part, that of its
group. -/
abbrev Finder := List Char → List (List Char × Option (List Char))

/-- The sample parts of the matches: their groups, if the pattern has groups, or else their whole
texts. -/
def Finder.parts (find : Finder) (grouped : Bool) : Matcher := fun line =>
  (find line).filterMap fun m => if grouped then m.2 else some m.1

/-- What a program finds in a line. -/
def Regex.Program.find (p : Regex.Program) : Finder := fun line =>
  (p.allMatches line).map fun m => (m.whole.of line, m.group.map (·.of line))

theorem Regex.Program.matcher_eq_parts (p : Regex.Program) :
    p.matcher = p.find.parts (p.groups ≠ 0) := by
  funext line
  unfold matcher Finder.parts find samplePart
  rw [List.filterMap_map]
  refine List.filterMap_congr fun m _ => ?_
  by_cases h : p.groups = 0
  · simp [h]
  · simp [h]

theorem readParts_eq_ok_iff {parts : Matcher} {scale : Binary64} {line : List Char}
    {block : List Binary64} :
    readParts parts scale line = .ok block ↔ List.Forall₂ (fun part x =>
      ∃ v, Decimal.readFloat (Text.trim part) = .ok v ∧ x = v * scale) (parts line) block := by
  unfold readParts
  rw [mapM_eq_ok_iff]
  constructor
  · refine List.Forall₂.imp fun part x h => ?_
    split at h
    · rename_i v hv
      exact ⟨v, hv, (Except.ok.inj h).symm⟩
    · cases h
  · refine List.Forall₂.imp fun part x h => ?_
    obtain ⟨v, hv, rfl⟩ := h
    rw [hv]

/-- The formats that a definition can ask for: known ones, and patterns. -/
theorem sampler_eq_ok_iff {format : SampleFormat} {s : Sampler} :
    format.sampler = .ok s ↔ s.label = format.label ∧
      ((∃ k, format = .known k ∧ s.read = k.reader) ∨
        ∃ p scale program, format = .pattern p scale ∧ Regex.compile p = .ok program ∧
          s.read = readParts (program.find.parts (program.groups ≠ 0)) scale) := by
  obtain ⟨label, read⟩ := s
  cases format with
  | known k => simp [SampleFormat.sampler, eq_comm]
  | pattern p scale =>
    unfold SampleFormat.sampler
    cases hp : Regex.compile p with
    | error fault => simp [hp]
    | ok program => simp [hp, program.matcher_eq_parts, eq_comm]

/-- A match whose group took no part gives no sample, every other one gives one. -/
theorem length_of_readParts {find : Finder} {grouped : Bool} {scale : Binary64} {line : List Char}
    {block : List Binary64} (h : readParts (find.parts grouped) scale line = .ok block) :
    block.length = if grouped then (find line).countP (·.2.isSome) else (find line).length := by
  have hlength : block.length = (find.parts grouped line).length :=
    (readParts_eq_ok_iff.1 h).length_eq.symm
  rw [hlength]
  unfold Finder.parts
  rw [List.length_filterMap_eq_countP]
  cases grouped <;> simp

/-! ## Outputs -/

/-- Whatever a sampler makes of a line, two outputs put together give the samples of the first and then
those of the second; if the first cannot be read its failure counts, or else that of the second. So the
samples of an output are those of its lines, each read alone, in the order of the lines. An output cannot
be read exactly if some line alone cannot, and the failure names the first such line as it stands there.
A line of a known format gives one sample or none. A line of a pattern, whatever the pattern finds in it,
gives one for each match, except for those whose group took no part, and the sample is the number in its
part times the scale. The formats of definitions are known ones and patterns. -/
theorem samples_read_line_by_line (s : Sampler) :
    (∀ xs ys,
      (∀ a b, s.samples xs = .ok a → s.samples ys = .ok b →
        s.samples (xs ++ ys) = .ok (a ++ b)) ∧
      (∀ f, s.samples xs = .error f → s.samples (xs ++ ys) = .error f) ∧
      ∀ a f, s.samples xs = .ok a → s.samples ys = .error f → s.samples (xs ++ ys) = .error f) ∧
    (∀ lines times, s.samples lines = .ok times ↔ ∃ blocks,
      List.Forall₂ (fun line block => s.samples [line] = .ok block) lines blocks ∧
        blocks.flatten = times) ∧
    (∀ lines, (∃ f, s.samples lines = .error f) ↔
      ∃ line ∈ lines, ∃ f, s.samples [line] = .error f) ∧
    (∀ lines f, s.samples lines = .error f ↔ ∃ before line after,
      lines = before ++ line :: after ∧ (∀ l ∈ before, ∃ block, s.samples [l] = .ok block) ∧
        ∃ reason, s.read line.toList = .error reason ∧
          f = .unreadableSample s.label line reason) ∧
    (∀ k : KnownFormat, s.read = k.reader → ∀ line block, s.samples [line] = .ok block →
      block.length ≤ 1) ∧
    (∀ (find : Finder) grouped scale, s.read = readParts (find.parts grouped) scale →
      ∀ line block, s.samples [line] = .ok block →
        block.length = (if grouped then (find line.toList).countP (·.2.isSome)
          else (find line.toList).length) ∧
        List.Forall₂ (fun part x => ∃ v, Decimal.readFloat (Text.trim part) = .ok v ∧ x = v * scale)
          (find.parts grouped line.toList) block) ∧
    ∀ format : SampleFormat, format.sampler = .ok s ↔ s.label = format.label ∧
      ((∃ k, format = .known k ∧ s.read = k.reader) ∨
        ∃ p scale program, format = .pattern p scale ∧ Regex.compile p = .ok program ∧
          s.read = readParts (program.find.parts (program.groups ≠ 0)) scale) := by
  simp only [Sampler.samples_singleton]
  refine ⟨fun xs ys => ⟨?_, ?_, ?_⟩, fun lines times => Sampler.samples_eq_ok_iff,
    fun lines => Sampler.exists_samples_error_iff, fun lines f => ?_, ?_, ?_,
    fun format => sampler_eq_ok_iff⟩
  · intro a b ha hb
    rw [s.samples_append, ha, hb]
    rfl
  · intro f hf
    rw [s.samples_append, hf]
    rfl
  · intro a f ha hf
    rw [s.samples_append, ha, hf]
    rfl
  · rw [Sampler.samples_eq_error_iff]
    simp only [Sampler.line_eq_error_iff]
  · intro k hk line block h
    have hread := Sampler.line_eq_ok_iff.1 h
    rw [hk] at hread
    exact KnownFormat.length_of_reader hread
  · intro find grouped scale hp line block h
    have hread := Sampler.line_eq_ok_iff.1 h
    rw [hp] at hread
    exact ⟨length_of_readParts hread, readParts_eq_ok_iff.1 hread⟩

/-- An output with two lines that cannot be read, and a pattern with a group that may stay out. -/
theorem samples_read_line_by_line_of_bad_lines :
    let akka : Sampler := ⟨"akka", KnownFormat.akka.reader⟩
    let good := ["sort Iteration-0: 12.5 ms"]
    let bad := ["done", "sort Iteration-1: abc ms", "sort Iteration-2: x ms"]
    let find : Finder := fun line => [(line, none), (line, some ['1'])]
    let pattern : Sampler := ⟨"pattern", readParts (find.parts true) (Binary64.ofInt 2)⟩
    akka.samples good = .ok [⟨0x4029000000000000⟩] ∧
      akka.samples (good ++ bad) = .error (.unreadableSample "akka" "sort Iteration-1: abc ms"
        "invalid float literal") ∧
      ∃ block, pattern.samples ["took"] = .ok block ∧ block.length = 1 := by
  intro akka good bad find pattern
  have hgood : akka.samples good = .ok [⟨0x4029000000000000⟩] :=
    eq_ok_of_toOption_eq_some (by decide +kernel)
  have hdone : akka.samples ["done"] = .ok [] := eq_ok_of_toOption_eq_some (by decide +kernel)
  have habc : akka.read "sort Iteration-1: abc ms".toList = .error "invalid float literal" := by
    decide +kernel
  obtain ⟨happend, -, herror, hfirst, -⟩ := samples_read_line_by_line akka
  obtain ⟨-, -, -, -, -, hpattern, -⟩ := samples_read_line_by_line pattern
  have hbad := (hfirst bad _).2 ⟨["done"], _, _, rfl, List.forall_mem_singleton.2 ⟨_, hdone⟩, _,
    habc, rfl⟩
  refine ⟨hgood, (happend good bad).2.2 _ _ hgood hbad, ?_⟩
  obtain ⟨block, hblock⟩ : ∃ block, pattern.samples ["took"] = .ok block := ⟨_, rfl⟩
  exact ⟨block, hblock, (hpattern find true _ rfl "took" block hblock).1⟩

end BenchSweep
