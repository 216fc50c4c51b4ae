import BenchSweep.Proofs.Answers

/-! Files that agree below the directory of a plan. A run changes nothing but what stands below its
directory, apart from the way to it; and two runs of one plan that find the same below their
directory, whatever stands elsewhere, do the same and leave the same there but for the two times
that their records show. -/
set_option autoImplicit false

namespace BenchSweep

/-! ## Paths into a directory -/

namespace Files

section Child

variable {p : Path} {name : String} (hn : Path.IsPart name) (hdots : name ≠ "." ∧ name ≠ "..")

include hn hdots

theorem writable_child {fs : Files} {l : Location} (h : fs.writable (p.child name) = .ok l) :
    l = fs.place p ++ [name] ∧ Free (fs.node? l) ∧ fs.Leads (fs.start p) p.parts := by
  obtain ⟨hl, -, hf⟩ := writable_eq_ok_iff.1 h
  refine ⟨?_, hf, leads_of_locate_child hn hl⟩
  rw [place_of_locate hl, fs.place_child p hn hdots]

theorem below_write_child {fs : Files} {l : Location} (h : fs.writable (p.child name) = .ok l)
    (content : List UInt8) : Below (fs.place p) fs (fs.put l (.file content)) := by
  obtain ⟨rfl, hf, -⟩ := writable_child hn hdots h
  exact below_write (List.prefix_append _ _) hf content

/-- Whether a file can be written in a directory that is found is decided by what stands at its
place. -/
theorem writable_child_congr {fs fs' : Files} (hhere : fs'.here = fs.here)
    (hs : name.utf8ByteSize ≤ nameLimit) (hl : fs.Leads (fs.start p) p.parts)
    (hl' : fs'.Leads (fs'.start p) p.parts)
    (hnode : fs'.node? (fs.place p ++ [name]) = fs.node? (fs.place p ++ [name])) :
    fs'.writable (p.child name) = fs.writable (p.child name) := by
  have hlocate : fs'.locate (p.child name) = fs.locate (p.child name) := by
    rw [locate_child_of_leads hn hdots hl hs, locate_child_of_leads hn hdots hl' hs,
      place_congr hhere]
  unfold writable
  rw [hlocate]
  cases hx : fs.locate (p.child name) with
  | error fault => rfl
  | ok place =>
    obtain rfl : place = fs.place p ++ [name] := by
      rw [place_of_locate hx, fs.place_child p hn hdots]
    simp only [bind, Except.bind, hnode]

end Child

end Files

namespace Plan

variable {p : Plan} {answer : Invocation → Except Failure Execution}

/-- Whether a run of the plan does not get as far as its directory. -/
def Idle (p : Plan) : Prop := p.report.passed = false ∨ ∃ f, p.format = .error f

/-! ## What a run changes -/

theorem below_recordFiles {record : Option String} {fs fs' : Files}
    (h : p.recordFiles record fs = .ok fs') : Files.Below (fs.place p.directory) fs fs' := by
  unfold recordFiles at h
  cases record with
  | none => cases h
  | some text =>
    dsimp only [Files.write] at h
    cases hw : fs.writable p.manifestPath with
    | error fault =>
      rw [hw] at h
      cases h
    | ok place =>
      rw [hw] at h
      cases h
      exact Files.below_write_child (by decide) (by decide) hw _

theorem below_prepareFiles (p : Plan) (record : Option String) (fs : Files) :
    Files.Below (fs.place p.directory) (fs.makeDirectories p.directory).1
      (p.prepareFiles record fs).1 := by
  have hhere := fs.here_makeDirectories p.directory
  unfold prepareFiles
  rcases hd : fs.makeDirectories p.directory with ⟨made, _ | fault⟩
  · rw [hd] at hhere
    dsimp only
    cases hr : p.recordFiles record made with
    | error f => exact .refl _ made
    | ok recorded =>
      rw [← Files.place_congr hhere]
      exact below_recordFiles hr
  · exact .refl _ made

theorem below_finish (p : Plan) (fs : Files) (x : Except Failure (List Binary64)) :
    Files.Below (fs.place p.directory) fs (p.finish fs x).2 := by
  unfold finish
  cases x with
  | error f => exact .refl _ fs
  | ok times =>
    dsimp only
    cases hw : fs.writable p.resultsPath with
    | error fault => exact .refl _ fs
    | ok place => exact Files.below_write_child (by decide) (by decide) hw _

theorem below_behaviourFrom (p : Plan) (answer : Invocation → Except Failure Execution)
    (b : Binding) (sampler : Sampler) (fs : Files) :
    Files.Below (fs.place p.directory) fs (p.behaviourFrom answer b sampler fs).files := by
  unfold behaviourFrom
  split
  · exact .refl _ fs
  · exact p.below_finish fs _

/-- Behind the directories on its way a run changes nothing but what stands below its own. -/
theorem below_behaviour (p : Plan) (answer : Invocation → Except Failure Execution)
    (record : Option String) (fs : Files) :
    p.Idle ∧ (p.behaviour answer record fs).files = fs ∨
      Files.Below (fs.place p.directory) (fs.makeDirectories p.directory).1
        (p.behaviour answer record fs).files := by
  cases hp : p.report.passed with
  | false =>
    rw [behaviour_of_refused answer hp]
    exact .inl ⟨.inl hp, rfl⟩
  | true =>
    cases hf : p.format with
    | error f =>
      rw [behaviour_of_unread answer hp hf]
      exact .inl ⟨.inr ⟨f, hf⟩, rfl⟩
    | ok y =>
      obtain ⟨b, sampler⟩ := y
      have hbelow := p.below_prepareFiles record fs
      rcases hprep : p.prepareFiles record fs with ⟨prepared, f | u⟩
      · rw [hprep] at hbelow
        rw [behaviour_of_unprepared answer hp hf hprep]
        exact .inr hbelow
      · rw [hprep] at hbelow
        rw [behaviour_of_prepared answer hp hf hprep]
        have hplace : prepared.place p.directory = fs.place p.directory :=
          Files.place_congr (hbelow.here.trans (fs.here_makeDirectories p.directory)) p.directory
        have hfrom := p.below_behaviourFrom answer b sampler prepared
        rw [hplace] at hfrom
        exact .inr (hbelow.trans hfrom)

theorem here_behaviour (p : Plan) (answer : Invocation → Except Failure Execution)
    (record : Option String) (fs : Files) :
    (p.behaviour answer record fs).files.here = fs.here := by
  rcases p.below_behaviour answer record fs with ⟨-, hfiles⟩ | hbelow
  · rw [hfiles]
  · exact hbelow.here.trans (fs.here_makeDirectories p.directory)

theorem exists_format_of_not_idle (h : ¬ p.Idle) :
    p.report.passed = true ∧ ∃ b sampler, p.format = .ok (b, sampler) := by
  obtain ⟨hp, hf⟩ := not_or.1 h
  refine ⟨by simpa using hp, ?_⟩
  cases hx : p.format with
  | error f => exact (hf ⟨f, hx⟩).elim
  | ok y => exact ⟨y.1, y.2, rfl⟩

theorem behaviour_of_fault (hidle : ¬ p.Idle) (record : Option String) {fs made : Files}
    {fault : HostFault} (h : fs.makeDirectories p.directory = (made, some fault)) :
    p.behaviour answer record fs = ⟨[], .error (.host fault), made⟩ := by
  obtain ⟨hp, b, sampler, hf⟩ := exists_format_of_not_idle hidle
  refine behaviour_of_unprepared answer hp hf ?_
  unfold prepareFiles
  rw [h]

/-- A run that does not fail makes its directory, if it gets as far as that. -/
theorem exists_made_of_ok (hidle : ¬ p.Idle) {record : Option String} {fs : Files}
    {outcome : Outcome} (h : (p.behaviour answer record fs).outcome = .ok outcome) :
    ∃ made, fs.makeDirectories p.directory = (made, none) ∧
      Files.Below (fs.place p.directory) made (p.behaviour answer record fs).files := by
  rcases hd : fs.makeDirectories p.directory with ⟨made, _ | fault⟩
  · rcases p.below_behaviour answer record fs with ⟨hi, -⟩ | hbelow
    · exact (hidle hi).elim
    · rw [hd] at hbelow
      exact ⟨made, rfl, hbelow⟩
  · rw [behaviour_of_fault hidle record hd] at h
    cases h

/-! ## What a run sees -/

/-- Whether files agree below the directory of a plan, but for records with these spellings. -/
structure Agree (p : Plan) (record record' : Option String) (fs fs' : Files) : Prop where
  here : fs'.here = fs.here
  nodes : ∀ l, fs.place p.directory <+: l → fs'.node? l = fs.node? l ∨
    l = fs.place p.manifestPath ∧ ∃ text text', record = some text ∧ record' = some text' ∧
      fs.node? l = some (.file (Text.Utf8.bytes text)) ∧
      fs'.node? l = some (.file (Text.Utf8.bytes text'))

/-- Whether a path can be made alike in two files, and what stands below it then is the same. -/
structure MadeAlike (d : Path) (fs fs' : Files) : Prop where
  here : fs'.here = fs.here
  fault : (fs'.makeDirectories d).2 = (fs.makeDirectories d).2
  below : ∀ l, fs.place d <+: l →
    (fs'.makeDirectories d).1.node? l = (fs.makeDirectories d).1.node? l

theorem MadeAlike.refl (d : Path) (fs : Files) : MadeAlike d fs fs := ⟨rfl, rfl, fun _ _ => rfl⟩

variable {record record' : Option String} {fs fs' : Files}

theorem Agree.refl (p : Plan) (record record' : Option String) (fs : Files) :
    p.Agree record record' fs fs := ⟨rfl, fun _ _ => .inl rfl⟩

theorem Agree.put (h : p.Agree record record' fs fs') {l : Location} (hne : l ≠ []) (node : Node) :
    p.Agree record record' (fs.put l node) (fs'.put l node) := by
  refine ⟨h.here, fun l' hl' => ?_⟩
  by_cases he : l' = l
  · rw [he, Files.node?_put_self fs l node hne, Files.node?_put_self fs' l node hne]
    exact .inl rfl
  · rw [Files.node?_put fs l l' node he, Files.node?_put fs' l l' node he]
    exact h.nodes l' hl'

/-- Files that are the same below the directory agree when their records are written. -/
theorem agree_put_records {made made' : Files} (hhere : made'.here = made.here)
    (hbelow : ∀ l, made.place p.directory <+: l → made'.node? l = made.node? l)
    (text text' : String) :
    p.Agree (some text) (some text')
      (made.put (made.place p.manifestPath) (.file (Text.Utf8.bytes text)))
      (made'.put (made.place p.manifestPath) (.file (Text.Utf8.bytes text'))) := by
  have hne : made.place p.manifestPath ≠ [] := by
    rw [manifestPlace_eq]
    simp
  refine ⟨hhere, fun l hl => ?_⟩
  by_cases he : l = made.place p.manifestPath
  · refine .inr ⟨he, text, text', rfl, rfl, ?_, ?_⟩
    · rw [he, Files.node?_put_self made _ _ hne]
    · rw [he, Files.node?_put_self made' _ _ hne]
  · rw [Files.node?_put made _ l _ he, Files.node?_put made' _ l _ he]
    exact .inl (hbelow l hl)

/-- Whether the directory of a plan is found. -/
def Found (p : Plan) (fs : Files) : Prop := fs.Leads (fs.start p.directory) p.directory.parts

/-- Records are written alike into directories that are the same. -/
theorem recordFiles_agree {made made' : Files} (hrecord : record.isSome = record'.isSome)
    (hhere : made'.here = made.here) (hl : p.Found made) (hl' : p.Found made')
    (hbelow : ∀ l, made.place p.directory <+: l → made'.node? l = made.node? l) :
    (∃ f, p.recordFiles record made = .error f ∧ p.recordFiles record' made' = .error f) ∨
      ∃ recorded recorded', p.recordFiles record made = .ok recorded ∧
        p.recordFiles record' made' = .ok recorded' ∧ p.Agree record record' recorded recorded' ∧
        p.Found recorded ∧ p.Found recorded' := by
  have hwritable : made'.writable p.manifestPath = made.writable p.manifestPath :=
    Files.writable_child_congr (by decide) (by decide) hhere (by decide) hl hl'
      (hbelow _ (List.prefix_append _ _))
  unfold recordFiles Files.write
  cases record with
  | none =>
    cases record' with
    | none => exact .inl ⟨_, rfl, rfl⟩
    | some text' => cases hrecord
  | some text =>
    cases record' with
    | none => cases hrecord
    | some text' =>
      dsimp only
      rw [hwritable]
      cases hw : made.writable p.manifestPath with
      | error fault => exact .inl ⟨_, rfl, rfl⟩
      | ok place =>
        have hkept := Files.below_write_child (by decide) (by decide) hw (Text.Utf8.bytes text)
        have hkept' := Files.below_write_child (by decide) (by decide) (hwritable.trans hw)
          (Text.Utf8.bytes text')
        obtain ⟨rfl, -, -⟩ := Files.writable_child (by decide) (by decide) hw
        have hagree := agree_put_records hhere hbelow text text'
        rw [p.manifestPlace_eq] at hagree
        exact .inr ⟨_, _, rfl, rfl, hagree, hl.mono hkept.directories,
          hl'.mono hkept'.directories⟩

/-- Two runs that find their directory alike prepare it alike, and both find it then. -/
theorem prepareFiles_agree (hparts : p.directory.parts ≠ [])
    (hrecord : record.isSome = record'.isSome) (h : MadeAlike p.directory fs fs') :
    (p.prepareFiles record' fs').2 = (p.prepareFiles record fs).2 ∧
      p.Agree record record' (p.prepareFiles record fs).1 (p.prepareFiles record' fs').1 ∧
      ((p.prepareFiles record fs).2 = .ok () →
        p.Found (p.prepareFiles record fs).1 ∧ p.Found (p.prepareFiles record' fs').1) := by
  have hhere := fs.here_makeDirectories p.directory
  have hhere' := fs'.here_makeDirectories p.directory
  have hfault := h.fault
  have hbelow := h.below
  unfold prepareFiles
  rcases hd : fs.makeDirectories p.directory with ⟨made, fault⟩
  rcases hd' : fs'.makeDirectories p.directory with ⟨made', fault'⟩
  rw [hd, hd'] at hfault hbelow
  rw [hd] at hhere
  rw [hd'] at hhere'
  obtain rfl : fault' = fault := hfault
  have hboth : made'.here = made.here := hhere'.trans (h.here.trans hhere.symm)
  rw [← Files.place_congr hhere] at hbelow
  cases fault' with
  | some fault => exact ⟨rfl, ⟨hboth, fun l hl => .inl (hbelow l hl)⟩, fun hx => by cases hx⟩
  | none =>
    have hl : p.Found made := by
      unfold Found
      rw [Files.start_congr hhere]
      exact Files.leads_of_makeDirectories hparts hd
    have hl' : p.Found made' := by
      unfold Found
      rw [Files.start_congr hhere']
      exact Files.leads_of_makeDirectories hparts hd'
    dsimp only
    rcases recordFiles_agree hrecord hboth hl hl' hbelow with
      ⟨f, hf, hf'⟩ | ⟨recorded, recorded', hr, hr', hagree, hfound⟩
    · rw [hf, hf']
      exact ⟨rfl, ⟨hboth, fun l hl => .inl (hbelow l hl)⟩, fun hx => by cases hx⟩
    · rw [hr, hr']
      exact ⟨rfl, hagree, fun _ => hfound⟩

theorem finish_agree (h : p.Agree record record' fs fs') (hl : p.Found fs) (hl' : p.Found fs')
    (x : Except Failure (List Binary64)) :
    (p.finish fs' x).1 = (p.finish fs x).1 ∧
      p.Agree record record' (p.finish fs x).2 (p.finish fs' x).2 := by
  unfold finish
  cases x with
  | error f => exact ⟨rfl, h⟩
  | ok times =>
    have hplace := p.resultsPlace_eq fs
    have hnode : fs'.node? (fs.place p.directory ++ ["results.csv"]) =
        fs.node? (fs.place p.directory ++ ["results.csv"]) := by
      rcases h.nodes _ (List.prefix_append _ _) with hn | ⟨he, -⟩
      · exact hn
      · rw [← hplace] at he
        exact (p.manifestPlace_ne fs fs he).elim
    have hwritable : fs'.writable p.resultsPath = fs.writable p.resultsPath :=
      Files.writable_child_congr (by decide) (by decide) h.here (by decide) hl hl' hnode
    dsimp only
    rw [hwritable]
    cases hw : fs.writable p.resultsPath with
    | error fault => exact ⟨rfl, h⟩
    | ok place =>
      obtain ⟨rfl, hf, -⟩ := Files.writable_child (by decide) (by decide) hw
      exact ⟨rfl, h.put (Files.ne_nil_of_free hf) _⟩

theorem behaviourFrom_agree (h : p.Agree record record' fs fs') (hl : p.Found fs)
    (hl' : p.Found fs') (b : Binding) (sampler : Sampler) :
    let x := p.behaviourFrom answer b sampler fs
    let y := p.behaviourFrom answer b sampler fs'
    y.calls = x.calls ∧ y.outcome = x.outcome ∧ p.Agree record record' x.files y.files := by
  intro x y
  unfold x y behaviourFrom
  split
  · exact ⟨rfl, rfl, h⟩
  · exact ⟨rfl, finish_agree h hl hl' _⟩

/-- Two runs of one plan that find their directory alike do the same. -/
theorem behaviour_agree (answer : Invocation → Except Failure Execution)
    (hparts : p.directory.parts ≠ [])
    (hrecord : record.isSome = record'.isSome) (h : MadeAlike p.directory fs fs')
    (hsame : p.Idle → fs' = fs) :
    let x := p.behaviour answer record fs
    let y := p.behaviour answer record' fs'
    y.calls = x.calls ∧ y.outcome = x.outcome ∧ p.Agree record record' x.files y.files := by
  intro x y
  unfold x y
  cases hp : p.report.passed with
  | false =>
    rw [behaviour_of_refused answer hp, behaviour_of_refused answer hp, hsame (.inl hp)]
    exact ⟨rfl, rfl, .refl _ _ _ _⟩
  | true =>
    cases hf : p.format with
    | error f =>
      rw [behaviour_of_unread answer hp hf, behaviour_of_unread answer hp hf, hsame (.inr ⟨f, hf⟩)]
      exact ⟨rfl, rfl, .refl _ _ _ _⟩
    | ok z =>
      obtain ⟨b, sampler⟩ := z
      obtain ⟨hout, hagree, hleads⟩ := prepareFiles_agree hparts hrecord h
      rcases hprep : p.prepareFiles record fs with ⟨prepared, x⟩
      rcases hprep' : p.prepareFiles record' fs' with ⟨prepared', x'⟩
      rw [hprep, hprep'] at hout hagree hleads
      obtain rfl : x' = x := hout
      cases x' with
      | error f =>
        rw [behaviour_of_unprepared answer hp hf hprep, behaviour_of_unprepared answer hp hf hprep']
        exact ⟨rfl, rfl, hagree⟩
      | ok u =>
        obtain ⟨hl, hl'⟩ := hleads rfl
        rw [behaviour_of_prepared answer hp hf hprep, behaviour_of_prepared answer hp hf hprep']
        exact behaviourFrom_agree hagree hl hl' b sampler

/-- Whether two runs of a plan that start at these times leave the same at a place, but for the times
that their records show. A directory can stand there behind the first alone if the way to that of
the plan leads upwards. -/
def SameAt (p : Plan) (startedAt startedAt' : Nat) (fs fs' : Files) (l : Location) : Prop :=
  fs'.node? l = fs.node? l ∨
    (l = fs.place p.manifestPath ∧ ∃ text text', (p.manifest startedAt).write = some text ∧
      (p.manifest startedAt').write = some text' ∧
      fs.node? l = some (.file (Text.Utf8.bytes text)) ∧
      fs'.node? l = some (.file (Text.Utf8.bytes text'))) ∨
    ".." ∈ p.directory.parts ∧ fs'.node? l = none ∧ fs.node? l = some .directory

theorem Agree.sameAt {startedAt startedAt' : Nat}
    (h : p.Agree (p.manifest startedAt).write (p.manifest startedAt').write fs fs') {l : Location}
    (hl : fs.place p.directory <+: l) : p.SameAt startedAt startedAt' fs fs' l :=
  (h.nodes l hl).imp_right .inl

theorem isSome_write_manifest_eq (p : Plan) (startedAt startedAt' : Nat) :
    (p.manifest startedAt).write.isSome = (p.manifest startedAt').write.isSome := by
  rw [Bool.eq_iff_iff, isSome_write_manifest_iff, isSome_write_manifest_iff]

end Plan

end BenchSweep
