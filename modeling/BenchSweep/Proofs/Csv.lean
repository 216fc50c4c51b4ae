import BenchSweep.Csv.Reader
import BenchSweep.Csv.Writer
import BenchSweep.Proofs.Steps
import BenchSweep.Proofs.Text.Utf8

/-! Tables that were written are read back record by record and cell by cell, whatever bytes the
cells hold. -/
set_option autoImplicit false

namespace BenchSweep

namespace Csv

/-! ## Records from a draft on -/

/-- The records that these bytes complete, read from a draft on. -/
def recordsFrom (d : Draft) (bytes : List UInt8) : List Record := (outcomes d bytes).filterMap id

theorem recordsFrom_none {d e : Draft} {b : UInt8} (h : d.step b = (e, none))
    (rest : List UInt8) : recordsFrom d (b :: rest) = recordsFrom e rest := by
  unfold recordsFrom
  rw [outcomes, h]
  rfl

theorem recordsFrom_some {d e : Draft} {b : UInt8} {r : Record} (h : d.step b = (e, some r))
    (rest : List UInt8) : recordsFrom d (b :: rest) = r :: recordsFrom e rest := by
  unfold recordsFrom
  rw [outcomes, h]
  rfl

/-- Whether the byte ends a field that is not between quotes. -/
def endsField (b : UInt8) : Bool := b == comma || isEnd b

/-! ## Fields -/

theorem step_plain {d : Draft} (hd : d.place = .field ∨ d.place = .plain) {b : UInt8}
    (hq : b ≠ quote) (he : endsField b = false) : d.step b = (d.push .plain b, none) := by
  obtain ⟨hc, hl⟩ : b ≠ comma ∧ isEnd b = false := by simpa [endsField] using he
  rcases hd with hd | hd <;> simp [Draft.step, hd, Draft.stepField, Draft.stepPlain, hq, hc, hl]

theorem recordsFrom_plain {f : Field} (h : needsQuotes f = false) (place : Place)
    (hp : place = .field ∨ place = .plain) (acc : Field) (fields : Record) (rest : List UInt8) :
    ∃ place', (place' = .field ∨ place' = .plain) ∧
      recordsFrom ⟨place, acc, fields⟩ (f ++ rest) =
        recordsFrom ⟨place', f.reverse ++ acc, fields⟩ rest := by
  induction f generalizing place acc with
  | nil => exact ⟨place, hp, rfl⟩
  | cons b f ih =>
    have hb : (b ≠ quote ∧ endsField b = false) ∧ needsQuotes f = false := by
      simpa [needsQuotes, endsField, and_assoc, and_comm, and_left_comm] using h
    obtain ⟨place', hp', hr⟩ := ih hb.2 .plain (.inr rfl) (b :: acc)
    refine ⟨place', hp', ?_⟩
    rw [List.cons_append, recordsFrom_none (step_plain hp hb.1.1 hb.1.2)]
    simpa [Draft.push] using hr

/-- The bytes between quotes, quotes doubled. -/
theorem recordsFrom_quoted (f acc : Field) (fields : Record) (rest : List UInt8) :
    recordsFrom ⟨.quoted, acc, fields⟩
        (f.flatMap (fun b => if b = quote then [quote, quote] else [b]) ++ quote :: rest) =
      recordsFrom ⟨.closing, f.reverse ++ acc, fields⟩ rest := by
  induction f generalizing acc with
  | nil => exact recordsFrom_none (by simp [Draft.step]) rest
  | cons b f ih =>
    rw [List.flatMap_cons, List.append_assoc]
    by_cases hb : b = quote
    · rw [if_pos hb, hb]
      simp only [List.cons_append, List.nil_append]
      rw [recordsFrom_none (e := ⟨.closing, acc, fields⟩) (by simp [Draft.step]),
        recordsFrom_none (e := ⟨.quoted, quote :: acc, fields⟩) (by simp [Draft.step, Draft.push]),
        ih]
      simp
    · rw [if_neg hb, List.singleton_append,
        recordsFrom_none (e := ⟨.quoted, b :: acc, fields⟩)
          (by simp [Draft.step, hb, Draft.push]), ih]
      simp

/-- A written field at the start of a field. -/
theorem recordsFrom_writeField (f : Field) (fields : Record) (rest : List UInt8) :
    ∃ place, (place = .field ∨ place = .plain ∨ place = .closing) ∧
      recordsFrom ⟨.field, [], fields⟩ (writeField f ++ rest) =
        recordsFrom ⟨place, f.reverse, fields⟩ rest := by
  unfold writeField
  cases hq : needsQuotes f with
  | false =>
    obtain ⟨place, hp, hr⟩ := recordsFrom_plain hq .field (.inl rfl) [] fields rest
    refine ⟨place, hp.imp_right .inl, ?_⟩
    simpa using hr
  | true =>
    refine ⟨.closing, .inr (.inr rfl), ?_⟩
    have h := recordsFrom_quoted f [] fields rest
    rw [if_pos rfl, quoteField]
    simp only [List.cons_append, List.append_assoc, List.nil_append]
    rw [recordsFrom_none (e := ⟨.quoted, [], fields⟩) (by simp [Draft.step, Draft.stepField]), h]
    simp

/-! ## Records -/

theorem step_comma {d : Draft} (hd : d.place = .field ∨ d.place = .plain ∨ d.place = .closing) :
    d.step comma = (⟨.field, [], d.field.reverse :: d.fields⟩, none) := by
  have hq : comma ≠ quote := by decide
  rcases hd with hd | hd | hd <;>
    simp [Draft.step, hd, Draft.stepField, Draft.stepPlain, hq]

theorem step_lineFeed {d : Draft}
    (hd : d.place = .field ∨ d.place = .plain ∨ d.place = .closing) :
    d.step lineFeed = (Draft.empty, some d.record) := by
  have hq : lineFeed ≠ quote := by decide
  have hc : lineFeed ≠ comma := by decide
  have hl : isEnd lineFeed = true := by decide
  rcases hd with hd | hd | hd <;>
    simp [Draft.step, hd, Draft.stepField, Draft.stepPlain, hq, hc, hl]

theorem writeFields_singleton (f : Field) : writeFields [f] = writeField f := by
  simp [writeFields, List.intercalate]

theorem writeFields_cons_cons (f g : Field) (r : Record) :
    writeFields (f :: g :: r) = writeField f ++ comma :: writeFields (g :: r) := by
  simp [writeFields, List.intercalate]

theorem recordsFrom_writeFields (f : Field) (r : Record) (fields : Record) (rest : List UInt8) :
    recordsFrom ⟨.field, [], fields⟩ (writeFields (f :: r) ++ lineFeed :: rest) =
      (fields.reverse ++ f :: r) :: recordsFrom Draft.empty rest := by
  induction r generalizing f fields with
  | nil =>
    obtain ⟨place, hp, hr⟩ := recordsFrom_writeField f fields (lineFeed :: rest)
    rw [writeFields_singleton, hr, recordsFrom_some (step_lineFeed hp)]
    simp [Draft.record]
  | cons g r ih =>
    obtain ⟨place, hp, hr⟩ :=
      recordsFrom_writeField f fields (comma :: (writeFields (g :: r) ++ lineFeed :: rest))
    rw [writeFields_cons_cons, List.append_assoc, List.cons_append, hr,
      recordsFrom_none (step_comma hp), ih]
    simp

/-- A line that is not empty starts a record with its first field. -/
theorem recordsFrom_empty_cons {b : UInt8} (hb : isEnd b = false) (rest : List UInt8) :
    recordsFrom Draft.empty (b :: rest) = recordsFrom ⟨.field, [], []⟩ (b :: rest) := by
  have hs : Draft.empty.step b = (Draft.mk .field [] []).step b := by
    simp [Draft.step, Draft.empty, hb, Draft.stepField, Draft.stepPlain, Draft.push]
  unfold recordsFrom
  rw [outcomes, outcomes, hs]

theorem isEnd_head_writeField {f : Field} {b : UInt8} {rest : List UInt8}
    (h : writeField f = b :: rest) : isEnd b = false := by
  unfold writeField at h
  cases hq : needsQuotes f with
  | false =>
    rw [hq] at h
    rw [show f = b :: rest from h] at hq
    simp [needsQuotes] at hq
    exact hq.1.2
  | true =>
    rw [hq, if_pos rfl, quoteField, List.cons_append, List.cons.injEq] at h
    rw [← h.1]
    decide

theorem isEnd_head_writeFields {r : Record} {b : UInt8} {rest : List UInt8}
    (h : writeFields r = b :: rest) : isEnd b = false := by
  match r with
  | [] => simp [writeFields, List.intercalate] at h
  | [f] => exact isEnd_head_writeField (writeFields_singleton f ▸ h)
  | f :: g :: r =>
    rw [writeFields_cons_cons] at h
    cases hf : writeField f with
    | nil =>
      rw [hf, List.nil_append, List.cons.injEq] at h
      rw [← h.1]
      decide
    | cons c f' =>
      rw [hf, List.cons_append, List.cons.injEq] at h
      rw [← h.1]
      exact isEnd_head_writeField hf

/-- Only a single empty field leaves its line empty. -/
theorem eq_of_writeFields_eq_nil {f : Field} {r : Record} (h : writeFields (f :: r) = []) :
    f = [] ∧ r = [] := by
  cases r with
  | nil =>
    rw [writeFields_singleton, writeField] at h
    cases hq : needsQuotes f with
    | false =>
      rw [hq] at h
      exact ⟨h, rfl⟩
    | true =>
      rw [hq] at h
      cases h
  | cons g r =>
    rw [writeFields_cons_cons] at h
    simp at h

theorem recordsFrom_writeRecord {r : Record} (hr : r ≠ []) (rest : List UInt8) :
    recordsFrom Draft.empty (writeRecord r ++ rest) = r :: recordsFrom Draft.empty rest := by
  obtain ⟨f, r, rfl⟩ := List.exists_cons_of_ne_nil hr
  unfold writeRecord
  cases h : writeFields (f :: r) with
  | nil =>
    obtain ⟨rfl, rfl⟩ := eq_of_writeFields_eq_nil h
    change recordsFrom Draft.empty (quote :: quote :: lineFeed :: rest) = _
    rw [recordsFrom_none (e := ⟨.quoted, [], []⟩) rfl,
      recordsFrom_none (e := ⟨.closing, [], []⟩) rfl,
      recordsFrom_some (e := Draft.empty) (r := [[]]) rfl]
  | cons b bytes =>
    have hw := recordsFrom_writeFields f r [] rest
    rw [h] at hw
    rw [List.append_assoc, List.singleton_append, List.cons_append,
      recordsFrom_empty_cons (isEnd_head_writeFields h), ← List.cons_append, hw]
    rfl

/-! ## Tables -/

/-- The lines of records of texts. -/
def lines (table : List (List String)) : List UInt8 :=
  table.flatMap fun r => writeRecord (r.map Text.Utf8.bytes)

theorem records_lines {table : List (List String)} (h : ∀ r ∈ table, r ≠ []) :
    records (lines table) = table.map fun r => r.map Text.Utf8.bytes := by
  change recordsFrom Draft.empty (lines table) = _
  induction table with
  | nil => rfl
  | cons r table ih =>
    obtain ⟨hr, ht⟩ := List.forall_mem_cons.1 h
    have hne : r.map Text.Utf8.bytes ≠ [] := by simpa using hr
    have hl : lines (r :: table) = writeRecord (r.map Text.Utf8.bytes) ++ lines table :=
      List.flatMap_cons
    rw [hl, recordsFrom_writeRecord hne, ih ht, List.map_cons]

theorem write_eq_lines {header : List String} {rows : List (List String)}
    (h : ∀ r ∈ rows, r.length = header.length) :
    write (header :: rows) = .ok (lines (header :: rows)) := by
  have hw : ∀ r ∈ header :: rows, writeTexts header.length r =
      .ok (writeRecord (r.map Text.Utf8.bytes)) := by
    intro r hr
    have hl : r.length = header.length := by
      rcases List.mem_cons.1 hr with rfl | hr
      · rfl
      · exact h r hr
    rw [writeTexts, if_pos hl]
  change ((header :: rows).mapM (writeTexts header.length)).map List.flatten = _
  rw [mapM_eq_ok_map hw]
  exact congrArg Except.ok List.flatMap_def.symm

theorem decodeRecord_bytes (r : List String) : decodeRecord (r.map Text.Utf8.bytes) = .ok r := by
  let text : Field → String := fun f => String.ofList ((Text.Utf8.decode? f).getD [])
  have ht : text ∘ Text.Utf8.bytes = id := by
    funext s
    simp [text, Text.Utf8.decode?_bytes]
  refine (mapM_eq_ok_map (g := text ∘ Prod.fst) ?_).trans ?_
  · rintro ⟨field, i⟩ hm
    obtain ⟨s, -, rfl⟩ := List.mem_map.1 (List.fst_mem_of_mem_zipIdx hm)
    simp [text, Text.Utf8.decode?_bytes]
  · rw [← List.map_map, List.zipIdx_map_fst, List.map_map, ht, List.map_id]

theorem readRecord_bytes (bytes : List UInt8) (r : List String) (n : Nat) :
    readRecord bytes r.length (r.map Text.Utf8.bytes) n = .ok r := by
  unfold readRecord
  rw [if_neg (by simp), decodeRecord_bytes]

/-- A table that was written is read back: its first record as the header, the others as rows. -/
theorem read_lines {header : List String} {rows : List (List String)}
    (hh : header ≠ []) (hr : ∀ r ∈ rows, r.length = header.length)
    (hm : byteOrderMark.isPrefixOf (lines (header :: rows)) = false) :
    read (lines (header :: rows)) = .ok (header, rows) := by
  let bytes := lines (header :: rows)
  have hne : ∀ r ∈ header :: rows, r ≠ [] := by
    intro r hmem
    rcases List.mem_cons.1 hmem with rfl | hmem
    · exact hh
    · exact fun h => hh (List.length_eq_zero_iff.1 (by rw [← hr r hmem, h, List.length_nil]))
  have hc : content bytes = bytes := by
    unfold content
    rw [if_neg (Bool.eq_false_iff.1 hm)]
  let value : Record → List String := fun r => (decodeRecord r).toOption.getD []
  have hv : value ∘ List.map Text.Utf8.bytes = id := by
    funext r
    simp [value, decodeRecord_bytes, Except.toOption]
  have hrows : ∀ x ∈ ((rows.map fun r => r.map Text.Utf8.bytes).zipIdx 1),
      readRecord bytes header.length x.1 x.2 = .ok ((value ∘ Prod.fst) x) := by
    rintro ⟨r, n⟩ hx
    obtain ⟨s, hs, rfl⟩ := List.mem_map.1 (List.fst_mem_of_mem_zipIdx hx)
    have h := readRecord_bytes bytes s n
    rw [hr s hs] at h
    simp only [Function.comp_apply]
    rw [h]
    exact congrArg Except.ok (congrFun hv s).symm
  change read bytes = _
  unfold read
  rw [hc, records_lines hne, List.map_cons]
  simp only [List.length_map]
  rw [readRecord_bytes, mapM_eq_ok_map hrows, ← List.map_map, List.zipIdx_map_fst, List.map_map, hv,
    List.map_id]
  rfl

/-- What opens with the name of a column opens with no mark, unless the name itself does. -/
theorem isPrefixOf_lines_eq_false {name : String} {b : UInt8} {bytes : List UInt8}
    (h : writeField (Text.Utf8.bytes name) = b :: bytes) (hb : b ≠ 0xEF) (header : List String)
    (rows : List (List String)) :
    byteOrderMark.isPrefixOf (lines ((name :: header) :: rows)) = false := by
  have hfields : ∃ rest, writeFields ((name :: header).map Text.Utf8.bytes) = b :: rest := by
    cases header with
    | nil => exact ⟨bytes, (writeFields_singleton _).trans h⟩
    | cons next header =>
      rw [List.map_cons, List.map_cons, writeFields_cons_cons, h]
      exact ⟨_, rfl⟩
  obtain ⟨rest, hrest⟩ := hfields
  have hne : ((0xEF : UInt8) == b) = false := beq_false_of_ne hb.symm
  unfold lines
  rw [List.flatMap_cons, writeRecord, hrest]
  simp [byteOrderMark, List.isPrefixOf, hne]

theorem length_of_readRecord {bytes : List UInt8} {width n : Nat} {r : Record}
    {texts : List String} (h : readRecord bytes width r n = .ok texts) : texts.length = width := by
  unfold readRecord at h
  split at h
  · cases h
  · rename_i hwidth
    split at h
    · rename_i hdecode
      cases h
      rw [← (forall₂_of_mapM_eq_ok hdecode).length_eq, List.length_zipIdx]
      exact not_not.1 hwidth
    · cases h

/-- Every record that is read has a cell for each column of the header. -/
theorem length_of_read {bytes : List UInt8} {header : List String} {rows : List (List String)}
    (h : read bytes = .ok (header, rows)) : ∀ r ∈ rows, r.length = header.length := by
  unfold read at h
  split at h
  · cases h
    simp
  · obtain ⟨names, hnames, h⟩ := exists_of_bind_eq_ok h
    obtain ⟨texts, htexts, h⟩ := exists_of_bind_eq_ok h
    cases h
    intro r hr
    obtain ⟨_, -, hread⟩ := exists_of_mem_of_forall₂ (forall₂_of_mapM_eq_ok htexts) hr
    rw [length_of_readRecord hnames, length_of_readRecord hread]

end Csv

end BenchSweep
