import BenchSweep.Override
import BenchSweep.Proofs.Value

/-! Overrides in text. A text is an override exactly if it has an equals sign with something other than
blanks on both sides of the first one; the text that an override is written as is read as the same one. -/
set_option autoImplicit false

namespace BenchSweep

/-! ## Commas in values -/

namespace Decimal

theorem AllDigits.comma_not_mem {s : List Char} (h : AllDigits s) : ',' ∉ s :=
  fun hc => absurd (h _ hc) (by decide)

theorem IntegerText.comma_not_mem {s : List Char} {n : Int} (h : IntegerText s n) : ',' ∉ s :=
  fun hc => absurd (h.mem _ hc) (by decide)

theorem PowerText.comma_not_mem {s : List Char} {p : Int} (h : PowerText s p) : ',' ∉ s := by
  cases h with
  | none => exact List.not_mem_nil
  | some hc h =>
    refine List.not_mem_cons_of_ne_of_not_mem ?_ h.comma_not_mem
    rcases hc with rfl | rfl
    · decide
    · decide

theorem NumeralText.comma_not_mem {s : List Char} {v : ℚ} (h : NumeralText s v) : ',' ∉ s := by
  cases h with
  | whole _ hds hp =>
    rw [List.mem_append, not_or]
    exact ⟨hds.comma_not_mem, hp.comma_not_mem⟩
  | point _ hds hfs hp =>
    rw [List.mem_append, List.mem_cons, List.mem_append, not_or, not_or, not_or]
    exact ⟨hds.comma_not_mem, by decide, hfs.comma_not_mem, hp.comma_not_mem⟩

theorem MagnitudeText.comma_not_mem {s : List Char} {m : Nat} (h : MagnitudeText s m) :
    ',' ∉ s := by
  have hlower : ',' ∈ s → ',' ∈ s.map Char.toLower := fun hc =>
    List.mem_map.2 ⟨',', hc, by decide⟩
  cases h with
  | numeral h => exact h.comma_not_mem
  | infinite h =>
    intro hc
    rcases h with h | h
    · exact absurd (h ▸ hlower hc) (by decide)
    · exact absurd (h ▸ hlower hc) (by decide)
  | nan h =>
    intro hc
    exact absurd (h ▸ hlower hc) (by decide)

theorem FloatText.comma_not_mem {s : List Char} {x : Binary64} (h : FloatText s x) : ',' ∉ s := by
  cases h with
  | plain h => exact h.comma_not_mem
  | plus h => exact List.not_mem_cons_of_ne_of_not_mem (by decide) h.comma_not_mem
  | minus h => exact List.not_mem_cons_of_ne_of_not_mem (by decide) h.comma_not_mem

end Decimal

namespace Value.Denotes

variable {t : List Char} {v : Value}

theorem comma_not_mem (h : v.Denotes t) (ht : ',' ∉ t) : ',' ∉ v.toText.toList := by
  cases h with
  | @integer n =>
    rw [Value.toText, String.toList_ofList]
    exact (Decimal.integerText_integer n.toInt).comma_not_mem
  | @float x => exact (Decimal.readFloat_eq_ok_iff.1 (readFloat_floatText x)).comma_not_mem
  | @bool b =>
    cases b
    · decide
    · decide
  | text =>
    rw [Value.toText, String.toList_ofList]
    exact ht

/-- The text of a value is empty only if the text that it was read from is. -/
theorem toText_ne_nil (h : v.Denotes t) (ht : t ≠ []) : v.toText.toList ≠ [] := by
  cases h with
  | @integer n =>
    rw [Value.toText, String.toList_ofList]
    exact (Decimal.integerText_integer n.toInt).ne_nil
  | @float x _ _ hx =>
    obtain ⟨c, hc, -⟩ := exists_mark_floatText hx
    exact List.ne_nil_of_mem hc
  | @bool b =>
    cases b
    · decide
    · decide
  | text =>
    rw [Value.toText, String.toList_ofList]
    exact ht

end Value.Denotes

namespace Override

variable {raw : String} {before after : List Char} {o : Override}

/-! ## Reading -/

/-- The override with this text on both sides of the equals sign. -/
def ofSides (before after : List Char) : Override :=
  ⟨String.ofList (Text.trim before),
    (Text.splitWhere (· == ',') after).map fun p => Value.ofText (String.ofList p)⟩

theorem ofText_of_sides (h : raw.toList = before ++ '=' :: after) (hb : '=' ∉ before) :
    ofText raw = if Text.trim before = [] ∨ Text.trim after = [] then .error (.invalidOverride raw)
      else .ok (ofSides before after) := by
  unfold ofText
  rw [(Text.splitOnce_eq_some_iff _ _ _ _).2 ⟨h, hb⟩]
  simp only [Bool.or_eq_true, List.isEmpty_iff]
  rfl

theorem ofText_of_not_mem (h : '=' ∉ raw.toList) : ofText raw = .error (.invalidOverride raw) := by
  unfold ofText
  cases hs : Text.splitOnce '=' raw.toList with
  | none => rfl
  | some sides =>
    obtain ⟨heq, -⟩ := (Text.splitOnce_eq_some_iff _ _ sides.1 sides.2).1 hs
    rw [heq] at h
    exact (h (List.mem_append_right _ List.mem_cons_self)).elim

/-- A text is an override, the one with its two sides, or not a valid one. -/
theorem ofText_cases (raw : String) :
    (∃ before after, raw.toList = before ++ '=' :: after ∧ '=' ∉ before ∧
      Text.trim before ≠ [] ∧ Text.trim after ≠ [] ∧ ofText raw = .ok (ofSides before after)) ∨
    ofText raw = .error (.invalidOverride raw) := by
  by_cases hmem : '=' ∈ raw.toList
  · obtain ⟨before, after, h, hb⟩ := List.eq_append_cons_of_mem hmem
    have hread := ofText_of_sides h hb
    split at hread
    · exact .inr hread
    · rename_i hsides
      obtain ⟨hbefore, hafter⟩ := not_or.1 hsides
      exact .inl ⟨before, after, h, hb, hbefore, hafter, hread⟩
  · exact .inr (ofText_of_not_mem hmem)

/-! ## Writing -/

/-- The text of an override: its name, an equals sign and its values with commas between them. -/
def toText (o : Override) : String :=
  o.name ++ "=" ++ ",".intercalate (o.values.map Value.toText)

theorem toList_toText (o : Override) : o.toText.toList =
    o.name.toList ++ '=' :: [','].intercalate (o.values.map fun v => v.toText.toList) := by
  unfold toText
  simp [String.toList_intercalate, Function.comp_def]

/-- Values that are not those of a blank text are not written as one. -/
theorem trim_intercalate_ne_nil {ps : List (List Char)} (hps : ps ≠ [])
    (h : Text.trim ([','].intercalate ps) ≠ []) :
    Text.trim ([','].intercalate
      (ps.map fun p => (Value.ofText (String.ofList p)).toText.toList)) ≠ [] := by
  cases ps with
  | nil => exact (hps rfl).elim
  | cons p rest =>
    cases rest with
    | nil =>
      have hdenotes := Value.denotes_ofText p
      rw [List.intercalate_singleton] at h
      rw [List.map_singleton, List.intercalate_singleton,
        hdenotes.trim_toText (Text.trim_trim p)]
      exact hdenotes.toText_ne_nil h
    | cons q rest =>
      rw [List.map_cons, List.map_cons, List.intercalate_cons_cons, Ne, Text.trim_eq_nil_iff]
      intro hblank
      exact absurd (hblank ',' (by simp)) (by decide)

/-- The text of an override that was read is read as the same override. -/
theorem ofText_toText (h : ofText raw = .ok o) : ofText o.toText = .ok o := by
  rcases ofText_cases raw with ⟨before, after, -, hb, hbefore, hafter, hread⟩ | hread
  · obtain rfl := Except.ok.inj (hread.symm.trans h)
    set ps := Text.splitWhere (· == ',') after with hps
    set texts := ps.map fun p => (Value.ofText (String.ofList p)).toText.toList with htexts
    have hrest : [','].intercalate ps = after := by
      rw [hps, Text.splitWhere_eq_splitOn, List.intercalate_splitOn]
    have hne : ps ≠ [] := Text.splitWhere_ne_nil _ _
    have hcomma : ∀ text ∈ texts, ',' ∉ text := by
      intro text htext
      obtain ⟨p, hp, rfl⟩ := List.mem_map.1 htext
      refine (Value.denotes_ofText p).comma_not_mem fun hc => ?_
      exact Text.not_mem_of_mem_splitWhere hp (Text.mem_of_mem_trim hc)
    have hwritten : (ofSides before after).toText.toList =
        Text.trim before ++ '=' :: [','].intercalate texts := by
      rw [toList_toText, ofSides, String.toList_ofList, List.map_map]
      rfl
    have hname : '=' ∉ Text.trim before := fun hc => hb (Text.mem_of_mem_trim hc)
    rw [ofText_of_sides hwritten hname, Text.trim_trim, if_neg]
    · have hsplit : Text.splitWhere (· == ',') ([','].intercalate texts) = texts := by
        rw [Text.splitWhere_eq_splitOn]
        exact List.splitOn_intercalate _ hcomma (mt List.map_eq_nil_iff.1 hne)
      have hvalues : texts.map (fun text => Value.ofText (String.ofList text)) =
          ps.map fun p => Value.ofText (String.ofList p) := by
        rw [htexts, List.map_map]
        refine List.map_congr_left fun p hp => ?_
        rw [Function.comp_apply, String.ofList_toList]
        exact Value.ofText_toText _
      rw [ofSides, hsplit, hvalues, Text.trim_trim]
      rfl
    · exact not_or.2 ⟨hbefore, trim_intercalate_ne_nil hne (hrest.symm ▸ hafter)⟩
  · rw [hread] at h
    cases h

theorem ofText_of_blank {p : List Char} (h : ∀ c ∈ p, Text.isBlank c = true) :
    Value.ofText (String.ofList p) = .text "" := by
  rw [Value.ofText_eq_iff, String.toList_ofList, Text.trim_eq_nil_iff.2 h]
  exact Value.denotes_nil

end Override

/-! ## Overrides in text -/

/-- A text is read as an override exactly if something other than blanks stands before the first equals
sign and behind it, and every other text is not valid. The name is what stands before that sign without
the blanks at its ends. The values are those of the pieces between the commas behind it, in order, a blank
piece giving an empty text; equals signs there belong to them. The text of an override that was read is
read as the same override. -/
theorem overrides_survive_writing (raw : String) :
    ((∃ o, Override.ofText raw = .ok o) ↔ ∃ before after,
      raw.toList = before ++ '=' :: after ∧ '=' ∉ before ∧
        (∃ c ∈ before, Text.isBlank c = false) ∧ ∃ c ∈ after, Text.isBlank c = false) ∧
    ((∀ o, Override.ofText raw ≠ .ok o) → Override.ofText raw = .error (.invalidOverride raw)) ∧
    ∀ o, Override.ofText raw = .ok o →
      (∃ before after pieces, raw.toList = before ++ '=' :: after ∧ '=' ∉ before ∧
        o.name = String.ofList (Text.trim before) ∧
        pieces ≠ [] ∧ (∀ p ∈ pieces, ',' ∉ p) ∧ [','].intercalate pieces = after ∧
        o.values = pieces.map (fun p => Value.ofText (String.ofList p)) ∧
        ∀ p ∈ pieces, (∀ c ∈ p, Text.isBlank c = true) →
          Value.ofText (String.ofList p) = .text "") ∧
      Override.ofText o.toText = .ok o := by
  have hblank : ∀ {s : List Char}, Text.trim s ≠ [] ↔ ∃ c ∈ s, Text.isBlank c = false := by
    intro s
    rw [Ne, Text.trim_eq_nil_iff]
    simp
  refine ⟨⟨?_, ?_⟩, fun h => ?_, fun o ho => ⟨?_, Override.ofText_toText ho⟩⟩
  · rintro ⟨o, ho⟩
    rcases Override.ofText_cases raw with ⟨before, after, h, hb, hbefore, hafter, -⟩ | hread
    · exact ⟨before, after, h, hb, hblank.1 hbefore, hblank.1 hafter⟩
    · rw [hread] at ho
      cases ho
  · rintro ⟨before, after, h, hb, hbefore, hafter⟩
    refine ⟨Override.ofSides before after, ?_⟩
    rw [Override.ofText_of_sides h hb, if_neg]
    exact not_or.2 ⟨hblank.2 hbefore, hblank.2 hafter⟩
  · rcases Override.ofText_cases raw with ⟨before, after, -, -, -, -, hread⟩ | hread
    · exact (h _ hread).elim
    · exact hread
  · rcases Override.ofText_cases raw with ⟨before, after, h, hb, -, -, hread⟩ | hread
    · obtain rfl := Except.ok.inj (hread.symm.trans ho)
      refine ⟨before, after, Text.splitWhere (· == ',') after, h, hb, rfl,
        Text.splitWhere_ne_nil _ _, fun p => Text.not_mem_of_mem_splitWhere, ?_, rfl,
        fun p _ => Override.ofText_of_blank⟩
      rw [Text.splitWhere_eq_splitOn, List.intercalate_splitOn]
    · rw [hread] at ho
      cases ho

/-- An override with blanks around its name and its values, an empty piece and a second equals sign, and
one without a name. -/
theorem overrides_survive_writing_of_mixed_pieces :
    let mixed := "\u00a0size\t= 7,,0.10 ,a=b"
    let o : Override :=
      ⟨"size", [.integer 7, .text "", .float ⟨0x3FB999999999999A⟩, .text "a=b"]⟩
    Override.ofText mixed = .ok o ∧ o.toText = "size=7,,0.1,a=b" ∧
      Override.ofText o.toText = .ok o ∧
      Override.ofText " =1" = .error (.invalidOverride " =1") := by
  intro mixed o
  have hmixed : Override.ofText mixed = .ok o := eq_ok_of_toOption_eq_some (by decide +kernel)
  have hnone : (Override.ofText " =1").toOption = none := by decide +kernel
  refine ⟨hmixed, by decide +kernel, ((overrides_survive_writing mixed).2.2 o hmixed).2,
    (overrides_survive_writing " =1").2.1 fun o' ho => ?_⟩
  rw [ho] at hnone
  cases hnone

end BenchSweep
