import BenchSweep.Proofs.Text.Pieces
import BenchSweep.Text.Blank
import Mathlib.Data.List.Induction
import Mathlib.Data.List.TakeWhile

/-! White space in texts. Cutting off the blanks at both ends leaves a text that has none there; the
fields of a text are what is left of it when the blanks between them are all made one space, and
what holds no blank stands in a text exactly if it stands in one of its fields. -/
set_option autoImplicit false

namespace BenchSweep.Text

variable {s t mark : List Char} {c : Char}

/-! ## Ends -/

/-- A text that neither starts nor ends with a blank is its own trimmed form. -/
theorem trim_of_ends (hh : ∀ c ∈ s.head?, isBlank c = false)
    (hl : ∀ c ∈ s.getLast?, isBlank c = false) : trim s = s := by
  have hr : ∀ c ∈ s.reverse.head?, isBlank c = false := by
    rw [List.head?_reverse]
    exact hl
  rw [trim, trimStart, dropWhile_of_head hh, trimEnd, dropWhile_of_head hr,
    List.reverse_reverse]

theorem not_isBlank_of_any (h : s.any isBlank = false) : ∀ c ∈ s, isBlank c = false := by
  intro c hc
  exact Bool.eq_false_iff.2 (List.any_eq_false.1 h c hc)

theorem trim_of_forall_not (h : ∀ c ∈ s, isBlank c = false) : trim s = s :=
  trim_of_ends (fun c hc => h c (List.mem_of_mem_head? hc))
    fun c hc => h c (List.mem_of_mem_getLast? hc)

/-- The blanks around a text do not count. -/
theorem trim_append {a b : List Char} (ha : ∀ c ∈ a, isBlank c = true)
    (hb : ∀ c ∈ b, isBlank c = true) (hh : ∀ c ∈ s.head?, isBlank c = false)
    (hl : ∀ c ∈ s.getLast?, isBlank c = false) : trim (a ++ s ++ b) = s := by
  have hrev : ∀ c ∈ b.reverse, isBlank c = true := fun c hc => hb c (List.mem_reverse.1 hc)
  cases s with
  | nil =>
    have hall : ∀ c ∈ a ++ b, isBlank c = true := by
      intro c hc
      exact (List.mem_append.1 hc).elim (ha c) (hb c)
    have hnil : (a ++ b).dropWhile isBlank = [] := List.dropWhile_eq_nil_iff.2 hall
    rw [List.append_nil, trim, trimStart, hnil]
    rfl
  | cons c s =>
    have hstart : (c :: s ++ b).dropWhile isBlank = c :: s ++ b :=
      dropWhile_of_head (by simpa using hh c rfl)
    have hend := dropWhile_of_head (s := (c :: s).reverse) (by
      rw [List.head?_reverse]
      exact hl)
    rw [trim, trimStart, List.append_assoc, List.dropWhile_append_of_pos ha, hstart, trimEnd,
      List.reverse_append, List.dropWhile_append_of_pos hrev, hend, List.reverse_reverse]

/-- A text is its trimmed form with blanks around it. -/
theorem exists_blanks_around (s : List Char) : ∃ a b, s = a ++ trim s ++ b ∧
    (∀ c ∈ a, isBlank c = true) ∧ (∀ c ∈ b, isBlank c = true) ∧
    (∀ c ∈ (trim s).head?, isBlank c = false) ∧ ∀ c ∈ (trim s).getLast?, isBlank c = false := by
  have hblank : ∀ (t : List Char), ∀ c ∈ t.takeWhile isBlank, isBlank c = true :=
    fun t c hc => List.mem_takeWhile_imp hc
  have hhead : ∀ t : List Char, ∀ c ∈ (t.dropWhile isBlank).head?, isBlank c = false := by
    intro t c hc
    have hnot := List.head?_dropWhile_not isBlank t
    rwa [Option.mem_def.1 hc] at hnot
  let u := s.dropWhile isBlank
  have hs : s = s.takeWhile isBlank ++ u := (List.takeWhile_append_dropWhile).symm
  have hu : u = trim s ++ (u.reverse.takeWhile isBlank).reverse := by
    change u = (u.reverse.dropWhile isBlank).reverse ++ _
    rw [← List.reverse_append, List.takeWhile_append_dropWhile, List.reverse_reverse]
  refine ⟨s.takeWhile isBlank, (u.reverse.takeWhile isBlank).reverse, ?_, hblank s, ?_, ?_, ?_⟩
  · rw [List.append_assoc, ← hu]
    exact hs
  · exact fun c hc => hblank _ c (List.mem_reverse.1 hc)
  · intro c hc
    refine hhead s c ?_
    change c ∈ u.head?
    rw [hu, List.head?_append, Option.mem_def.1 hc]
    rfl
  · intro c hc
    refine hhead u.reverse c ?_
    rw [← List.getLast?_reverse]
    exact hc

theorem trim_trim (s : List Char) : trim (trim s) = trim s := by
  obtain ⟨-, -, -, -, -, hh, hl⟩ := exists_blanks_around s
  exact trim_of_ends hh hl

theorem mem_of_mem_trim (h : c ∈ trim s) : c ∈ s := by
  obtain ⟨a, b, hs, -⟩ := exists_blanks_around s
  rw [hs]
  exact List.mem_append_left b (List.mem_append_right a h)

theorem trim_eq_nil_iff : trim s = [] ↔ ∀ c ∈ s, isBlank c = true := by
  constructor
  · intro h
    obtain ⟨a, b, hs, ha, hb, -⟩ := exists_blanks_around s
    rw [h, List.append_nil] at hs
    rw [hs]
    exact fun c hc => (List.mem_append.1 hc).elim (ha c) (hb c)
  · intro h
    have hnil : s.dropWhile isBlank = [] := List.dropWhile_eq_nil_iff.2 h
    rw [trim, trimStart, hnil]
    rfl

/-! ## Fields -/

theorem mem_fields_iff {f : List Char} : f ∈ fields s ↔ f ∈ splitWhere isBlank s ∧ f ≠ [] := by
  simp [fields]

theorem not_isBlank_of_mem_fields {f : List Char} (h : f ∈ fields s) :
    ∀ c ∈ f, isBlank c = false :=
  not_of_mem_splitWhere (mem_fields_iff.1 h).1

theorem fields_of_forall_not (hne : s ≠ []) (h : ∀ c ∈ s, isBlank c = false) : fields s = [s] := by
  rw [fields, splitWhere_of_forall_not h]
  simp [hne]

/-- A blank divides the fields before it from those behind it. -/
theorem fields_append (hc : isBlank c = true) (s t : List Char) :
    fields (s ++ c :: t) = fields s ++ fields t := by
  rw [fields, splitWhere_append hc, List.filter_append, fields, fields]

/-- What holds no blank stands in a text exactly if it stands in one of its fields. -/
theorem infix_iff_exists_mem_fields (hne : mark ≠ []) (h : ∀ c ∈ mark, isBlank c = false) :
    mark <:+: s ↔ ∃ f ∈ fields s, mark <:+: f := by
  rw [infix_iff_exists_mem_splitWhere h]
  constructor
  · rintro ⟨f, hf, hm⟩
    have hfne : f ≠ [] := by
      rintro rfl
      exact hne (List.infix_nil.1 hm)
    exact ⟨f, mem_fields_iff.2 ⟨hf, hfne⟩, hm⟩
  · rintro ⟨f, hf, hm⟩
    exact ⟨f, (mem_fields_iff.1 hf).1, hm⟩

/-- The field at the end of a text ends as the text does. -/
theorem exists_fields_append (hne : t ≠ []) (h : ∀ c ∈ t, isBlank c = false) :
    ∃ before f, fields (s ++ t) = before ++ [f] ∧ t <:+ f := by
  induction s using List.reverseRecOn generalizing t with
  | nil => exact ⟨[], t, fields_of_forall_not hne h, List.suffix_rfl⟩
  | append_singleton s c ih =>
    rw [List.append_assoc, List.singleton_append]
    cases hc : isBlank c with
    | true => exact ⟨fields s, t, by rw [fields_append hc, fields_of_forall_not hne h],
        List.suffix_rfl⟩
    | false =>
      obtain ⟨before, f, hf, hsuffix⟩ :=
        ih (List.cons_ne_nil c t) (List.forall_mem_cons.2 ⟨hc, h⟩)
      exact ⟨before, f, hf, (List.suffix_cons c t).trans hsuffix⟩

/-! ## Single spaces -/

/-- The fields of a text with one space between any two of them. -/
def singleSpaced (s : List Char) : List Char := [' '].intercalate (fields s)

/-- Fields with one space between any two of them are found again. -/
theorem fields_intercalate {fs : List (List Char)}
    (h : ∀ f ∈ fs, f ≠ [] ∧ ∀ c ∈ f, isBlank c = false) : fields ([' '].intercalate fs) = fs := by
  induction fs with
  | nil => rfl
  | cons f fs ih =>
    obtain ⟨⟨hne, hf⟩, hrest⟩ := List.forall_mem_cons.1 h
    cases fs with
    | nil =>
      rw [List.intercalate_singleton]
      exact fields_of_forall_not hne hf
    | cons g fs =>
      rw [List.intercalate_cons_cons, List.append_assoc, List.singleton_append,
        fields_append (by decide), fields_of_forall_not hne hf, ih hrest]
      rfl

theorem fields_singleSpaced (s : List Char) : fields (singleSpaced s) = fields s :=
  fields_intercalate fun _ hf => ⟨(mem_fields_iff.1 hf).2, not_isBlank_of_mem_fields hf⟩

/-- A field that is not the last one has the separator behind it. -/
theorem infix_intercalate (sep : List Char) (before : List (List Char)) (f g : List Char)
    (after : List (List Char)) : f ++ sep <:+: sep.intercalate (before ++ f :: g :: after) := by
  induction before with
  | nil =>
    rw [List.nil_append, List.intercalate_cons_cons]
    exact (List.prefix_append _ _).isInfix
  | cons e before ih =>
    obtain ⟨x, xs, hx⟩ := List.exists_cons_of_ne_nil
      (List.append_ne_nil_of_right_ne_nil before (List.cons_ne_nil f (g :: after)))
    rw [List.cons_append, hx, List.intercalate_cons_cons, ← hx]
    exact ih.trans (List.suffix_append _ _).isInfix

/-- A word with a space behind it still has one when the blanks are made single spaces, unless it
ends the last field. -/
theorem infix_singleSpaced_or (hne : mark ≠ []) (h : ∀ c ∈ mark, isBlank c = false)
    (hs : mark ++ [' '] <:+: s) :
    mark ++ [' '] <:+: singleSpaced s ∨ ∃ f ∈ (fields s).getLast?, mark <:+ f := by
  obtain ⟨a, b, hs⟩ := hs
  have hsplit : s = a ++ mark ++ ' ' :: b := by
    rw [← hs]
    simp
  obtain ⟨before, f, hf, hsuffix⟩ := exists_fields_append (s := a) hne h
  have hfields : fields s = before ++ f :: fields b := by
    rw [hsplit, fields_append (by decide), hf, List.append_assoc]
    rfl
  cases hb : fields b with
  | nil => exact .inr ⟨f, by rw [hfields, hb]; simp, hsuffix⟩
  | cons g after =>
    obtain ⟨x, hx⟩ := hsuffix
    have hword : mark ++ [' '] <:+: f ++ [' '] := by
      rw [← hx, List.append_assoc]
      exact (List.suffix_append _ _).isInfix
    refine .inl (hword.trans ?_)
    rw [singleSpaced, hfields, hb]
    exact infix_intercalate _ before f g after

end BenchSweep.Text
