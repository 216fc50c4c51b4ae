import BenchSweep.Text.Pieces

/-! Texts that are cut and joined again. A separator in the middle cuts a text in two; the pieces at a
mark, joined by it, are the text, and since no mark overlaps another that starts with a character of
its own, they are the only such pieces. -/
set_option autoImplicit false

namespace BenchSweep.Text

/-! ## Runs at the start -/

section

variable {α : Type} {p : α → Bool} {s rest : List α}

theorem dropWhile_of_head (h : ∀ c ∈ s.head?, p c = false) : s.dropWhile p = s := by
  cases s with
  | nil => rfl
  | cons c s => rw [List.dropWhile_cons, h c rfl, if_neg Bool.false_ne_true]

/-- What a run is followed by ends it. -/
theorem takeWhile_append_of_head (hs : ∀ c ∈ s, p c = true) (hrest : ∀ c ∈ rest.head?, p c = false) :
    (s ++ rest).takeWhile p = s := by
  have hnil : rest.takeWhile p = [] := by
    cases rest with
    | nil => rfl
    | cons c rest => rw [List.takeWhile_cons, hrest c rfl, if_neg Bool.false_ne_true]
  rw [List.takeWhile_append_of_pos hs, hnil, List.append_nil]

theorem dropWhile_append_of_head (hs : ∀ c ∈ s, p c = true) (hrest : ∀ c ∈ rest.head?, p c = false) :
    (s ++ rest).dropWhile p = rest := by
  rw [List.dropWhile_append_of_pos hs, dropWhile_of_head hrest]

end

/-! ## Cuts at single characters -/

theorem splitWhere_eq_splitOnP {α : Type} (p : α → Bool) (s : List α) :
    splitWhere p s = s.splitOnP p := by
  induction s with
  | nil => rfl
  | cons c s ih =>
    rw [splitWhere, List.splitOnP_cons_eq_if_modifyHead, ih]
    congr 1
    cases hs : s.splitOnP p with
    | nil => exact (List.splitOnP_ne_nil p s hs).elim
    | cons q qs => rfl

theorem splitWhere_eq_splitOn {α : Type} [DecidableEq α] (c : α) (s : List α) :
    splitWhere (· == c) s = s.splitOn c := splitWhere_eq_splitOnP _ s

theorem splitWhere_of_forall_not {α : Type} {p : α → Bool} {s : List α} (h : ∀ c ∈ s, p c = false) :
    splitWhere p s = [s] := by
  rw [splitWhere_eq_splitOnP, List.splitOnP_eq_singleton h]

theorem splitWhere_of_not_mem {α : Type} [DecidableEq α] {c : α} {s : List α} (h : c ∉ s) :
    splitWhere (· == c) s = [s] :=
  splitWhere_of_forall_not fun _ hd => beq_eq_false_iff_ne.2 fun e => h (e ▸ hd)

/-- A separator in the middle cuts the text in two. -/
theorem splitWhere_append {α : Type} {p : α → Bool} {c : α} (hc : p c = true) (s t : List α) :
    splitWhere p (s ++ c :: t) = splitWhere p s ++ splitWhere p t := by
  simp only [splitWhere_eq_splitOnP, List.splitOnP_append_cons _ _ hc]

theorem not_of_mem_splitWhere {α : Type} {p : α → Bool} {s : List α} {piece : List α}
    (h : piece ∈ splitWhere p s) : ∀ c ∈ piece, p c = false := by
  induction s generalizing piece with
  | nil =>
    rw [List.mem_singleton.1 h]
    simp
  | cons d rest ih =>
    rw [splitWhere] at h
    by_cases hd : p d = true
    · rw [if_pos hd] at h
      rcases List.mem_cons.1 h with rfl | h
      · simp
      · exact ih h
    · rw [if_neg hd] at h
      obtain ⟨q, qs, hq⟩ := List.exists_cons_of_ne_nil (splitWhere_ne_nil p rest)
      rw [hq, consPiece] at h
      rcases List.mem_cons.1 h with rfl | h
      · refine List.forall_mem_cons.2 ⟨by simpa using hd, ?_⟩
        exact ih (hq ▸ List.mem_cons_self)
      · exact ih (hq ▸ List.mem_cons_of_mem q h)

/-- The first piece goes to the first separator. -/
theorem exists_splitWhere_eq_cons {α : Type} (p : α → Bool) (s : List α) :
    ∃ rest, splitWhere p s = s.takeWhile (fun c => !p c) :: rest := by
  induction s with
  | nil => exact ⟨[], rfl⟩
  | cons c s ih =>
    obtain ⟨rest, hrest⟩ := ih
    rw [splitWhere, hrest, List.takeWhile_cons]
    cases p c with
    | true => exact ⟨_, rfl⟩
    | false => exact ⟨rest, rfl⟩

/-- What holds no separator stands in a text exactly if it stands in one of its pieces. -/
theorem infix_iff_exists_mem_splitWhere {α : Type} {p : α → Bool} {mark s : List α}
    (h : ∀ c ∈ mark, p c = false) : mark <:+: s ↔ ∃ piece ∈ splitWhere p s, mark <:+: piece := by
  induction s with
  | nil => simp [splitWhere]
  | cons c s ih =>
    obtain ⟨rest, hrest⟩ := exists_splitWhere_eq_cons p s
    rw [List.infix_cons_iff, ih, splitWhere]
    cases hc : p c with
    | true =>
      have hstart : mark <+: c :: s ↔ mark <:+: [] := by
        rw [List.infix_nil]
        constructor
        · cases mark with
          | nil => exact fun _ => rfl
          | cons d mark =>
            intro hp
            obtain ⟨rfl, -⟩ := List.cons_prefix_cons.1 hp
            rw [h d List.mem_cons_self] at hc
            cases hc
        · rintro rfl
          exact List.nil_prefix
      rw [if_pos rfl, hstart]
      simp
    | false =>
      have hstart : mark <+: c :: s ↔ mark <+: c :: s.takeWhile fun c => !p c := by
        have hline : c :: s.takeWhile (fun c => !p c) = (c :: s).takeWhile fun c => !p c := by
          rw [List.takeWhile_cons, hc]
          rfl
        rw [hline]
        constructor
        · rintro ⟨t, ht⟩
          rw [← ht, List.takeWhile_append_of_pos fun d hd => by rw [h d hd]; rfl]
          exact List.prefix_append _ _
        · exact fun hp => hp.trans (List.takeWhile_prefix _)
      rw [hstart, hrest, if_neg Bool.false_ne_true, consPiece]
      simp only [List.mem_cons, exists_eq_or_imp, List.infix_cons_iff, or_assoc]

theorem not_mem_of_mem_splitWhere {α : Type} [DecidableEq α] {c : α} {s piece : List α}
    (h : piece ∈ splitWhere (· == c) s) : c ∉ piece := by
  intro hc
  have hno := not_of_mem_splitWhere h c hc
  simp at hno

/-! ## Cuts at a mark -/

theorem occurs_iff {mark s : List Char} : occurs mark s = true ↔ mark <:+: s := by
  induction s with
  | nil => simp [occurs]
  | cons c s ih =>
    rw [occurs, Bool.or_eq_true, List.isPrefixOf_iff_prefix, ih, List.infix_cons_iff]

theorem stripPrefix?_append (mark rest : List Char) :
    stripPrefix? mark (mark ++ rest) = some rest := by
  rw [stripPrefix?, if_pos (List.isPrefixOf_iff_prefix.2 (List.prefix_append mark rest)),
    List.drop_left]

theorem stripPrefix?_of_not_prefix {mark s : List Char} (h : ¬mark <+: s) :
    stripPrefix? mark s = none := by
  rw [stripPrefix?, if_neg (mt List.isPrefixOf_iff_prefix.1 h)]

theorem pieces_ne_nil (mark s : List Char) : pieces mark s ≠ [] := by
  cases s with
  | nil => simp [pieces]
  | cons c rest =>
    rw [pieces]
    split
    · simp
    · exact consPiece_ne_nil c _

/-- The first piece of a text is where the text starts. -/
theorem head_pieces_isPrefix {mark s p : List Char} {ps : List (List Char)}
    (h : pieces mark s = p :: ps) : p <+: s := by
  induction s generalizing p ps with
  | nil =>
    rw [pieces] at h
    obtain ⟨rfl, -⟩ := List.cons.inj h
    exact List.prefix_rfl
  | cons c rest ih =>
    rw [pieces] at h
    split at h
    · obtain ⟨rfl, -⟩ := List.cons.inj h
      exact List.nil_prefix
    · cases hr : pieces mark rest with
      | nil => exact (pieces_ne_nil mark rest hr).elim
      | cons q qs =>
        rw [hr, consPiece] at h
        obtain ⟨rfl, -⟩ := List.cons.inj h
        exact List.cons_prefix_cons.2 ⟨rfl, ih hr⟩

/-- The pieces with the mark between them are the text. -/
theorem intercalate_pieces (mark s : List Char) : mark.intercalate (pieces mark s) = s := by
  fun_induction pieces mark s with
  | case1 => rfl
  | case2 c rest hmark ih =>
    obtain ⟨hne, hp⟩ := hmark
    obtain ⟨tail, htail⟩ := List.isPrefixOf_iff_prefix.1 hp
    have hlength : 0 < mark.length := List.length_pos_iff.2 hne
    have hrest : rest.drop (mark.length - 1) = tail := by
      have hdrop : (c :: rest).drop mark.length = tail := by
        rw [← htail, List.drop_left]
      rw [← hdrop, show mark.length = mark.length - 1 + 1 by omega, List.drop_succ_cons]
      simp
    rw [hrest] at ih ⊢
    obtain ⟨q, qs, hq⟩ := List.exists_cons_of_ne_nil (pieces_ne_nil mark tail)
    rw [hq] at ih ⊢
    rw [List.intercalate_cons_cons, ih, List.nil_append, htail]
  | case3 c rest hmark ih =>
    obtain ⟨q, qs, hq⟩ := List.exists_cons_of_ne_nil (pieces_ne_nil mark rest)
    rw [hq] at ih ⊢
    cases qs with
    | nil => simpa [consPiece] using ih
    | cons q' qs =>
      rw [consPiece, List.intercalate_cons_cons]
      rw [List.intercalate_cons_cons] at ih
      rw [← ih]
      rfl

/-- No piece has the mark in it. -/
theorem not_infix_of_mem_pieces {mark s p : List Char} (hne : mark ≠ []) (h : p ∈ pieces mark s) :
    ¬ mark <:+: p := by
  fun_induction pieces mark s generalizing p with
  | case1 =>
    rw [List.mem_singleton.1 h]
    exact fun hp => hne (List.infix_nil.1 hp)
  | case2 c rest hmark ih =>
    rcases List.mem_cons.1 h with rfl | h
    · exact fun hp => hne (List.infix_nil.1 hp)
    · exact ih h
  | case3 c rest hmark ih =>
    obtain ⟨q, qs, hq⟩ := List.exists_cons_of_ne_nil (pieces_ne_nil mark rest)
    rw [hq] at ih h
    rcases List.mem_cons.1 h with rfl | h
    · intro hp
      rcases List.infix_cons_iff.1 hp with hp | hp
      · have hall : mark <+: c :: rest :=
          hp.trans (List.cons_prefix_cons.2 ⟨rfl, head_pieces_isPrefix hq⟩)
        exact hmark ⟨hne, List.isPrefixOf_iff_prefix.2 hall⟩
      · exact ih List.mem_cons_self hp
    · exact ih (List.mem_cons_of_mem q h)

/-! ## Marks that cannot overlap -/

section

variable {c : Char} {m p rest : List Char}

theorem not_prefix_append_mark (hc : c ∉ m) (hne : p ≠ []) (hp : ¬ c :: m <:+: p) :
    ¬ c :: m <+: p ++ (c :: m ++ rest) := by
  intro h
  have hstart : p <+: p ++ (c :: m ++ rest) := List.prefix_append p _
  rcases List.prefix_or_prefix_of_prefix h hstart with hin | hover
  · exact hp hin.isInfix
  · obtain ⟨t, ht⟩ := hover
    have hback : t <+: c :: m ++ rest := by
      rw [← List.prefix_append_right_inj p, ht]
      exact h
    cases t with
    | nil =>
      rw [List.append_nil] at ht
      exact hp (ht ▸ List.infix_rfl)
    | cons d t =>
      obtain ⟨rfl, -⟩ := List.cons_prefix_cons.1 hback
      obtain ⟨x, p', rfl⟩ := List.exists_cons_of_ne_nil hne
      rw [List.cons_append, List.cons.injEq] at ht
      have hm : d ∈ m := by
        rw [← ht.2]
        exact List.mem_append_right p' List.mem_cons_self
      exact hc hm

theorem pieces_append_mark (hc : c ∉ m) (hp : ¬ c :: m <:+: p) :
    pieces (c :: m) (p ++ (c :: m ++ rest)) = p :: pieces (c :: m) rest := by
  induction p with
  | nil =>
    have hstart : (c :: m).isPrefixOf (c :: (m ++ rest)) = true :=
      List.isPrefixOf_iff_prefix.2 (List.prefix_append (c :: m) rest)
    have hdrop : (m ++ rest).drop ((c :: m).length - 1) = rest := by simp
    rw [List.nil_append, List.cons_append, pieces, if_pos ⟨List.cons_ne_nil c m, hstart⟩, hdrop]
  | cons x p ih =>
    have hno : ¬ (c :: m ≠ [] ∧ (c :: m).isPrefixOf (x :: (p ++ (c :: m ++ rest))) = true) := by
      rintro ⟨-, h⟩
      exact not_prefix_append_mark hc (List.cons_ne_nil x p) hp (List.isPrefixOf_iff_prefix.1 h)
    rw [List.cons_append, pieces, if_neg hno, ih fun h => hp (List.infix_cons h)]
    rfl

theorem pieces_of_not_isInfix {mark s : List Char} (h : ¬ mark <:+: s) : pieces mark s = [s] := by
  induction s with
  | nil => rw [pieces]
  | cons x s ih =>
    have hno : ¬ (mark ≠ [] ∧ mark.isPrefixOf (x :: s) = true) := by
      rintro ⟨-, hx⟩
      exact h (List.isPrefixOf_iff_prefix.1 hx).isInfix
    rw [pieces, if_neg hno, ih fun hs => h (List.infix_cons hs)]
    rfl

/-- Texts without the mark, joined by it, are cut apart again. -/
theorem pieces_intercalate (hc : c ∉ m) {ps : List (List Char)} (hne : ps ≠ [])
    (hps : ∀ p ∈ ps, ¬ c :: m <:+: p) : pieces (c :: m) ((c :: m).intercalate ps) = ps := by
  induction ps with
  | nil => exact (hne rfl).elim
  | cons p ps ih =>
    obtain ⟨hp, hrest⟩ := List.forall_mem_cons.1 hps
    cases ps with
    | nil =>
      rw [List.intercalate_singleton]
      exact pieces_of_not_isInfix hp
    | cons q qs =>
      rw [List.intercalate_cons_cons, List.append_assoc, pieces_append_mark hc hp,
        ih (List.cons_ne_nil q qs) hrest]

end

end BenchSweep.Text
