import BenchSweep.Proofs.Text.Pieces
import BenchSweep.Toml.Lexeme
import BenchSweep.Toml.Writer
import Mathlib.Data.List.Basic

/-! Texts and keys of a document are read back. Whatever quotes a text stands between, its characters
stand there as pieces that a reader takes one by one; between triple quotes also quotes stand as they
are, as long as no three of them follow each other. -/
set_option autoImplicit false

namespace BenchSweep.Toml

/-! ## Pieces -/

/-- The ways to spell one character between double quotes: as it is, behind a backslash or by its
number. -/
inductive Piece : List Char → Char → Prop
  | plain {c : Char} (hplain : isPlain c = true) (hquote : c ≠ '"') (hslash : c ≠ '\\') : Piece [c] c
  | named {x c : Char} (h : escaped? x = some c) : Piece ['\\', x] c
  | numbered {x₁ x₂ x₃ x₄ c : Char} (h : scalar? [x₁, x₂, x₃, x₄] = some c) :
      Piece ['\\', 'u', x₁, x₂, x₃, x₄] c

theorem Piece.exists_head {p : List Char} {c : Char} (h : Piece p c) :
    ∃ x rest, p = x :: rest ∧ isPlain x = true ∧ x ≠ '"' := by
  cases h with
  | plain hplain hquote _ => exact ⟨c, [], rfl, hplain, hquote⟩
  | named _ => exact ⟨'\\', _, rfl, by decide, by decide⟩
  | numbered _ => exact ⟨'\\', _, rfl, by decide, by decide⟩

theorem escaped?_ne_none_of_mem {x c : Char} (h : escaped? x = some c) :
    x = 'b' ∨ x = 't' ∨ x = 'n' ∨ x = 'f' ∨ x = 'r' ∨ x = '"' ∨ x = '\\' := by
  unfold escaped? at h
  split at h <;> simp_all

theorem basicBody_piece {p : List Char} {c : Char} (h : Piece p c) (rest : List Char) :
    basicBody (p ++ rest) = consChar c (basicBody rest) := by
  cases h with
  | plain hplain hquote hslash =>
    rw [List.singleton_append, basicBody.eq_def]
    split <;> simp_all
  | named h =>
    rcases escaped?_ne_none_of_mem h with rfl | rfl | rfl | rfl | rfl | rfl | rfl <;>
      (cases h; rfl)
  | numbered h =>
    simp only [List.cons_append, List.nil_append, basicBody, h, Option.bind_some]

theorem not_ends_of_isPlain {c : Char} (h : isPlain c = true) : c ≠ '\n' ∧ c ≠ '\r' := by
  constructor
  · rintro rfl
    exact absurd h (by decide)
  · rintro rfl
    exact absurd h (by decide)

theorem multiBasicBody_piece {p : List Char} {c : Char} (h : Piece p c) (rest : List Char) :
    multiBasicBody false (p ++ rest) = consChar c (multiBasicBody false rest) := by
  cases h with
  | plain hplain hquote hslash =>
    obtain ⟨hn, hr⟩ := not_ends_of_isPlain hplain
    rw [List.singleton_append, multiBasicBody.eq_def]
    split <;> simp_all
  | named h =>
    rcases escaped?_ne_none_of_mem h with rfl | rfl | rfl | rfl | rfl | rfl | rfl <;>
      (cases h; rfl)
  | numbered h =>
    simp only [List.cons_append, List.nil_append, multiBasicBody, h, Option.bind_some]

/-! ## Characters as they are escaped -/

theorem needsEscape_iff {c : Char} : needsEscape c = true ↔
    c.toNat < 32 ∧ c ≠ '\t' ∧ c ≠ '\n' ∨ c.toNat = 127 := by
  have hlt : c < ' ' ↔ c.toNat < 32 := Iff.rfl
  have hdel : c = '\x7f' ↔ c.toNat = 127 := Char.toNat_inj.symm
  unfold needsEscape
  rw [Bool.or_eq_true, beq_iff_eq, hdel, Bool.and_eq_true, Bool.and_eq_true, decide_eq_true_iff,
    decide_eq_true_iff, decide_eq_true_iff, hlt, and_assoc]

/-- What needs no escape can stand as it is, unless it ends a line. -/
theorem isPlain_of_not_needsEscape {c : Char} (h : needsEscape c = false) (hn : c ≠ '\n') :
    isPlain c = true := by
  rw [← Bool.not_eq_true, needsEscape_iff] at h
  unfold isPlain
  rw [Bool.or_eq_true, Bool.and_eq_true, decide_eq_true_iff, decide_eq_true_iff, decide_eq_true_iff]
  by_cases ht : c = '\t'
  · exact .inl ht
  · simp only [ht, hn, ne_eq, not_false_eq_true, and_true, not_or] at h
    exact .inr ⟨by omega, h.2⟩

theorem scalar?_fourDigits {c : Char} (h : c.toNat < 128) :
    (fourDigits c).length = 4 ∧ scalar? (fourDigits c) = some c := by
  have hall : ∀ n < 128, (fourDigits (Char.ofNat n)).length = 4 ∧
      scalar? (fourDigits (Char.ofNat n)) = some (Char.ofNat n) := by decide +kernel
  have hc := hall c.toNat h
  rwa [Char.ofNat_toNat] at hc

theorem piece_escaped {c : Char} (hquote : c ≠ '"') (hn : c ≠ '\n') : Piece (escaped c) c := by
  unfold escaped
  split
  · rename_i h
    subst h
    exact .named rfl
  split
  · rename_i h
    subst h
    exact .named rfl
  split
  · rename_i h
    subst h
    exact .named rfl
  split
  · rename_i h
    subst h
    exact .named rfl
  split
  · rename_i h
    subst h
    exact .named rfl
  rename_i hslash _ _ _ _
  split
  · rename_i h
    have hlt : c.toNat < 128 := by
      have := needsEscape_iff.1 h
      omega
    obtain ⟨hlength, hscalar⟩ := scalar?_fourDigits hlt
    obtain ⟨x₁, x₂, x₃, x₄, hx⟩ := List.length_eq_four.1 hlength
    rw [hx] at hscalar ⊢
    exact .numbered hscalar
  · rename_i h
    exact .plain (isPlain_of_not_needsEscape (Bool.eq_false_iff.2 h) hn) hquote hslash

/-! ## Texts on one line -/

theorem piece_basic (c : Char) :
    Piece (if c = '"' then ['\\', '"'] else if c = '\n' then ['\\', 'n'] else escaped c) c := by
  split
  · rename_i h
    subst h
    exact .named rfl
  split
  · rename_i h
    subst h
    exact .named rfl
  · rename_i hquote hn
    exact piece_escaped hquote hn

/-- What stands between double quotes is read back. -/
theorem basicBody_basic (s rest : List Char) :
    basicBody (s.flatMap (fun c => if c = '"' then ['\\', '"'] else if c = '\n' then ['\\', 'n']
      else escaped c) ++ '"' :: rest) = some (s, rest) := by
  induction s with
  | nil => rfl
  | cons c s ih =>
    rw [List.flatMap_cons, List.append_assoc, basicBody_piece (piece_basic c), ih]
    rfl

/-- What stands between single quotes is read back, as it cannot hold a single quote. -/
theorem literalBody_literal {s : List Char} (hplain : ∀ c ∈ s, isPlain c = true) (hs : '\'' ∉ s)
    (rest : List Char) : literalBody (s ++ '\'' :: rest) = some (s, rest) := by
  induction s with
  | nil => rfl
  | cons c s ih =>
    obtain ⟨hc, hplain⟩ := List.forall_mem_cons.1 hplain
    obtain ⟨hne, hs⟩ := not_or.1 (mt List.mem_cons.2 hs)
    have hstep : ∀ t, literalBody (c :: t) = consChar c (literalBody t) := by
      intro t
      rw [literalBody.eq_def]
      split <;> simp_all
    rw [List.cons_append, hstep, ih hplain hs]
    rfl

/-! ## Texts between triple quotes -/

theorem run_le_longestRun (mark : Char) (run : Nat) (s : List Char) : run ≤ longestRun mark run s := by
  induction s generalizing run with
  | nil => exact Nat.le_refl run
  | cons c s ih =>
    unfold longestRun
    split
    · exact Nat.le_of_succ_le (ih (run + 1))
    · exact Nat.le_max_left run _

theorem longestRun_eq_zero_iff {mark : Char} {run : Nat} {s : List Char} :
    longestRun mark run s = 0 ↔ run = 0 ∧ mark ∉ s := by
  induction s generalizing run with
  | nil => simp [longestRun]
  | cons c s ih =>
    unfold longestRun
    split
    · rename_i h
      simp [ih, h]
    · rename_i h
      have hne : mark ≠ c := fun e => h e.symm
      simp [ih, hne]

/-- A reader of the inside of a text between three marks: it takes up to two marks before those that
end the text, and a mark that no two others follow as a character. -/
structure Closes (read : List Char → Option (List Char × List Char)) (mark : Char) : Prop where
  none : ∀ rest, rest.head? ≠ some mark → read (mark :: mark :: mark :: rest) = some ([], rest)
  one : ∀ rest, rest.head? ≠ some mark →
    read (mark :: mark :: mark :: mark :: rest) = some ([mark], rest)
  two : ∀ rest, read (mark :: mark :: mark :: mark :: mark :: rest) = some ([mark, mark], rest)
  inside : ∀ rest, (∀ t, rest ≠ mark :: mark :: t) → read (mark :: rest) = consChar mark (read rest)

/-- The spelling of a text between three marks, behind `run` marks: pieces of one character each, and
no three marks in a row. -/
inductive Spelled (read : List Char → Option (List Char × List Char)) (mark : Char) :
    Nat → List Char → List Char → Prop
  | nil {run : Nat} : Spelled read mark run [] []
  | mark {run : Nat} {t s : List Char} (hrun : run < 2) (h : Spelled read mark (run + 1) t s) :
      Spelled read mark run (mark :: t) (mark :: s)
  | piece {run : Nat} {x c : Char} {p t s : List Char} (hx : x ≠ mark)
      (hread : ∀ rest, read (x :: p ++ rest) = consChar c (read rest))
      (h : Spelled read mark 0 t s) : Spelled read mark run (x :: p ++ t) (c :: s)

/-- A text between three marks is read back. -/
theorem Spelled.read_eq {read : List Char → Option (List Char × List Char)} {mark : Char}
    (hread : Closes read mark) {run : Nat} {t s : List Char} (h : Spelled read mark run t s)
    {rest : List Char} (hrest : rest.head? ≠ some mark) :
    read (t ++ mark :: mark :: mark :: rest) = some (s, rest) := by
  induction h with
  | nil => exact hread.none rest hrest
  | piece hx hpiece h ih =>
    rw [List.append_assoc, hpiece, ih]
    rfl
  | @mark run t s hrun h ih =>
    have hinside : (∀ u, t ++ mark :: mark :: mark :: rest ≠ mark :: mark :: u) →
        read (mark :: t ++ mark :: mark :: mark :: rest) = some (mark :: s, rest) := by
      intro hne
      rw [List.cons_append, hread.inside _ hne, ih]
      rfl
    cases h with
    | nil => exact hread.one rest hrest
    | piece hx _ _ =>
      exact hinside fun u he => hx (List.cons.inj he).1
    | mark hrun' h =>
      cases h with
      | nil => exact hread.two rest
      | piece hx _ _ =>
        exact hinside fun u he => hx (List.cons.inj (List.cons.inj he).2).1
      | mark hrun'' _ => omega

theorem closes_multiBasicBody : Closes (multiBasicBody false) '"' where
  none rest hrest := by
    rw [multiBasicBody.eq_def]
    split <;> rename_i heq <;> cases heq <;> simp_all
  one rest hrest := by
    rw [multiBasicBody.eq_def]
    split <;> rename_i heq <;> cases heq <;> simp_all
  two rest := rfl
  inside rest hrest := by
    rw [multiBasicBody.eq_def]
    split <;> rename_i heq <;> cases heq <;> simp_all [isPlain]

theorem closes_multiLiteralBody : Closes multiLiteralBody '\'' where
  none rest hrest := by
    rw [multiLiteralBody.eq_def]
    split <;> rename_i heq <;> cases heq <;> simp_all
  one rest hrest := by
    rw [multiLiteralBody.eq_def]
    split <;> rename_i heq <;> cases heq <;> simp_all
  two rest := rfl
  inside rest hrest := by
    rw [multiLiteralBody.eq_def]
    split <;> rename_i heq <;> cases heq <;> simp_all [isPlain]

theorem spelled_tripleBody {run : Nat} (h : run ≤ 2) (s : List Char) :
    Spelled (multiBasicBody false) '"' run (tripleBody run s) s := by
  induction s generalizing run with
  | nil => exact .nil
  | cons c s ih =>
    unfold tripleBody
    split
    · rename_i hc
      subst hc
      split
      · exact .piece (p := ['"']) (by decide) (multiBasicBody_piece (.named rfl)) (ih (Nat.zero_le 2))
      · exact .mark (by omega) (ih (by omega))
    split
    · rename_i hc
      subst hc
      exact .piece (p := []) (by decide) (fun rest => rfl) (ih (Nat.zero_le 2))
    · rename_i hquote hn
      have hpiece := piece_escaped hquote hn
      obtain ⟨x, p, hp, -, hx⟩ := hpiece.exists_head
      rw [hp] at hpiece ⊢
      exact .piece hx (multiBasicBody_piece hpiece) (ih (Nat.zero_le 2))

theorem spelled_literal {run : Nat} {s : List Char} (hplain : ∀ c ∈ s, c = '\n' ∨ isPlain c = true)
    (h : longestRun '\'' run s ≤ 2) : Spelled multiLiteralBody '\'' run s s := by
  induction s generalizing run with
  | nil => exact .nil
  | cons c s ih =>
    obtain ⟨hc, hrest⟩ := List.forall_mem_cons.1 hplain
    unfold longestRun at h
    split at h
    · rename_i hmark
      subst hmark
      have hrun := run_le_longestRun '\'' (run + 1) s
      exact .mark (by omega) (ih hrest h)
    · rename_i hmark
      refine .piece (p := []) hmark (fun rest => ?_) (ih hrest (by omega))
      rcases hc with rfl | hc
      · rfl
      · obtain ⟨hn, hr⟩ := not_ends_of_isPlain hc
        rw [List.singleton_append, multiLiteralBody.eq_def]
        split <;> simp_all

/-- A text whose first character stands as it is. -/
def StartsPlain (t : List Char) : Prop := ∃ x rest, t = x :: rest ∧ isPlain x = true

theorem StartsPlain.append {t : List Char} (h : StartsPlain t) (rest : List Char) :
    StartsPlain (t ++ rest) := by
  obtain ⟨x, t, rfl, hx⟩ := h
  exact ⟨x, t ++ rest, rfl, hx⟩

/-- Without the line end that may stand behind the marks. -/
theorem skipNewline_append {newline : Bool} {t : List Char} (h : newline = false → StartsPlain t) :
    skipNewline ((if newline then ['\n'] else []) ++ t) = t := by
  cases newline with
  | true => rfl
  | false =>
    obtain ⟨x, t, rfl, hx⟩ := h rfl
    obtain ⟨hn, hr⟩ := not_ends_of_isPlain hx
    rw [if_neg Bool.false_ne_true, List.nil_append, skipNewline.eq_def]
    split <;> simp_all

/-! ## Texts in any quotes -/

section Quoted

variable {s rest : List Char}

theorem escapes_eq_false_iff : (TextShape.of s).escapes = false ↔ ∀ c ∈ s, needsEscape c = false := by
  simp [TextShape.of]

theorem newline_eq_false_iff : (TextShape.of s).newline = false ↔ '\n' ∉ s := by
  simp [TextShape.of]

theorem plain_of_escapes_eq_false (h : (TextShape.of s).escapes = false) :
    ∀ c ∈ s, c = '\n' ∨ isPlain c = true := by
  intro c hc
  by_cases hn : c = '\n'
  · exact .inl hn
  · exact .inr (isPlain_of_not_needsEscape (escapes_eq_false_iff.1 h c hc) hn)

theorem plain_of_one_line (h : (TextShape.of s).escapes = false)
    (hn : (TextShape.of s).newline = false) : ∀ c ∈ s, isPlain c = true := fun c hc =>
  (plain_of_escapes_eq_false h c hc).resolve_left fun e => newline_eq_false_iff.1 hn (e ▸ hc)

theorem string?_basic (hrest : rest.head? ≠ some '"') :
    string? (basic s ++ rest) = some (s, rest) := by
  have hread := basicBody_basic s rest
  unfold basic
  simp only [List.cons_append, List.append_assoc, List.nil_append]
  generalize ht : s.flatMap (fun c => if c = '"' then ['\\', '"'] else if c = '\n' then ['\\', 'n']
    else escaped c) = t at hread
  have hhead : t.head? ≠ some '"' := by
    subst ht
    cases s with
    | nil => simp
    | cons c s =>
      obtain ⟨x, p, hp, -, hx⟩ := (piece_basic c).exists_head
      rw [List.flatMap_cons, hp]
      simpa using hx
  rw [string?.eq_def]
  split <;> rename_i heq
  · cases t with
    | nil =>
      cases heq
      exact (hrest rfl).elim
    | cons x t =>
      have hx : x = '"' := (List.cons.inj (List.cons.inj heq).2).1
      exact (hhead (congrArg some hx)).elim
  · rw [← (List.cons.inj heq).2]
    exact hread
  · cases heq
  · cases heq
  · rename_i h _
    exact (h _ rfl).elim

theorem string?_literal (hplain : ∀ c ∈ s, isPlain c = true) (hs : '\'' ∉ s)
    (hrest : rest.head? ≠ some '\'') : string? ('\'' :: s ++ ['\''] ++ rest) = some (s, rest) := by
  have hread := literalBody_literal hplain hs rest
  simp only [List.cons_append, List.append_assoc, List.nil_append]
  have hhead : s.head? ≠ some '\'' := fun h => hs (List.mem_of_head? h)
  rw [string?.eq_def]
  split <;> rename_i heq
  · cases heq
  · cases heq
  · cases s with
    | nil =>
      cases heq
      exact (hrest rfl).elim
    | cons x s =>
      have hx : x = '\'' := (List.cons.inj (List.cons.inj heq).2).1
      exact (hhead (congrArg some hx)).elim
  · rw [← (List.cons.inj heq).2]
    exact hread
  · exact (heq _ rfl).elim

theorem startsPlain_tripleBody (hn : '\n' ∉ s) (rest : List Char) :
    StartsPlain (tripleBody 0 s ++ '"' :: rest) := by
  cases s with
  | nil => exact ⟨'"', rest, rfl, by decide⟩
  | cons c s =>
    refine StartsPlain.append ?_ _
    obtain ⟨hne, -⟩ := not_or.1 (mt List.mem_cons.2 hn)
    unfold tripleBody
    split
    · exact ⟨'"', _, rfl, by decide⟩
    rename_i hquote
    rw [if_neg fun e => hne e.symm]
    obtain ⟨x, p, hp, hx, -⟩ := (piece_escaped hquote fun e => hne e.symm).exists_head
    rw [hp]
    exact ⟨x, _, rfl, hx⟩

theorem string?_triple_basic {newline : Bool} (hn : newline = false → '\n' ∉ s)
    (hrest : rest.head? ≠ some '"') :
    string? (triple '"' newline (tripleBody 0 s) ++ rest) = some (s, rest) := by
  have hread := (spelled_tripleBody (Nat.zero_le 2) s).read_eq closes_multiBasicBody hrest
  have hskip := skipNewline_append fun h => startsPlain_tripleBody (hn h) ('"' :: '"' :: rest)
  unfold triple
  simp only [List.append_assoc, List.cons_append, List.nil_append, string?]
  rw [hskip, hread]

theorem string?_triple_literal {newline : Bool} (hplain : ∀ c ∈ s, c = '\n' ∨ isPlain c = true)
    (hn : newline = false → '\n' ∉ s) (hs : longestRun '\'' 0 s ≤ 2)
    (hrest : rest.head? ≠ some '\'') :
    string? (triple '\'' newline s ++ rest) = some (s, rest) := by
  have hread := (spelled_literal hplain hs).read_eq closes_multiLiteralBody hrest
  have hstarts : newline = false → StartsPlain (s ++ '\'' :: '\'' :: '\'' :: rest) := by
    intro h
    cases s with
    | nil => exact ⟨'\'', _, rfl, by decide⟩
    | cons c s =>
      refine ⟨c, _, rfl, (hplain c List.mem_cons_self).resolve_left fun e => ?_⟩
      exact hn h (e ▸ List.mem_cons_self)
  have hskip := skipNewline_append hstarts
  unfold triple
  simp only [List.append_assoc, List.cons_append, List.nil_append, string?]
  rw [hskip, hread]

/-- A text is read back from the quotes that were chosen for it. -/
theorem string?_writeText (hd : rest.head? ≠ some '"') (hs : rest.head? ≠ some '\'') :
    string? (writeText s ++ rest) = some (s, rest) := by
  unfold writeText
  dsimp only
  split
  · exact string?_basic hd
  split
  · rename_i h
    simp only [Bool.and_eq_true, Bool.not_eq_true', decide_eq_true_eq] at h
    obtain ⟨⟨hescapes, hquotes⟩, hnewline⟩ := h
    exact string?_literal (plain_of_one_line hescapes hnewline)
      (longestRun_eq_zero_iff.1 hquotes).2 hs
  split
  · exact string?_triple_basic newline_eq_false_iff.1 hd
  split
  · rename_i h
    simp only [Bool.and_eq_true, Bool.not_eq_true', decide_eq_true_eq] at h
    exact string?_triple_literal (plain_of_escapes_eq_false h.1) newline_eq_false_iff.1 h.2 hs
  split
  · exact string?_triple_basic (fun h => absurd h (by decide)) hd
  · exact string?_basic hd

theorem exists_quote_writeText (s : List Char) :
    ∃ t, writeText s = '"' :: t ∨ writeText s = '\'' :: t := by
  unfold writeText
  dsimp only
  split
  · exact ⟨_, .inl rfl⟩
  split
  · exact ⟨_, .inr rfl⟩
  split
  · exact ⟨_, .inl rfl⟩
  split
  · exact ⟨_, .inr rfl⟩
  split
  · exact ⟨_, .inl rfl⟩
  · exact ⟨_, .inl rfl⟩

/-! ## Keys -/

theorem isBare_eq (c : Char) : isBare c = isBareKeyChar c := by
  unfold isBare isBareKeyChar
  rw [Bool.or_assoc, Bool.or_assoc, Bool.or_comm (c == '_')]
  rfl

/-- A key starts with a quote or stands bare. -/
theorem exists_head_writeKey (s : List Char) :
    ∃ x t, writeKey s = x :: t ∧ (x = '"' ∨ x = '\'' ∨ isBareKeyChar x = true) := by
  unfold writeKey
  dsimp only
  split
  · rename_i h
    rw [Bool.and_eq_true, List.all_eq_true] at h
    cases s with
    | nil => exact absurd h.1 (by decide)
    | cons c s => exact ⟨c, s, rfl, .inr (.inr (isBare_eq c ▸ h.2 c List.mem_cons_self))⟩
  split
  · exact ⟨'"', _, rfl, .inl rfl⟩
  split
  · exact ⟨'\'', _, rfl, .inr (.inl rfl)⟩
  · exact ⟨'"', _, rfl, .inl rfl⟩

theorem simpleKey?_basic : simpleKey? (basic s ++ rest) = some (String.ofList s, rest) := by
  unfold basic
  simp only [List.cons_append, List.append_assoc, List.nil_append, simpleKey?, basicBody_basic,
    Option.map_some]

theorem simpleKey?_bare (hne : s ≠ []) (hs : ∀ c ∈ s, isBareKeyChar c = true)
    (hrest : ∀ c ∈ rest.head?, isBareKeyChar c = false) :
    simpleKey? (s ++ rest) = some (String.ofList s, rest) := by
  have hword := Text.takeWhile_append_of_head hs hrest
  have htail := Text.dropWhile_append_of_head hs hrest
  have hempty : s.isEmpty = false := by simp [hne]
  rw [simpleKey?.eq_def]
  split
  · rename_i heq
    cases s with
    | nil => exact (hne rfl).elim
    | cons c s =>
      cases heq
      exact absurd (hs '"' List.mem_cons_self) (by decide)
  · rename_i heq
    cases s with
    | nil => exact (hne rfl).elim
    | cons c s =>
      cases heq
      exact absurd (hs '\'' List.mem_cons_self) (by decide)
  · dsimp only
    rw [hword, htail, hempty, if_neg Bool.false_ne_true]

/-- A key is read back, however it stands. -/
theorem simpleKey?_writeKey (hrest : ∀ c ∈ rest.head?, isBareKeyChar c = false) :
    simpleKey? (writeKey s ++ rest) = some (String.ofList s, rest) := by
  unfold writeKey
  dsimp only
  split
  · rename_i h
    simp only [Bool.and_eq_true, Bool.not_eq_true', List.all_eq_true, isBare_eq] at h
    exact simpleKey?_bare (by simpa using h.1) h.2 hrest
  split
  · exact simpleKey?_basic
  split
  · rename_i h
    simp only [Bool.and_eq_true, Bool.not_eq_true', Bool.or_eq_false_iff, decide_eq_true_eq] at h
    obtain ⟨⟨hescapes, hnewline⟩, hquotes⟩ := h
    have hread := literalBody_literal (plain_of_one_line hescapes hnewline)
      (longestRun_eq_zero_iff.1 hquotes).2 rest
    simp only [List.cons_append, List.append_assoc, List.nil_append, simpleKey?, hread,
      Option.map_some]
  · exact simpleKey?_basic

end Quoted

end BenchSweep.Toml
