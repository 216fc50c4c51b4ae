import BenchSweep.Proofs.Steps
import BenchSweep.Proofs.Toml.Scalar
import Mathlib.Data.List.Nodup

/-! Documents are read back. The lines of a document of one level of tables are read one by one, whatever
follows them, and the tables that they build are those that were written, as long as no key stands twice
in one table. -/
set_option autoImplicit false

namespace BenchSweep.Toml

variable {rest : List Char}

/-! ## Lines -/

theorem isSpace_of_starts_key {c : Char} (h : c = '"' ∨ c = '\'' ∨ isBareKeyChar c = true) :
    isSpace c = false ∧ c ≠ '[' ∧ c ≠ '\n' ∧ c ≠ '\r' ∧ c ≠ '#' := by
  rcases h with rfl | rfl | h
  · decide
  · decide
  · have hne : ∀ d, isBareKeyChar d = false → c ≠ d := by
      rintro d hd rfl
      rw [h] at hd
      cases hd
    have hspace := hne ' ' (by decide)
    have htab := hne '\t' (by decide)
    refine ⟨by simp [isSpace, hspace, htab], ?_⟩
    exact ⟨hne _ (by decide), hne _ (by decide), hne _ (by decide), hne _ (by decide)⟩

theorem skipSpaces_of_not {c : Char} (h : isSpace c = false) : skipSpaces (c :: rest) = c :: rest := by
  unfold skipSpaces
  rw [List.dropWhile_cons_of_neg (by rw [h]; decide)]

/-- A key without dots behind it is a path of one part. -/
theorem keyPath?_writeKey {key : String} {c : Char} {t : List Char}
    (hrest : ∀ c ∈ rest.head?, isBareKeyChar c = false) (hskip : skipSpaces rest = c :: t)
    (hdot : c ≠ '.') : keyPath? (writeKey key.toList ++ rest) = some ([], key, c :: t) := by
  have hread : simpleKey? (skipSpaces (writeKey key.toList ++ rest)) = some (key, rest) := by
    obtain ⟨x, u, hu, hx⟩ := exists_head_writeKey key.toList
    have hkey := simpleKey?_writeKey (s := key.toList) hrest
    rw [hu, List.cons_append] at hkey ⊢
    rw [skipSpaces_of_not (isSpace_of_starts_key hx).1, hkey, String.ofList_toList]
  have hdotted : dottedKey? (depthLimit - 1) (writeKey key.toList ++ rest) =
      some ([key], c :: t) := by
    unfold depthLimit
    rw [dottedKey?, hread]
    simp only [Option.bind_eq_bind, Option.bind_some, hskip]
    split
    · rename_i heq
      exact (hdot (List.cons.inj heq).1).elim
    · rfl
  unfold keyPath?
  rw [hdotted]
  rfl

/-- No value starts with a space. -/
theorem skipSpaces_of_value? {level : Nat} {s : List Char} {r : Value × List Char}
    (h : value? level s = some r) : skipSpaces s = s := by
  cases s with
  | nil => rfl
  | cons c s =>
    cases hc : isSpace c with
    | false => exact skipSpaces_of_not hc
    | true =>
      have hspace : c = ' ' ∨ c = '\t' := by simpa [isSpace] using hc
      have hword : isWordChar c = false := by rcases hspace with rfl | rfl <;> decide
      have htake : takeWord (c :: s) = ([], c :: s) := by
        unfold takeWord
        rw [List.takeWhile_cons_of_neg (by rw [hword]; decide),
          List.dropWhile_cons_of_neg (by rw [hword]; decide)]
        rfl
      rw [value?_cons (by rcases hspace with rfl | rfl <;> decide), htake] at h
      cases h

/-- The statement that a written pair makes. -/
def Pair.statement (p : Pair) : Statement := .pair [] p.1 p.2.value

/-- A line of a document starts with a key, in a header behind a bracket. -/
def StartsLine (t : List Char) : Prop :=
  ∃ c u, t = c :: u ∧ isSpace c = false ∧ c ≠ '\n' ∧ c ≠ '\r' ∧ c ≠ '#'

theorem startsLine_writeKey (key s : List Char) : StartsLine (writeKey key ++ s) := by
  obtain ⟨c, u, hu, hc⟩ := exists_head_writeKey key
  obtain ⟨hspace, -, hends⟩ := isSpace_of_starts_key hc
  exact ⟨c, u ++ s, by rw [hu, List.cons_append], hspace, hends⟩

theorem statement?_pair {p : Pair} {t : List Char} (h : writePair p = some t) (rest : List Char) :
    statement? (t ++ rest) = some (p.statement, rest) := by
  obtain ⟨key, v⟩ := p
  obtain ⟨w, hw, rfl⟩ := Option.map_eq_some_iff.1 h
  have hvalue := value?_write hw (depthLimit - 1) rest
  have hskip := skipSpaces_of_value? hvalue
  have hspace : skipSpaces (' ' :: (w ++ '\n' :: rest)) = w ++ '\n' :: rest := hskip
  have hpath : keyPath? (writeKey key.toList ++ ' ' :: '=' :: ' ' :: (w ++ '\n' :: rest)) =
      some ([], key, '=' :: ' ' :: (w ++ '\n' :: rest)) := by
    refine keyPath?_writeKey ?_ rfl (by decide)
    intro c hc
    obtain rfl := Option.some.inj hc
    decide
  have hpair : pair? (value? (depthLimit - 1))
      (writeKey key.toList ++ ' ' :: '=' :: ' ' :: (w ++ '\n' :: rest)) =
        some (([], key, v.value), '\n' :: rest) := by
    unfold pair?
    rw [hpath]
    simp only [Option.bind_eq_bind, Option.bind_some, hspace, hvalue]
    rfl
  have htext : writeKey key.toList ++ [' ', '=', ' '] ++ w ++ ['\n'] ++ rest =
      writeKey key.toList ++ ' ' :: '=' :: ' ' :: (w ++ '\n' :: rest) := by simp
  rw [htext]
  obtain ⟨x, u, hu, hx⟩ := exists_head_writeKey key.toList
  rw [hu, List.cons_append] at hpair ⊢
  rw [statement?.eq_def]
  split
  · rename_i heq
    exact ((isSpace_of_starts_key hx).2.1 (List.cons.inj heq).1).elim
  · rename_i heq
    exact ((isSpace_of_starts_key hx).2.1 (List.cons.inj heq).1).elim
  · rw [hpair]
    rfl

theorem statement?_header (name : String) (rest : List Char) :
    statement? ('[' :: writeKey name.toList ++ [']', '\n'] ++ rest) =
      some (.header [] name, rest) := by
  have hpath : keyPath? (writeKey name.toList ++ ']' :: '\n' :: rest) =
      some ([], name, ']' :: '\n' :: rest) := by
    refine keyPath?_writeKey ?_ rfl (by decide)
    intro c hc
    obtain rfl := Option.some.inj hc
    decide
  have htext : '[' :: writeKey name.toList ++ [']', '\n'] ++ rest =
      '[' :: (writeKey name.toList ++ ']' :: '\n' :: rest) := by simp
  rw [htext]
  obtain ⟨x, u, hu, hx⟩ := exists_head_writeKey name.toList
  rw [hu, List.cons_append] at hpath ⊢
  rw [statement?.eq_def]
  split
  · rename_i heq
    exact ((isSpace_of_starts_key hx).2.1 (List.cons.inj (List.cons.inj heq).2).1).elim
  · rename_i heq
    rw [← (List.cons.inj heq).2, hpath]
    rfl
  · rename_i hne
    exact (hne _ rfl).elim

/-! ## Texts of several lines -/

/-- Whether the text is read as these statements, whatever follows it. -/
structure Reads (text : List Char) (statements : List Statement) : Prop where
  length : statements.length ≤ text.length
  eq : ∀ fuel rest, statements? (fuel + statements.length) (text ++ rest) =
    (statements? fuel rest).map (statements ++ ·)

theorem Reads.nil : Reads [] [] where
  length := Nat.le_refl 0
  eq fuel rest := by
    rw [List.length_nil, Nat.add_zero, List.nil_append]
    exact Option.map_id'.symm

theorem Reads.append {t u : List Char} {a b : List Statement} (ht : Reads t a) (hu : Reads u b) :
    Reads (t ++ u) (a ++ b) where
  length := by
    have hl := ht.length
    have hr := hu.length
    rw [List.length_append, List.length_append]
    omega
  eq fuel rest := by
    rw [List.length_append, Nat.add_comm a.length, ← Nat.add_assoc, List.append_assoc, ht.eq, hu.eq,
      Option.map_map]
    congr 1
    funext c
    exact (List.append_assoc a b c).symm

/-- An empty line says nothing. -/
theorem reads_newline : Reads ['\n'] [] where
  length := Nat.zero_le 1
  eq fuel rest := by
    have hblank : statements? fuel ('\n' :: rest) = statements? fuel rest := by
      cases fuel with
      | zero => rfl
      | succ fuel => rfl
    rw [List.length_nil, Nat.add_zero, List.singleton_append, hblank]
    exact Option.map_id'.symm

theorem StartsLine.skipBlanks? {t : List Char} (h : StartsLine t) : skipBlanks? false t = some t := by
  obtain ⟨c, u, rfl, hspace, hn, hr, hcomment⟩ := h
  rw [Toml.skipBlanks?.eq_def]
  split <;> simp_all

/-- A line that is read as a statement, whatever follows it. -/
theorem reads_line {t : List Char} {first : Statement} (hstarts : ∀ rest, StartsLine (t ++ rest))
    (h : ∀ rest, statement? (t ++ rest) = some (first, rest)) : Reads t [first] where
  length := by
    obtain ⟨c, u, hu, -⟩ := hstarts []
    rw [List.append_nil] at hu
    rw [hu]
    exact Nat.succ_le_succ (Nat.zero_le _)
  eq fuel rest := by
    have hskip := (hstarts rest).skipBlanks?
    obtain ⟨c, u, hu, -⟩ := hstarts rest
    rw [List.length_singleton, statements?, hskip, hu]
    simp only [Option.bind_eq_bind, Option.bind_some]
    rw [← hu, h rest, Option.bind_some]
    cases statements? fuel rest <;> rfl

theorem reads_pair {p : Pair} {t : List Char} (h : writePair p = some t) : Reads t [p.statement] := by
  refine reads_line (fun rest => ?_) (statement?_pair h)
  obtain ⟨v, -, rfl⟩ := Option.map_eq_some_iff.1 h
  simp only [List.append_assoc]
  exact startsLine_writeKey _ _

theorem reads_pairs {pairs : List Pair} {body : List Char} (h : writePairs pairs = some body) :
    Reads body (pairs.map Pair.statement) := by
  obtain ⟨lines, hlines, rfl⟩ := Option.map_eq_some_iff.1 h
  have hpairs := forall₂_of_mapM_eq_some hlines
  clear h hlines
  induction hpairs with
  | nil => exact .nil
  | cons hline _ ih => exact (reads_pair hline).append ih

/-- The statements that a written table makes. -/
def tableStatements (table : String × List Pair) : List Statement :=
  .header [] table.1 :: table.2.map Pair.statement

theorem reads_table {table : String × List Pair} {block : List Char}
    (h : writeTable table.1 table.2 = some block) : Reads block (tableStatements table) := by
  obtain ⟨body, hbody, rfl⟩ := Option.map_eq_some_iff.1 h
  have hheader : Reads ('[' :: writeKey table.1.toList ++ [']', '\n']) [.header [] table.1] :=
    reads_line (fun rest => ⟨'[', _, rfl, by decide⟩) (statement?_header table.1)
  exact hheader.append (reads_pairs hbody)

/-- Blocks are read one after the other, whether empty ones are left out and empty lines stand between
them or not. -/
theorem reads_blocks {blocks : List (List Char)} {parts : List (List Statement)}
    (h : List.Forall₂ Reads blocks parts) :
    Reads (['\n'].intercalate (blocks.filter (!·.isEmpty))) parts.flatten := by
  induction h with
  | nil => exact .nil
  | @cons block part blocks parts hblock h ih =>
    cases hempty : block.isEmpty with
    | true =>
      obtain rfl := List.isEmpty_iff.1 hempty
      obtain rfl := List.length_eq_zero_iff.1 (Nat.le_zero.1 hblock.length)
      exact ih
    | false =>
      rw [List.filter_cons_of_pos (by rw [hempty]; rfl)]
      cases hrest : blocks.filter (!·.isEmpty) with
      | nil =>
        rw [hrest] at ih
        rw [List.flatten_cons, List.intercalate_singleton]
        have hone := hblock.append ih
        rwa [List.intercalate_nil, List.append_nil] at hone
      | cons next more =>
        rw [hrest] at ih
        rw [List.flatten_cons, List.intercalate_cons_cons]
        have hmany := hblock.append (reads_newline.append ih)
        rwa [List.nil_append, ← List.append_assoc] at hmany

/-! ## Documents as statements -/

/-- The statements that a written document makes. -/
def Sheet.statements (s : Sheet) : List Statement :=
  s.pairs.map Pair.statement ++ s.tables.flatMap tableStatements

theorem Sheet.reads {s : Sheet} {text : String} (h : s.write = some text) :
    Reads text.toList s.statements := by
  obtain ⟨top, htop, h⟩ := Option.bind_eq_some_iff.1 h
  obtain ⟨blocks, hblocks, h⟩ := Option.bind_eq_some_iff.1 h
  obtain rfl := Option.some.inj h
  have htables : List.Forall₂ Reads blocks (s.tables.map tableStatements) :=
    List.forall₂_map_right_iff.2 ((forall₂_of_mapM_eq_some hblocks).imp fun _ _ => reads_table).flip
  have hread := reads_blocks (.cons (reads_pairs htop) htables)
  rw [List.flatten_cons, ← List.flatMap_def] at hread
  unfold writeBlocks Sheet.statements
  rwa [String.toList_ofList]

/-- No text that starts with a byte order mark is read, so none is taken from a text that is. -/
theorem skipMark_of_statements? {fuel : Nat} {s : List Char} {l : List Statement}
    (h : statements? fuel s = some l) : skipMark s = s := by
  unfold skipMark
  split
  · cases fuel with
    | zero => cases h
    | succ fuel => cases h
  · rfl

theorem Sheet.statements?_write {s : Sheet} {text : String} (h : s.write = some text) :
    skipMark text.toList = text.toList ∧
      statements? (text.toList.length + 1) text.toList = some s.statements := by
  have hreads := Sheet.reads h
  have hfuel : text.toList.length - s.statements.length + 1 + s.statements.length =
      text.toList.length + 1 := by
    have := hreads.length
    omega
  have hread := hreads.eq (text.toList.length - s.statements.length + 1) []
  rw [hfuel, List.append_nil] at hread
  have hall : statements? (text.toList.length + 1) text.toList = some s.statements := by
    rw [hread, statements?]
    simp [Toml.skipBlanks?]
  exact ⟨skipMark_of_statements? hall, hall⟩

/-! ## Tables -/

theorem get?_eq_none {es : Entries} {key : String} (h : key ∉ es.map Prod.fst) :
    Entries.get? es key = none := by
  unfold Entries.get?
  rw [List.lookup_eq_none_iff]
  intro e he
  rw [bne_iff_ne]
  rintro rfl
  exact h (List.mem_map_of_mem he)

/-- The nodes of values under keys without dots. -/
def leaves (pairs : List Pair) : Entries := pairs.map fun p => (p.1, .leaf p.2.value)

theorem fst_leaves (pairs : List Pair) : (leaves pairs).map Prod.fst = pairs.map Prod.fst := by
  unfold leaves
  rw [List.map_map]
  rfl

theorem addPair_of_new {es : Entries} {key : String} (h : key ∉ es.map Prod.fst) (v : Value) :
    Entries.addPair es [] key v = some (es ++ [(key, .leaf v)]) := by
  unfold Entries.addPair Entries.descend
  rw [get?_eq_none h]
  rfl

namespace Draft

/-- New keys come behind those of the open table. -/
theorem foldlM_pairs (d : Draft) (pairs : List Pair)
    (h : (d.current.map Prod.fst ++ pairs.map Prod.fst).Nodup) :
    (pairs.map Pair.statement).foldlM step d =
      some { d with current := d.current ++ leaves pairs } := by
  induction pairs generalizing d with
  | nil =>
    unfold leaves
    rw [List.map_nil, List.map_nil, List.append_nil]
    rfl
  | cons p pairs ih =>
    have hnew : p.1 ∉ d.current.map Prod.fst := fun hmem =>
      List.disjoint_of_nodup_append h hmem List.mem_cons_self
    have hstep : d.step p.statement =
        some { d with current := d.current ++ [(p.1, .leaf p.2.value)] } := by
      unfold step Pair.statement
      dsimp only
      rw [addPair_of_new hnew]
      rfl
    rw [List.map_cons, List.foldlM_cons, hstep]
    refine (ih _ ?_).trans ?_
    · simpa using h
    · simp [leaves]

/-- The node of a table with a header of its own. -/
def tableNode (table : String × List Pair) : String × Node :=
  (table.1, .table false false (leaves table.2))

/-- The tables of a document come behind what it holds before them. -/
theorem foldlM_tables {d : Draft} {es : Entries} (hd : d.close = some es)
    {tables : List (String × List Pair)} (h : (es.map Prod.fst ++ tables.map Prod.fst).Nodup)
    (hkeys : ∀ table ∈ tables, (table.2.map Prod.fst).Nodup) :
    ((tables.flatMap tableStatements).foldlM step d).bind close =
      some (es ++ tables.map tableNode) := by
  induction tables generalizing d es with
  | nil =>
    rw [List.map_nil, List.append_nil]
    exact hd
  | cons table tables ih =>
    obtain ⟨name, pairs⟩ := table
    obtain ⟨hpairs, hkeys⟩ := List.forall_mem_cons.1 hkeys
    have hnew : name ∉ es.map Prod.fst := fun hmem =>
      List.disjoint_of_nodup_append h hmem List.mem_cons_self
    have hopen : d.step (.header [] name) = some ⟨es, some (false, [], name), []⟩ := by
      unfold step openTable Entries.descend
      dsimp only
      rw [hd, Option.bind_some, get?_eq_none hnew]
      rfl
    have hfill := foldlM_pairs ⟨es, some (false, [], name), []⟩ pairs hpairs
    have hclose : close ⟨es, some (false, [], name), leaves pairs⟩ =
        some (es ++ [tableNode (name, pairs)]) := by
      unfold close Entries.descend
      dsimp only
      rw [get?_eq_none hnew]
      rfl
    have htable : (tableStatements (name, pairs)).foldlM step d =
        some ⟨es, some (false, [], name), leaves pairs⟩ := by
      unfold tableStatements
      rw [List.foldlM_cons, hopen]
      exact hfill
    rw [List.flatMap_cons, List.foldlM_append, htable]
    refine (ih hclose ?_ hkeys).trans ?_
    · simpa [tableNode] using h
    · rw [List.map_cons, List.append_assoc, List.singleton_append]

end Draft

/-- Whether no key of the top level and no key of a table stands twice. -/
structure Sheet.Distinct (s : Sheet) : Prop where
  names : (s.pairs.map Prod.fst ++ s.tables.map Prod.fst).Nodup
  keys : ∀ table ∈ s.tables, (table.2.map Prod.fst).Nodup

/-- What a reader finds in the place of pairs. -/
def pairEntries (pairs : List Pair) : List (String × Value) := pairs.map fun p => (p.1, p.2.value)

/-- What a reader finds in a document. -/
def Sheet.entries (s : Sheet) : List (String × Value) :=
  pairEntries s.pairs ++ s.tables.map fun table => (table.1, .table (pairEntries table.2))

theorem entriesToValues_eq_map (es : Entries) :
    entriesToValues es = es.map fun e => (e.1, e.2.toValue) := by
  induction es with
  | nil => rfl
  | cons e es ih =>
    obtain ⟨key, n⟩ := e
    rw [entriesToValues, ih, List.map_cons]

theorem entriesToValues_leaves (pairs : List Pair) :
    entriesToValues (leaves pairs) = pairEntries pairs := by
  rw [entriesToValues_eq_map, leaves, List.map_map]
  refine List.map_congr_left fun p _ => ?_
  simp [Node.toValue]

theorem Sheet.Distinct.documentTable_eq {s : Sheet} (h : s.Distinct) :
    documentTable s.statements = some s.entries := by
  have htop := Draft.foldlM_pairs Draft.empty s.pairs
    (List.Nodup.sublist (List.sublist_append_left _ _) h.names)
  have hclose : Draft.close { Draft.empty with current := Draft.empty.current ++ leaves s.pairs } =
      some (leaves s.pairs) := rfl
  have hnames := h.names
  rw [← fst_leaves] at hnames
  have hall := Draft.foldlM_tables hclose hnames h.keys
  have hentries : entriesToValues (leaves s.pairs ++ s.tables.map Draft.tableNode) = s.entries := by
    rw [entriesToValues_eq_map, List.map_append, ← entriesToValues_eq_map, entriesToValues_leaves,
      List.map_map]
    unfold Sheet.entries
    congr 1
    refine List.map_congr_left fun table _ => ?_
    simp [Draft.tableNode, Node.toValue, entriesToValues_leaves]
  unfold documentTable Sheet.statements
  rw [List.foldlM_append, htop]
  cases hfold : (s.tables.flatMap tableStatements).foldlM Draft.step
      { Draft.empty with current := Draft.empty.current ++ leaves s.pairs } with
  | none =>
    rw [hfold] at hall
    cases hall
  | some d =>
    rw [hfold, Option.bind_some] at hall
    simp only [Option.bind_eq_bind, Option.bind_some, Option.pure_def, hfold, hall, hentries]

/-- A document whose keys are distinct is read back from its text. -/
theorem parse?_write {s : Sheet} {text : String} (h : s.write = some text) (hs : s.Distinct) :
    parse? text = some s.entries := by
  obtain ⟨hmark, hread⟩ := Sheet.statements?_write h
  unfold parse?
  dsimp only
  rw [hmark, hread, Option.bind_some, hs.documentTable_eq]

end BenchSweep.Toml
