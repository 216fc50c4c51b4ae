import BenchSweep.Files
import BenchSweep.Proofs.Path
import BenchSweep.Proofs.Text.Utf8

/-! What operations on files leave as it was. Without links a path names one place, whatever stands
there; making directories changes only places where nothing stood, and a write changes the place of
its path alone. -/
set_option autoImplicit false

namespace BenchSweep

namespace OrderedMap

variable {κ α : Type} [DecidableEq κ]

theorem put_put (key : κ) (a b : α) (es : List (κ × α)) :
    put key b (put key a es) = put key b es := by
  induction es with
  | nil => simp [put]
  | cons e rest ih =>
    obtain ⟨n, v⟩ := e
    by_cases h : n = key
    · simp [put, h]
    · simp [put, h, ih]

theorem insert_insert (m : OrderedMap κ α) (key : κ) (a b : α) :
    (m.insert key a).insert key b = m.insert key b :=
  ext (put_put key a b m.entries)

end OrderedMap

/-! ## Places -/

namespace Location

/-- Where a part leads from a place. -/
def step (place : Location) (part : String) : Location :=
  if part = "." then place else if part = ".." then place.dropLast else place ++ [part]

/-- Where parts lead from a place. -/
def walk (place : Location) (parts : List String) : Location := parts.foldl step place

theorem walk_append (place : Location) (ps qs : List String) :
    place.walk (ps ++ qs) = (place.walk ps).walk qs := List.foldl_append

theorem step_name {part : String} (h : part ≠ "." ∧ part ≠ "..") (place : Location) :
    place.step part = place ++ [part] := by
  simp [step, h.1, h.2]

/-- Parts that never lead upwards lead to a place below or to the place itself. -/
theorem isPrefix_walk {parts : List String} (h : ".." ∉ parts) (place : Location) :
    place <+: place.walk parts := by
  induction parts generalizing place with
  | nil => exact List.prefix_rfl
  | cons part rest ih =>
    have hs : place <+: place.step part := by
      have hp : part ≠ ".." := fun e => h (e ▸ List.mem_cons_self)
      unfold step
      rw [if_neg hp]
      split
      · exact List.prefix_rfl
      · exact List.prefix_append _ _
    exact hs.trans (ih (fun hm => h (List.mem_cons_of_mem part hm)) _)

end Location

namespace Files

/-- The place that a path names. -/
def place (fs : Files) (p : Path) : Location := (fs.start p).walk p.parts

/-- Of all that the files are, only the working directory decides where a path leads. -/
theorem place_congr {fs fs' : Files} (h : fs'.here = fs.here) (p : Path) :
    fs'.place p = fs.place p := by
  unfold place start
  rw [h]

theorem place_child (fs : Files) (p : Path) {name : String} (h : Path.IsPart name)
    (hn : name ≠ "." ∧ name ≠ "..") : fs.place (p.child name) = fs.place p ++ [name] := by
  have hs : fs.start (p.child name) = fs.start p := by
    unfold start
    rw [Path.isRooted_child p h]
  unfold place
  rw [hs, Path.parts_child p h, Location.walk_append]
  exact Location.step_name hn _

/-- On a way that never leads upwards every place is one above its end. -/
theorem walk_take_isPrefix (fs : Files) {p : Path} (h : ".." ∉ p.parts) (k : Nat) :
    (fs.start p).walk (p.parts.take k) <+: fs.place p := by
  have hrest : ".." ∉ p.parts.drop k := fun hm => h (List.mem_of_mem_drop hm)
  have hbelow := Location.isPrefix_walk hrest ((fs.start p).walk (p.parts.take k))
  rwa [← Location.walk_append, List.take_append_drop] at hbelow

theorem enter_eq_ok {fs : Files} {place next : Location} {part : String}
    (h : fs.enter place part = .ok next) :
    fs.node? place = some .directory ∧ next = place.step part := by
  unfold enter at h
  split at h
  · cases h
  · rename_i hd
    refine ⟨hd, ?_⟩
    unfold Location.step
    repeat' split at h
    all_goals simp_all
  · cases h

theorem foldlM_enter_eq_ok {fs : Files} {parts : List String} {place last : Location}
    (h : parts.foldlM fs.enter place = .ok last) : last = place.walk parts := by
  induction parts generalizing place with
  | nil =>
    cases h
    rfl
  | cons part rest ih =>
    rw [List.foldlM_cons] at h
    cases he : fs.enter place part with
    | error fault =>
      rw [he] at h
      cases h
    | ok next =>
      rw [he] at h
      rw [ih h, (enter_eq_ok he).2]
      rfl

theorem place_of_locate {fs : Files} {p : Path} {l : Location} (h : fs.locate p = .ok l) :
    l = fs.place p := by
  unfold locate at h
  split at h
  · cases h
  · exact foldlM_enter_eq_ok h

/-! ## Making directories -/

theorem ne_nil_of_absent {fs : Files} {l : Location} (h : fs.node? l = none) : l ≠ [] := by
  rintro rfl
  simp [node?] at h

/-- Directories made along a path stand where nothing stood, at places that the path leads
through. -/
theorem node?_makeDirectoriesFrom (parts : List String) (place : Location) (fs : Files)
    (l : Location) :
    (makeDirectoriesFrom parts place fs).1.node? l = fs.node? l ∨
      fs.node? l = none ∧ (makeDirectoriesFrom parts place fs).1.node? l = some .directory ∧
        ∃ k, l = place.walk (parts.take k) := by
  induction parts generalizing place fs with
  | nil => exact .inl rfl
  | cons part rest ih =>
    have later : ∀ {next}, next = place.step part →
        (∃ k, l = next.walk (rest.take k)) → ∃ k, l = place.walk ((part :: rest).take k) := by
      rintro next rfl ⟨k, hk⟩
      exact ⟨k + 1, hk⟩
    unfold makeDirectoriesFrom
    cases he : fs.enter place part with
    | error fault => exact .inl rfl
    | ok next =>
      have hnext := (enter_eq_ok he).2
      dsimp only
      split
      · exact (ih next fs).imp_right fun ⟨h0, h1, h2⟩ => ⟨h0, h1, later hnext h2⟩
      · exact .inl rfl
      · rename_i hnone
        rcases ih next (fs.put next .directory) with h | ⟨h0, h1, h2⟩
        · by_cases hl : l = next
          · refine .inr ⟨hl ▸ hnone, ?_, 1, ?_⟩
            · rw [h, hl, node?_put_self fs next .directory (ne_nil_of_absent hnone)]
            · rw [hl, hnext]
              rfl
          · rw [h, node?_put fs next l .directory hl]
            exact .inl rfl
        · by_cases hl : l = next
          · rw [hl, node?_put_self fs next .directory (ne_nil_of_absent hnone)] at h0
            cases h0
          · rw [node?_put fs next l .directory hl] at h0
            exact .inr ⟨h0, h1, later hnext h2⟩

theorem here_makeDirectoriesFrom (parts : List String) (place : Location) (fs : Files) :
    (makeDirectoriesFrom parts place fs).1.here = fs.here := by
  induction parts generalizing place fs with
  | nil => rfl
  | cons part rest ih =>
    unfold makeDirectoriesFrom
    cases fs.enter place part with
    | error fault => rfl
    | ok next =>
      dsimp only
      split
      · exact ih next fs
      · rfl
      · exact ih next (fs.put next .directory)

theorem here_makeDirectories (fs : Files) (p : Path) : (fs.makeDirectories p).1.here = fs.here := by
  unfold makeDirectories
  split
  · split <;> rfl
  · exact here_makeDirectoriesFrom _ _ _

theorem node?_makeDirectories (fs : Files) (p : Path) (l : Location) :
    (fs.makeDirectories p).1.node? l = fs.node? l ∨
      fs.node? l = none ∧ (fs.makeDirectories p).1.node? l = some .directory ∧
        ∃ k, l = (fs.start p).walk (p.parts.take k) := by
  unfold makeDirectories
  split
  · split <;> exact .inl rfl
  · exact node?_makeDirectoriesFrom _ _ _ l

/-! ## Writing -/

/-- Whether a file can stand where this stands. -/
def Free (node : Option Node) : Prop := node = none ∨ ∃ content, node = some (.file content)

theorem Free.ne_directory {node : Option Node} (h : Free node) : node ≠ some .directory := by
  rintro rfl
  rcases h with h | ⟨content, h⟩ <;> cases h

theorem writable_eq_ok_iff {fs : Files} {p : Path} {l : Location} :
    fs.writable p = .ok l ↔
      fs.locate p = .ok l ∧ p.endsWithSlash = false ∧ Free (fs.node? l) := by
  unfold writable
  cases fs.locate p with
  | error fault => simp [bind, Except.bind]
  | ok l' =>
    cases p.endsWithSlash with
    | true => simp [bind, Except.bind]
    | false =>
      simp only [bind, Except.bind, Bool.false_eq_true, if_false, Except.ok.injEq, true_and, Free]
      constructor
      · intro h
        split at h
        · cases h
        · cases h
        · rename_i hd hp
          cases h
          refine ⟨rfl, ?_⟩
          rcases hn : fs.node? l with _ | (_ | content | name)
          · exact .inl rfl
          · exact (hd hn).elim
          · exact .inr ⟨content, rfl⟩
          · exact (hp name hn).elim
      · rintro ⟨rfl, hn | ⟨content, hn⟩⟩ <;> rw [hn]

theorem write_eq_ok_iff {fs fs' : Files} {p : Path} {content : List UInt8} :
    fs.write p content = .ok fs' ↔
      ∃ l, fs.writable p = .ok l ∧ fs' = fs.put l (.file content) := by
  unfold write
  cases fs.writable p with
  | error fault => simp [Except.map]
  | ok l => simp [Except.map, eq_comm]

theorem ne_nil_of_free {fs : Files} {l : Location} (h : Free (fs.node? l)) : l ≠ [] := by
  rintro rfl
  exact h.ne_directory rfl

/-! ### Looking up after a write -/

/-- Paths are looked up through directories, so a change that keeps the directories keeps what paths
lead to. -/
theorem foldlM_enter_mono {fs fs' : Files}
    (h : ∀ l, fs.node? l = some .directory → fs'.node? l = some .directory) {parts : List String}
    {place last : Location} (hl : parts.foldlM fs.enter place = .ok last) :
    parts.foldlM fs'.enter place = .ok last := by
  induction parts generalizing place with
  | nil => exact hl
  | cons part rest ih =>
    rw [List.foldlM_cons] at hl ⊢
    cases he : fs.enter place part with
    | error fault =>
      rw [he] at hl
      cases hl
    | ok next =>
      have he' : fs'.enter place part = .ok next := by
        have hd := (enter_eq_ok he).1
        unfold enter at he ⊢
        rw [h place hd]
        rw [hd] at he
        exact he
      rw [he] at hl
      rw [he']
      exact ih hl

theorem locate_mono {fs fs' : Files}
    (h : ∀ l, fs.node? l = some .directory → fs'.node? l = some .directory)
    (hh : fs'.here = fs.here) {p : Path} {l : Location} (hl : fs.locate p = .ok l) :
    fs'.locate p = .ok l := by
  unfold locate at hl ⊢
  split at hl
  · cases hl
  · have hs : fs'.start p = fs.start p := by
      unfold start
      rw [hh]
    rw [hs]
    exact foldlM_enter_mono h hl

theorem directory_put_file {fs : Files} {l : Location} (hf : Free (fs.node? l))
    (content : List UInt8) (l' : Location) (hd : fs.node? l' = some .directory) :
    (fs.put l (.file content)).node? l' = some .directory := by
  have hne : l' ≠ l := fun e => hf.ne_directory (e ▸ hd)
  rw [node?_put fs l l' _ hne, hd]

theorem writable_put {fs : Files} {p : Path} {l : Location} (h : fs.writable p = .ok l)
    (content : List UInt8) : (fs.put l (.file content)).writable p = .ok l := by
  obtain ⟨hl, hs, hf⟩ := writable_eq_ok_iff.1 h
  refine writable_eq_ok_iff.2 ⟨locate_mono (directory_put_file hf content) rfl hl, hs, ?_⟩
  exact .inr ⟨content, node?_put_self fs l _ (ne_nil_of_free hf)⟩

/-- A file that was written is what its path leads to. -/
theorem look_put {fs : Files} {p : Path} {l : Location} (h : fs.writable p = .ok l)
    (content : List UInt8) : (fs.put l (.file content)).look p = .ok (.file content) := by
  obtain ⟨hl, hs, hf⟩ := writable_eq_ok_iff.1 (writable_put h content)
  have hn := node?_put_self fs l (.file content)
    (ne_nil_of_free (writable_eq_ok_iff.1 h).2.2)
  unfold look find
  rw [hl]
  simp [bind, Except.bind, hn, hs, Except.map]

/-- A text that was written is read back. -/
theorem readText_put {fs : Files} {p : Path} {l : Location} (h : fs.writable p = .ok l) (s : String) :
    (fs.put l (.file (Text.Utf8.bytes s))).readText p = .ok s := by
  unfold readText
  rw [look_put h]
  simp [Except.bind, Node.text, Node.bytes, bind, Text.Utf8.decode?_bytes]

/-! ### Writing twice -/

theorem put_put (fs : Files) (l : Location) (n m : Node) : (fs.put l n).put l m = fs.put l m := by
  unfold put
  rw [OrderedMap.insert_insert]

/-- The second of two writes to one path is the one that counts. -/
theorem write_write {fs fs' : Files} {p : Path} {content : List UInt8}
    (h : fs.write p content = .ok fs') (content' : List UInt8) :
    fs'.write p content' = fs.write p content' := by
  obtain ⟨l, hl, rfl⟩ := write_eq_ok_iff.1 h
  unfold write
  rw [writable_put hl, hl]
  exact congrArg Except.ok (put_put fs l _ _)

/-! ### Files that differ in contents -/

/-- A node without its content. -/
def Node.shape : Node → Node
  | .file _ => .file []
  | node => node

/-- Files with nodes of the same kinds at the same places. -/
def Alike (fs fs' : Files) : Prop :=
  fs'.here = fs.here ∧ ∀ l, (fs'.node? l).map Node.shape = (fs.node? l).map Node.shape

theorem Alike.rfl {fs : Files} : Alike fs fs := ⟨Eq.refl _, fun _ => Eq.refl _⟩

theorem alike_put (fs : Files) (l : Location) (content content' : List UInt8) :
    Alike (fs.put l (.file content)) (fs.put l (.file content')) := by
  refine ⟨rfl, fun l' => ?_⟩
  by_cases hl : l' = l
  · by_cases hn : l = []
    · rw [hl, hn]
      rfl
    · rw [hl, node?_put_self fs l _ hn, node?_put_self fs l _ hn]
      rfl
  · rw [node?_put fs l l' _ hl, node?_put fs l l' _ hl]

/-- Looking up sees no contents. -/
theorem Alike.enter_eq {fs fs' : Files} (h : Alike fs fs') (place : Location) (part : String) :
    fs'.enter place part = fs.enter place part := by
  have hn := h.2 place
  unfold enter
  rcases hx : fs.node? place with _ | (_ | content | name) <;>
    rcases hy : fs'.node? place with _ | (_ | content' | name') <;>
    simp_all [Node.shape]

theorem Alike.locate_eq {fs fs' : Files} (h : Alike fs fs') (p : Path) :
    fs'.locate p = fs.locate p := by
  have he : fs'.enter = fs.enter := by
    funext place part
    exact h.enter_eq place part
  unfold locate start
  rw [he, h.1]

theorem Alike.writable_eq {fs fs' : Files} (h : Alike fs fs') (p : Path) :
    fs'.writable p = fs.writable p := by
  unfold writable
  rw [h.locate_eq]
  cases fs.locate p with
  | error fault => rfl
  | ok place =>
    have hn := h.2 place
    rcases hx : fs.node? place with _ | (_ | content | name) <;>
      rcases hy : fs'.node? place with _ | (_ | content' | name') <;>
      simp_all [Node.shape, bind, Except.bind]

end Files

end BenchSweep
