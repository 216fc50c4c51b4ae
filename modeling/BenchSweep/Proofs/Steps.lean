import Mathlib.Data.List.Forall2

/-! Lists of steps that may fail. They succeed together exactly if each of them does, and fail with
the failure of one of them. -/
set_option autoImplicit false

namespace BenchSweep

variable {ε α β : Type}

/-! ## Lists in step -/

section Pairs

variable {R : α → β → Prop}

theorem exists_forall₂ {l : List α} (h : ∀ a ∈ l, ∃ b, R a b) :
    ∃ bs, List.Forall₂ R l bs := by
  induction l with
  | nil => exact ⟨[], .nil⟩
  | cons a rest ih =>
    obtain ⟨⟨b, hb⟩, hrest⟩ := List.forall_mem_cons.1 h
    obtain ⟨bs, hbs⟩ := ih hrest
    exact ⟨b :: bs, .cons hb hbs⟩

theorem exists_getElem?_of_forall₂ {l : List α} {bs : List β} (h : List.Forall₂ R l bs) {i : Nat}
    {a : α} (ha : l[i]? = some a) : ∃ b, bs[i]? = some b ∧ R a b := by
  obtain ⟨hlength, hR⟩ := List.forall₂_iff_get.1 h
  obtain ⟨hi, rfl⟩ := List.getElem?_eq_some_iff.1 ha
  exact ⟨bs[i], List.getElem?_eq_getElem (hlength ▸ hi), hR i hi (hlength ▸ hi)⟩

theorem exists_of_mem_of_forall₂ {l : List α} {bs : List β} (h : List.Forall₂ R l bs) {b : β}
    (hb : b ∈ bs) : ∃ a ∈ l, R a b := by
  obtain ⟨i, hi⟩ := List.mem_iff_getElem?.1 hb
  obtain ⟨a, ha, hR⟩ := exists_getElem?_of_forall₂ h.flip hi
  exact ⟨a, List.mem_of_getElem? ha, hR⟩

end Pairs

/-! ## Steps with failures -/

theorem exists_map_ok_iff {x : Except ε α} {f : α → β} :
    (∃ b, x.map f = .ok b) ↔ ∃ a, x = .ok a := by
  cases x with
  | error e => simp [Except.map]
  | ok a => simp [Except.map]

theorem map_eq_ok_iff {x : Except ε α} {f : α → β} {b : β} :
    x.map f = .ok b ↔ ∃ a, x = .ok a ∧ f a = b := by
  cases x with
  | error e => simp [Except.map]
  | ok a => simp [Except.map]

theorem map_eq_error_iff {x : Except ε α} {f : α → β} {e : ε} :
    x.map f = .error e ↔ x = .error e := by
  cases x <;> simp [Except.map]

theorem mapError_eq_ok_iff {ε' : Type} {x : Except ε α} {f : ε → ε'} {a : α} :
    x.mapError f = .ok a ↔ x = .ok a := by
  cases x <;> simp [Except.mapError]

theorem exists_of_bind_eq_ok {x : Except ε α} {next : α → Except ε β} {b : β}
    (h : (x >>= next) = .ok b) : ∃ a, x = .ok a ∧ next a = .ok b := by
  cases x with
  | error e => cases h
  | ok a => exact ⟨a, rfl, h⟩

theorem exists_of_bind_eq_error {x : Except ε α} {next : α → Except ε β} {e : ε}
    (h : (x >>= next) = .error e) : x = .error e ∨ ∃ a, x = .ok a ∧ next a = .error e := by
  cases x with
  | error e' =>
    cases h
    exact .inl rfl
  | ok a => exact .inr ⟨a, rfl, h⟩

theorem eq_ok_of_toOption_eq_some {x : Except ε α} {a : α} (h : x.toOption = some a) : x = .ok a := by
  cases x with
  | error e => cases h
  | ok b => exact congrArg Except.ok (Option.some.inj h)

theorem mapM_eq_ok_map {f : α → Except ε β} {g : α → β} {l : List α}
    (h : ∀ a ∈ l, f a = .ok (g a)) : l.mapM f = .ok (l.map g) := by
  induction l with
  | nil => rfl
  | cons a l ih =>
    rw [List.mapM_cons, h a List.mem_cons_self, ih fun b hb => h b (List.mem_cons_of_mem a hb)]
    rfl

/-- Steps that succeed together answer one by one. -/
theorem forall₂_of_mapM_eq_ok {f : α → Except ε β} {l : List α} {r : List β}
    (h : l.mapM f = .ok r) : List.Forall₂ (fun a b => f a = .ok b) l r := by
  induction l generalizing r with
  | nil =>
    cases h
    exact .nil
  | cons a l ih =>
    rw [List.mapM_cons] at h
    obtain ⟨b, hb, h⟩ := exists_of_bind_eq_ok h
    obtain ⟨bs, hbs, h⟩ := exists_of_bind_eq_ok h
    cases h
    exact .cons hb (ih hbs)

theorem mapM_eq_ok_iff {f : α → Except ε β} {l : List α} {r : List β} :
    l.mapM f = .ok r ↔ List.Forall₂ (fun a b => f a = .ok b) l r := by
  refine ⟨forall₂_of_mapM_eq_ok, fun h => ?_⟩
  induction h with
  | nil => rfl
  | cons ha _ ih =>
    rw [List.mapM_cons, ha, ih]
    rfl

/-- Steps that can only answer as `g` does answer together as `g` does. -/
theorem eq_map_of_mapM_eq_ok {f : α → Except ε β} {g : α → β} {l : List α} {r : List β}
    (hf : ∀ a b, f a = .ok b → b = g a) (h : l.mapM f = .ok r) : r = l.map g := by
  have hall : List.Forall₂ (· = ·) (l.map g) r :=
    List.forall₂_map_left_iff.2 ((forall₂_of_mapM_eq_ok h).imp fun a b hb => (hf a b hb).symm)
  rw [List.forall₂_eq_eq_eq] at hall
  exact hall.symm

/-- Of steps that fail together the first that fails gives the failure. -/
theorem mapM_eq_error_iff {f : α → Except ε β} {l : List α} {e : ε} :
    l.mapM f = .error e ↔ ∃ before a after, l = before ++ a :: after ∧
      (∀ b ∈ before, ∃ r, f b = .ok r) ∧ f a = .error e := by
  constructor
  · intro h
    induction l with
    | nil => cases h
    | cons a l ih =>
      rw [List.mapM_cons] at h
      rcases exists_of_bind_eq_error h with ha | ⟨b, hb, h⟩
      · exact ⟨[], a, l, rfl, fun _ hm => (List.not_mem_nil hm).elim, ha⟩
      · rcases exists_of_bind_eq_error h with hl | ⟨bs, -, h⟩
        · obtain ⟨before, a', after, rfl, hbefore, ha'⟩ := ih hl
          exact ⟨a :: before, a', after, rfl, List.forall_mem_cons.2 ⟨⟨b, hb⟩, hbefore⟩, ha'⟩
        · cases h
  · rintro ⟨before, a, after, rfl, hbefore, ha⟩
    obtain ⟨r, hr⟩ := exists_forall₂ hbefore
    rw [List.mapM_append, mapM_eq_ok_iff.2 hr, List.mapM_cons, ha]
    rfl

theorem exists_of_mapM_eq_error {f : α → Except ε β} {l : List α} {e : ε}
    (h : l.mapM f = .error e) : ∃ a ∈ l, f a = .error e := by
  obtain ⟨before, a, after, rfl, -, ha⟩ := mapM_eq_error_iff.1 h
  exact ⟨a, List.mem_append_cons_self, ha⟩

theorem exists_mapM_ok_iff {f : α → Except ε β} {l : List α} :
    (∃ r, l.mapM f = .ok r) ↔ ∀ a ∈ l, ∃ b, f a = .ok b := by
  constructor
  · rintro ⟨r, hr⟩ a ha
    obtain ⟨b, -, hb⟩ := exists_of_mem_of_forall₂ (forall₂_of_mapM_eq_ok hr).flip ha
    exact ⟨b, hb⟩
  · intro h
    cases hr : l.mapM f with
    | ok r => exact ⟨r, rfl⟩
    | error e =>
      obtain ⟨a, hm, ha⟩ := exists_of_mapM_eq_error hr
      obtain ⟨b, hb⟩ := h a hm
      rw [ha] at hb
      cases hb

/-- The first of numbered steps that fails gives the failure. -/
theorem mapM_zipIdx_eq_error_iff {f : α × Nat → Except ε β} {l : List α} {k : Nat} {e : ε} :
    (l.zipIdx k).mapM f = .error e ↔ ∃ before a after, l = before ++ a :: after ∧
      (∀ p ∈ before.zipIdx k, ∃ r, f p = .ok r) ∧ f (a, k + before.length) = .error e := by
  rw [mapM_eq_error_iff]
  constructor
  · rintro ⟨_, p, _, hl, hbefore, hp⟩
    obtain ⟨before, rest, rfl, rfl, hrest⟩ := List.zipIdx_eq_append_iff.1 hl
    obtain ⟨a, after, rfl, rfl, rfl⟩ := List.zipIdx_eq_cons_iff.1 hrest.symm
    exact ⟨before, a, after, rfl, hbefore, hp⟩
  · rintro ⟨before, a, after, rfl, hbefore, ha⟩
    refine ⟨before.zipIdx k, (a, k + before.length), after.zipIdx (k + before.length + 1), ?_,
      hbefore, ha⟩
    rw [List.zipIdx_append, List.zipIdx_cons]

/-- Steps that succeed under any number succeed under theirs. -/
theorem forall_mem_zipIdx_iff {p : α → Prop} {l : List α} {k : Nat} :
    (∀ x ∈ l.zipIdx k, p x.1) ↔ ∀ a ∈ l, p a := by
  have hmap := List.zipIdx_map_fst k l
  constructor
  · intro h a ha
    rw [← hmap] at ha
    obtain ⟨x, hx, rfl⟩ := List.mem_map.1 ha
    exact h x hx
  · intro h x hx
    exact h x.1 (List.fst_mem_of_mem_zipIdx hx)

/-! ## Steps without a reason -/

theorem isSome_mapM_iff {f : α → Option β} {l : List α} :
    (l.mapM f).isSome = true ↔ ∀ a ∈ l, (f a).isSome = true := by
  induction l with
  | nil => simp
  | cons a l ih =>
    rw [List.mapM_cons, List.forall_mem_cons, ← ih]
    cases f a with
    | none => simp
    | some b => cases l.mapM f <;> simp

theorem mapM_eq_some_map {f : α → Option β} {g : α → β} {l : List α}
    (h : ∀ a ∈ l, f a = some (g a)) : l.mapM f = some (l.map g) := by
  induction l with
  | nil => rfl
  | cons a l ih =>
    rw [List.mapM_cons, h a List.mem_cons_self, ih fun b hb => h b (List.mem_cons_of_mem a hb)]
    rfl

theorem forall₂_of_mapM_eq_some {f : α → Option β} {l : List α} {r : List β}
    (h : l.mapM f = some r) : List.Forall₂ (fun a b => f a = some b) l r := by
  induction l generalizing r with
  | nil =>
    obtain rfl := Option.some.inj h
    exact .nil
  | cons a l ih =>
    rw [List.mapM_cons] at h
    obtain ⟨b, hb, h⟩ := Option.bind_eq_some_iff.1 h
    obtain ⟨bs, hbs, h⟩ := Option.bind_eq_some_iff.1 h
    obtain rfl := Option.some.inj h
    exact .cons hb (ih hbs)

end BenchSweep
