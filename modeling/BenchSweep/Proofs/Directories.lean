import BenchSweep.Proofs.Files

/-! Directories that are made a second time. What was made once is found, so making it again changes
nothing, and a directory more is made below it alone. A change below a place keeps what stands
elsewhere and keeps all directories, so it keeps what paths through other places lead to. -/
set_option autoImplicit false

namespace BenchSweep.Files

/-! ## Ways through directories -/

/-- Whether parts lead from a place through directories to a directory. -/
def Leads (fs : Files) (place : Location) (parts : List String) : Prop :=
  parts.foldlM fs.enter place = .ok (place.walk parts) ∧
    fs.node? (place.walk parts) = some .directory

theorem leads_nil_iff {fs : Files} {place : Location} :
    fs.Leads place [] ↔ fs.node? place = some .directory :=
  ⟨fun h => h.2, fun h => ⟨rfl, h⟩⟩

theorem leads_cons_iff {fs : Files} {place : Location} {part : String} {rest : List String} :
    fs.Leads place (part :: rest) ↔
      fs.enter place part = .ok (place.step part) ∧ fs.Leads (place.step part) rest := by
  unfold Leads
  rw [List.foldlM_cons]
  constructor
  · rintro ⟨hwalk, hnode⟩
    cases he : fs.enter place part with
    | error fault =>
      rw [he] at hwalk
      cases hwalk
    | ok next =>
      obtain ⟨-, rfl⟩ := enter_eq_ok he
      rw [he] at hwalk
      exact ⟨rfl, hwalk, hnode⟩
  · rintro ⟨he, hwalk, hnode⟩
    rw [he]
    exact ⟨hwalk, hnode⟩

theorem Leads.mono {fs fs' : Files}
    (h : ∀ l, fs.node? l = some .directory → fs'.node? l = some .directory) {place : Location}
    {parts : List String} (hl : fs.Leads place parts) : fs'.Leads place parts :=
  ⟨foldlM_enter_mono h hl.1, h _ hl.2⟩

theorem Leads.start {fs : Files} {place : Location} {parts : List String}
    (h : fs.Leads place parts) : fs.node? place = some .directory := by
  cases parts with
  | nil => exact h.2
  | cons part rest => exact (enter_eq_ok (leads_cons_iff.1 h).1).1

theorem Leads.of_append {fs : Files} {place : Location} {ps qs : List String}
    (h : fs.Leads place (ps ++ qs)) : fs.Leads place ps := by
  induction ps generalizing place with
  | nil => exact leads_nil_iff.2 (Leads.start h)
  | cons part rest ih =>
    obtain ⟨he, hrest⟩ := leads_cons_iff.1 h
    exact leads_cons_iff.2 ⟨he, ih hrest⟩

/-! ## Making directories again -/

theorem directory_makeDirectoriesFrom (parts : List String) (place : Location) (fs : Files)
    {l : Location} (h : fs.node? l = some .directory) :
    (makeDirectoriesFrom parts place fs).1.node? l = some .directory := by
  rcases node?_makeDirectoriesFrom parts place fs l with hs | ⟨hn, -⟩
  · rw [hs, h]
  · rw [h] at hn
    cases hn

theorem makeDirectoriesFrom_cons {fs : Files} {place next : Location} {part : String}
    (h : fs.enter place part = .ok next) (rest : List String) :
    makeDirectoriesFrom (part :: rest) place fs =
      match fs.node? next with
      | some .directory => makeDirectoriesFrom rest next fs
      | some _ => (fs, some (if rest.isEmpty then .alreadyExists else .notADirectory))
      | none => makeDirectoriesFrom rest next (fs.put next .directory) := by
  cases hn : fs.node? next with
  | none => simp only [makeDirectoriesFrom, h, hn]
  | some node => cases node <;> simp only [makeDirectoriesFrom, h, hn]

theorem makeDirectoriesFrom_of_leads {fs : Files} {place : Location} {parts : List String}
    (h : fs.Leads place parts) : makeDirectoriesFrom parts place fs = (fs, none) := by
  induction parts generalizing place with
  | nil => rfl
  | cons part rest ih =>
    obtain ⟨he, hrest⟩ := leads_cons_iff.1 h
    rw [makeDirectoriesFrom_cons he, hrest.start]
    exact ih hrest

/-- The cases of a part that no fault keeps from being made. -/
theorem makeDirectoriesFrom_cons_eq_ok {fs made : Files} {place : Location} {part : String}
    {rest : List String} (h : makeDirectoriesFrom (part :: rest) place fs = (made, none)) :
    fs.enter place part = .ok (place.step part) ∧
      ∃ fs₁, (fs₁ = fs ∨ fs₁ = fs.put (place.step part) .directory) ∧
        (∀ l, fs.node? l = some .directory → fs₁.node? l = some .directory) ∧
        fs₁.node? (place.step part) = some .directory ∧
        (∀ qs, makeDirectoriesFrom (part :: qs) place fs =
          makeDirectoriesFrom qs (place.step part) fs₁) := by
  cases he : fs.enter place part with
  | error fault =>
    rw [makeDirectoriesFrom, he] at h
    cases h
  | ok next =>
    obtain ⟨-, rfl⟩ := enter_eq_ok he
    refine ⟨rfl, ?_⟩
    rw [makeDirectoriesFrom_cons he] at h
    cases hn : fs.node? (place.step part) with
    | none =>
      have hself := node?_put_self fs _ .directory (ne_nil_of_absent hn)
      refine ⟨fs.put (place.step part) .directory, .inr rfl, ?_, hself, ?_⟩
      · intro l hl
        by_cases hne : l = place.step part
        · rw [hne, hself]
        · rw [node?_put fs _ l _ hne, hl]
      · intro qs
        rw [makeDirectoriesFrom_cons he, hn]
    | some node =>
      rw [hn] at h
      cases node with
      | directory =>
        refine ⟨fs, .inl rfl, fun _ hl => hl, hn, fun qs => ?_⟩
        rw [makeDirectoriesFrom_cons he, hn]
      | file content => cases h
      | program name => cases h

theorem leads_of_makeDirectoriesFrom_of_directory {fs made : Files} {place : Location}
    {parts : List String} (hd : fs.node? place = some .directory)
    (h : makeDirectoriesFrom parts place fs = (made, none)) : made.Leads place parts := by
  induction parts generalizing place fs with
  | nil =>
    cases h
    exact leads_nil_iff.2 hd
  | cons part rest ih =>
    obtain ⟨he, fs₁, -, hdirs, hself, hmake⟩ := makeDirectoriesFrom_cons_eq_ok h
    rw [hmake] at h
    refine leads_cons_iff.2 ⟨?_, ih hself h⟩
    have hplace : made.node? place = some .directory := by
      have hkept := directory_makeDirectoriesFrom rest (place.step part) fs₁ (hdirs place hd)
      rwa [h] at hkept
    unfold enter at he ⊢
    rw [hplace]
    rwa [hd] at he

theorem leads_of_makeDirectoriesFrom {fs made : Files} {place : Location} {parts : List String}
    (hp : parts ≠ []) (h : makeDirectoriesFrom parts place fs = (made, none)) :
    made.Leads place parts := by
  obtain ⟨part, rest, rfl⟩ := List.exists_cons_of_ne_nil hp
  have hd := (enter_eq_ok (makeDirectoriesFrom_cons_eq_ok h).1).1
  exact leads_of_makeDirectoriesFrom_of_directory hd h

/-- The directories along a longer way are made one after the other. -/
theorem makeDirectoriesFrom_append {fs made : Files} {place : Location} {ps : List String}
    (h : makeDirectoriesFrom ps place fs = (made, none)) (qs : List String) :
    makeDirectoriesFrom (ps ++ qs) place fs = makeDirectoriesFrom qs (place.walk ps) made := by
  induction ps generalizing place fs with
  | nil =>
    cases h
    rfl
  | cons part rest ih =>
    obtain ⟨-, fs₁, -, -, -, hmake⟩ := makeDirectoriesFrom_cons_eq_ok h
    rw [hmake] at h
    rw [List.cons_append, hmake, ih h]
    rfl

theorem makeDirectoriesFrom_of_append {fs made : Files} {place : Location} {ps qs : List String}
    (h : makeDirectoriesFrom (ps ++ qs) place fs = (made, none)) :
    ∃ fs₁, makeDirectoriesFrom ps place fs = (fs₁, none) := by
  induction ps generalizing place fs with
  | nil => exact ⟨fs, rfl⟩
  | cons part rest ih =>
    rw [List.cons_append] at h
    obtain ⟨-, fs₁, -, -, -, hmake⟩ := makeDirectoriesFrom_cons_eq_ok h
    rw [hmake] at h
    obtain ⟨fs₂, h₂⟩ := ih h
    exact ⟨fs₂, by rw [hmake, h₂]⟩

/-! ## Changes below a place -/

/-- Whether files differ below a place only and all directories are kept. -/
structure Below (place : Location) (fs fs' : Files) : Prop where
  here : fs'.here = fs.here
  elsewhere : ∀ l, ¬ place <+: l → fs'.node? l = fs.node? l
  directories : ∀ l, fs.node? l = some .directory → fs'.node? l = some .directory

theorem Below.refl (place : Location) (fs : Files) : Below place fs fs :=
  ⟨rfl, fun _ _ => rfl, fun _ h => h⟩

theorem Below.trans {place : Location} {fs₁ fs₂ fs₃ : Files} (h : Below place fs₁ fs₂)
    (h' : Below place fs₂ fs₃) : Below place fs₁ fs₃ :=
  ⟨h'.here.trans h.here, fun l hl => (h'.elsewhere l hl).trans (h.elsewhere l hl),
    fun l hl => h'.directories l (h.directories l hl)⟩

theorem below_put {place l : Location} {fs : Files} (hl : place <+: l) {node : Node}
    (hd : fs.node? l = some .directory → (fs.put l node).node? l = some .directory) :
    Below place fs (fs.put l node) := by
  refine ⟨rfl, fun l' hl' => ?_, fun l' hd' => ?_⟩
  · exact node?_put fs l l' node fun e => hl' (e ▸ hl)
  · by_cases hne : l' = l
    · rw [hne] at hd' ⊢
      exact hd hd'
    · rw [node?_put fs l l' node hne, hd']

theorem below_write {place l : Location} {fs : Files} (hl : place <+: l) (hf : Free (fs.node? l))
    (content : List UInt8) : Below place fs (fs.put l (.file content)) :=
  below_put hl fun hd => (hf.ne_directory hd).elim

theorem below_makeDirectoriesFrom_part (fs : Files) (place : Location) {name : String}
    (hn : name ≠ "." ∧ name ≠ "..") :
    Below (place ++ [name]) fs (makeDirectoriesFrom [name] place fs).1 := by
  cases he : fs.enter place name with
  | error fault =>
    rw [makeDirectoriesFrom, he]
    exact Below.refl _ fs
  | ok next =>
    obtain ⟨-, rfl⟩ := enter_eq_ok he
    rw [makeDirectoriesFrom_cons he, Location.step_name hn]
    split
    · exact Below.refl _ fs
    · exact Below.refl _ fs
    · rename_i hnone
      refine below_put List.prefix_rfl fun hd => ?_
      rw [hnone] at hd
      cases hd

/-- Whether a directory more can be made is decided by what stands below it. -/
theorem makeDirectoriesFrom_part_congr {fs fs' : Files} {place : Location} {name : String}
    (hn : name ≠ "." ∧ name ≠ "..") (hd : fs.node? place = some .directory)
    (hd' : fs'.node? place = some .directory)
    (hbelow : ∀ l, place ++ [name] <+: l → fs'.node? l = fs.node? l) :
    (makeDirectoriesFrom [name] place fs').2 = (makeDirectoriesFrom [name] place fs).2 ∧
      ∀ l, place ++ [name] <+: l → (makeDirectoriesFrom [name] place fs').1.node? l =
        (makeDirectoriesFrom [name] place fs).1.node? l := by
  have henter : fs'.enter place name = fs.enter place name := by
    unfold enter
    rw [hd, hd']
  cases he : fs.enter place name with
  | error fault =>
    rw [makeDirectoriesFrom, makeDirectoriesFrom, henter, he]
    exact ⟨rfl, hbelow⟩
  | ok next =>
    obtain ⟨-, rfl⟩ := enter_eq_ok he
    have hself := hbelow (place ++ [name]) List.prefix_rfl
    rw [makeDirectoriesFrom_cons he, makeDirectoriesFrom_cons (henter.trans he),
      Location.step_name hn, hself]
    cases hnode : fs.node? (place ++ [name]) with
    | none =>
      refine ⟨rfl, fun l hl => ?_⟩
      by_cases hne : l = place ++ [name]
      · have habsent := ne_nil_of_absent hnode
        change (fs'.put _ _).node? l = (fs.put _ _).node? l
        rw [hne, node?_put_self fs _ _ habsent, node?_put_self fs' _ _ habsent]
      · change (fs'.put _ _).node? l = (fs.put _ _).node? l
        rw [node?_put fs _ l _ hne, node?_put fs' _ l _ hne]
        exact hbelow l hl
    | some node =>
      cases node with
      | directory => exact ⟨rfl, hbelow⟩
      | file content => exact ⟨rfl, hbelow⟩
      | program name => exact ⟨rfl, hbelow⟩

/-! ## Paths -/

theorem start_congr {fs fs' : Files} (h : fs'.here = fs.here) (p : Path) :
    fs'.start p = fs.start p := by
  unfold start
  rw [h]

theorem makeDirectories_of_pathFault {p : Path} (hp : p.parts ≠ []) {fault : HostFault}
    (h : pathFault? p = some fault) (fs : Files) : fs.makeDirectories p = (fs, some fault) := by
  have hn : p.text ≠ "" := fun he => hp (by rw [Path.parts_eq, he]; rfl)
  unfold makeDirectories
  rw [h]
  exact if_neg hn

theorem makeDirectories_of_not_pathFault {p : Path} (h : pathFault? p = none) (fs : Files) :
    fs.makeDirectories p = makeDirectoriesFrom p.parts (fs.start p) fs := by
  unfold makeDirectories
  rw [h]

theorem pathFault?_of_makeDirectories {fs made : Files} {p : Path} (hp : p.parts ≠ [])
    (h : fs.makeDirectories p = (made, none)) : pathFault? p = none := by
  cases hf : pathFault? p with
  | none => rfl
  | some fault =>
    rw [makeDirectories_of_pathFault hp hf] at h
    cases h

theorem leads_of_makeDirectories {fs made : Files} {p : Path} (hp : p.parts ≠ [])
    (h : fs.makeDirectories p = (made, none)) : made.Leads (fs.start p) p.parts := by
  rw [makeDirectories_of_not_pathFault (pathFault?_of_makeDirectories hp h)] at h
  exact leads_of_makeDirectoriesFrom hp h

theorem pathFault?_of_locate {fs : Files} {p : Path} {l : Location} (h : fs.locate p = .ok l) :
    pathFault? p = none := by
  unfold locate at h
  split at h
  · cases h
  · rename_i hf
    exact hf

section Child

variable {p : Path} {name : String} (hn : Path.IsPart name) (hdots : name ≠ "." ∧ name ≠ "..")

include hn in
theorem start_child (fs : Files) : fs.start (p.child name) = fs.start p := by
  unfold start
  rw [Path.isRooted_child p hn]

include hn in
theorem pathFault?_of_child (hp : p.text ≠ "") (h : pathFault? (p.child name) = none) :
    pathFault? p = none := by
  obtain ⟨rest, hrest⟩ : ∃ rest, (p.child name).text = p.text ++ rest := by
    rw [Path.child_eq p hn]
    split
    · exact ⟨name, rfl⟩
    · exact ⟨"/" ++ name, String.append_assoc⟩
  unfold pathFault? at h ⊢
  rw [hrest, String.toList_append, String.utf8ByteSize_append] at h
  grind

include hn in
/-- A directory in another is made in it as soon as that one can be made. -/
theorem makeDirectories_child {fs made : Files} (hf : pathFault? (p.child name) = none)
    (h : makeDirectoriesFrom p.parts (fs.start p) fs = (made, none)) :
    fs.makeDirectories (p.child name) = makeDirectoriesFrom [name] (fs.place p) made := by
  rw [makeDirectories_of_not_pathFault hf, start_child hn, Path.parts_child p hn,
    makeDirectoriesFrom_append h]
  rfl

include hn hdots

/-- Below a directory that is found a name is found. -/
theorem locate_child_of_leads {fs : Files} (h : fs.Leads (fs.start p) p.parts)
    (hs : name.utf8ByteSize ≤ nameLimit) :
    fs.locate (p.child name) = match pathFault? (p.child name) with
      | some fault => .error fault
      | none => .ok (fs.place p ++ [name]) := by
  have henter : fs.enter (fs.place p) name = .ok (fs.place p ++ [name]) := by
    have hd : fs.node? (fs.place p) = some .directory := h.2
    unfold enter
    rw [hd]
    simp [hdots, Nat.not_lt_of_le hs]
  have hfold : (p.parts ++ [name]).foldlM fs.enter (fs.start p) = .ok (fs.place p ++ [name]) := by
    rw [List.foldlM_append, h.1]
    change [name].foldlM fs.enter (fs.place p) = _
    rw [List.foldlM_cons, henter]
    rfl
  cases hf : pathFault? (p.child name) with
  | some fault => simp only [locate, hf]
  | none => simp only [locate, hf, start_child hn, Path.parts_child p hn, hfold]

omit hdots in
theorem leads_of_locate_child {fs : Files} {l : Location} (h : fs.locate (p.child name) = .ok l) :
    fs.Leads (fs.start p) p.parts := by
  unfold locate at h
  split at h
  · cases h
  · rw [start_child hn, Path.parts_child p hn, List.foldlM_append] at h
    cases hfold : p.parts.foldlM fs.enter (fs.start p) with
    | error fault =>
      rw [hfold] at h
      cases h
    | ok place =>
      obtain rfl := foldlM_enter_eq_ok hfold
      rw [hfold] at h
      change [name].foldlM fs.enter _ = _ at h
      rw [List.foldlM_cons] at h
      cases he : fs.enter ((fs.start p).walk p.parts) name with
      | error fault =>
        rw [he] at h
        cases h
      | ok next => exact ⟨hfold, (enter_eq_ok he).1⟩

end Child

end BenchSweep.Files
