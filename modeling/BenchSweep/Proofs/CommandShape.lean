import BenchSweep.Compatibility
import BenchSweep.Proofs.Substitution
import Mathlib.Algebra.GroupWithZero.Nat

/-! The shape of a command line that is filled in. Where each of its words comes from is settled before
any value is known; a value only decides what stands in place of the placeholders of its own fragments. -/
set_option autoImplicit false

namespace BenchSweep

/-! ## Where words come from -/

/-- What a word of a command line is made of. -/
inductive Origin where
  | literal (text : String)
  | fragment (parameter fragment : String)
  | setting (setting : Setting)
deriving DecidableEq

/-- The word, if parameters have these texts. -/
def Origin.word (text : String → String) (settings : RunSettings) : Origin → String
  | .literal s => s
  | .fragment name f => substitute f (text name)
  | .setting s => settings.text s

def Token.isGroup : Token → Bool
  | .group _ => true
  | _ => false

namespace Binding

/-- The parameters of the group in `slot` with their fragments. -/
def entries (b : Binding) (slot : Slot) : List (String × List String) :=
  ((b.group slot).map (·.entries)).getD []

/-- The number of fragments in `slot`. -/
def fragmentCount (b : Binding) (slot : Slot) : Nat :=
  ((b.entries slot).map fun e => e.2.length).sum

def origins (b : Binding) : Token → List Origin
  | .literal word => [.literal word]
  | .group slot => (b.entries slot).flatMap fun (name, fragments) => fragments.map (.fragment name)
  | .setting s => [.setting s]

theorem fill_eq_map_origins (b : Binding) (text : String → String) (settings : RunSettings)
    (t : Token) : b.fill text settings t = (b.origins t).map (Origin.word text settings) := by
  cases t with
  | literal word => rfl
  | setting s => rfl
  | group slot =>
    rw [origins, List.map_flatMap]
    refine List.flatMap_congr fun e _ => ?_
    rw [List.map_map]
    rfl

theorem length_origins_group (b : Binding) (slot : Slot) :
    (b.origins (.group slot)).length = b.fragmentCount slot := by
  rw [origins, List.length_flatMap, fragmentCount]
  simp

theorem map_fst_entries (b : Binding) (slot : Slot) :
    (b.entries slot).map Prod.fst = b.references slot := by
  unfold entries references
  cases b.group slot <;> rfl

theorem mem_references_of_mem_origins {b : Binding} {slot : Slot} {name fragment : String}
    (h : Origin.fragment name fragment ∈ b.origins (.group slot)) : name ∈ b.references slot := by
  obtain ⟨⟨n, fragments⟩, he, hm⟩ := List.mem_flatMap.1 h
  obtain ⟨f, -, hf⟩ := List.mem_map.1 hm
  cases hf
  rw [← map_fst_entries]
  exact List.mem_map.2 ⟨_, he, rfl⟩

end Binding

namespace Command

/-- The origins of all words of the command line, in order. -/
def origins (c : Command) (b : Binding) : List Origin := c.flatMap b.origins

theorem mem_slots_iff {c : Command} {slot : Slot} : slot ∈ c.slots ↔ Token.group slot ∈ c := by
  unfold slots
  rw [List.mem_filterMap]
  constructor
  · rintro ⟨t, ht, hs⟩
    cases t <;> cases hs
    exact ht
  · intro h
    exact ⟨_, h, rfl⟩

theorem length_origins (c : Command) (b : Binding) :
    (c.origins b).length =
      c.countP (fun t => !t.isGroup) + (c.slots.map b.fragmentCount).sum := by
  induction c with
  | nil => rfl
  | cons t c ih =>
    have hcons : origins (t :: c) b = b.origins t ++ origins c b := List.flatMap_cons
    rw [hcons, List.length_append, ih, List.countP_cons]
    cases t with
    | group slot =>
      have hslots : slots (.group slot :: c) = slot :: slots c := rfl
      rw [hslots, b.length_origins_group, List.map_cons, List.sum_cons]
      simp only [Token.isGroup, Bool.not_true, Bool.false_eq_true, if_false]
      omega
    | literal s =>
      have hslots : slots (.literal s :: c) = slots c := rfl
      rw [hslots]
      simp only [Binding.origins, Token.isGroup, List.length_singleton, Bool.not_false, if_true]
      omega
    | setting s =>
      have hslots : slots (.setting s :: c) = slots c := rfl
      rw [hslots]
      simp only [Binding.origins, Token.isGroup, List.length_singleton, Bool.not_false, if_true]
      omega

theorem exists_slot_of_mem_origins {c : Command} {b : Binding} {name fragment : String}
    (h : Origin.fragment name fragment ∈ c.origins b) :
    ∃ slot ∈ c.slots, name ∈ b.references slot := by
  obtain ⟨t, ht, hm⟩ := List.mem_flatMap.1 h
  cases t with
  | group slot => exact ⟨slot, mem_slots_iff.2 ht, Binding.mem_references_of_mem_origins hm⟩
  | literal word => simp [Binding.origins] at hm
  | setting s => simp [Binding.origins] at hm

end Command

/-! ## Commands that are filled in -/

/-- The program and what it is called with. -/
def Invocation.words (i : Invocation) : List String := i.program :: i.args

theorem Invocation.words_ofWords {words : List String} (h : words ≠ []) :
    (ofWords words).words = words := by
  cases words with
  | nil => exact (h rfl).elim
  | cons program args => rfl

namespace Resolver

theorem build_eq_ok_origins {r : Resolver} {b : Binding} {c : Command} {i : Invocation}
    (h : r.build b c = .ok i) :
    i = .ofWords ((c.origins b).map (Origin.word r.text r.settings)) := by
  rw [build_eq_ok h, Command.origins, List.map_flatMap]
  congr 1
  exact List.flatMap_congr fun t _ => b.fill_eq_map_origins r.text r.settings t

theorem exists_expand_iff (r : Resolver) (b : Binding) (t : Token) :
    (∃ ws, r.expand b t = .ok ws) ↔
      ∀ slot, t = .group slot → ∀ name ∈ b.references slot, name ∈ r.params.keys := by
  cases t with
  | literal word => simp [expand]
  | setting s => simp [expand]
  | group slot =>
    rw [expand, exists_arguments_iff]
    constructor
    · intro h slot' e
      cases e
      exact h
    · intro h
      exact h slot rfl

/-- A command line can be filled in exactly if the groups that it takes in refer to parameters that
have values. -/
theorem exists_build_iff (r : Resolver) (b : Binding) (c : Command) :
    (∃ i, r.build b c = .ok i) ↔
      ∀ slot ∈ c.slots, ∀ name ∈ b.references slot, name ∈ r.params.keys := by
  rw [build, exists_map_ok_iff, exists_mapM_ok_iff]
  simp only [exists_expand_iff, Command.mem_slots_iff]
  constructor
  · intro h slot hslot
    exact h _ hslot slot rfl
  · rintro h t ht slot rfl
    exact h slot ht

theorem text_of_get? {r : Resolver} {name : String} {v : Value} (h : r.params.get? name = some v) :
    r.text name = v.toText := by
  rw [text, h]
  rfl

/-- Parameters that no group of the command line refers to have no effect. -/
theorem build_congr {r r' : Resolver} {b : Binding} {c : Command} {i : Invocation}
    (h : r.build b c = .ok i) (hsettings : r'.settings = r.settings)
    (hparams : ∀ slot ∈ c.slots, ∀ name ∈ b.references slot,
      r'.params.get? name = r.params.get? name) :
    r'.build b c = .ok i := by
  have hkeys := (r.exists_build_iff b c).1 ⟨i, h⟩
  obtain ⟨i', h'⟩ := (r'.exists_build_iff b c).2 fun slot hslot name hname => by
    rw [OrderedMap.mem_keys_iff, hparams slot hslot name hname, ← OrderedMap.mem_keys_iff]
    exact hkeys slot hslot name hname
  have hwords : (c.origins b).map (Origin.word r'.text r'.settings) =
      (c.origins b).map (Origin.word r.text r.settings) := by
    refine List.map_congr_left fun origin horigin => ?_
    cases origin with
    | literal s => rfl
    | setting s => exact congrArg (fun settings : RunSettings => settings.text s) hsettings
    | fragment name f =>
      obtain ⟨slot, hslot, hname⟩ := Command.exists_slot_of_mem_origins horigin
      have htext : r'.text name = r.text name :=
        congrArg (fun v => (Option.map Value.toText v).getD "") (hparams slot hslot name hname)
      exact congrArg (substitute f) htext
  rw [h', build_eq_ok_origins h', build_eq_ok_origins h, hwords]

/-- The word at a place of a command line that was filled in. -/
theorem getElem?_words {r : Resolver} {b : Binding} {c : Command} {i : Invocation}
    (h : r.build b c = .ok i) {k : Nat} {origin : Origin} (hk : (c.origins b)[k]? = some origin) :
    i.words[k]? = some (origin.word r.text r.settings) := by
  have hne : (c.origins b).map (Origin.word r.text r.settings) ≠ [] := by
    intro e
    rw [List.map_eq_nil_iff.1 e] at hk
    cases hk
  rw [build_eq_ok_origins h, Invocation.words_ofWords hne, List.getElem?_map, hk]
  rfl

theorem words_of_origins_eq_nil {r : Resolver} {b : Binding} {c : Command} {i : Invocation}
    (h : r.build b c = .ok i) (hnil : c.origins b = []) : i = ⟨"", []⟩ := by
  rw [build_eq_ok_origins h, hnil]
  rfl

theorem length_words {r : Resolver} {b : Binding} {c : Command} {i : Invocation}
    (h : r.build b c = .ok i) (hne : c.origins b ≠ []) :
    i.words.length = (c.origins b).length := by
  have hmap : (c.origins b).map (Origin.word r.text r.settings) ≠ [] :=
    mt List.map_eq_nil_iff.1 hne
  rw [build_eq_ok_origins h, Invocation.words_ofWords hmap, List.length_map]

/-- Where two fillings of a command line differ, a placeholder stands whose parameter has two texts. -/
theorem differ_only_at_placeholders {r r' : Resolver} {b : Binding} {c : Command} {i i' : Invocation}
    (hsettings : r.settings = r'.settings) (h : r.build b c = .ok i) (h' : r'.build b c = .ok i')
    {k : Nat} (hk : i.words[k]? ≠ i'.words[k]?) :
    ∃ name f v v', (c.origins b)[k]? = some (.fragment name f) ∧ placeholder <:+: f.toList ∧
      r.params.get? name = some v ∧ r'.params.get? name = some v' ∧ v.toText ≠ v'.toText := by
  cases ho : (c.origins b)[k]? with
  | none =>
    exfalso
    refine hk ?_
    by_cases hnil : c.origins b = []
    · rw [words_of_origins_eq_nil h hnil, words_of_origins_eq_nil h' hnil]
    · rw [List.getElem?_eq_none_iff] at ho
      rw [List.getElem?_eq_none (by rw [length_words h hnil]; exact ho),
        List.getElem?_eq_none (by rw [length_words h' hnil]; exact ho)]
  | some origin =>
    rw [getElem?_words h ho, getElem?_words h' ho, hsettings] at hk
    cases origin with
    | literal s => exact (hk rfl).elim
    | setting s => exact (hk rfl).elim
    | fragment name f =>
      obtain ⟨slot, hslot, hname⟩ :=
        Command.exists_slot_of_mem_origins (List.mem_of_getElem? ho)
      obtain ⟨v, hv⟩ := OrderedMap.mem_keys_iff.1
        ((r.exists_build_iff b c).1 ⟨i, h⟩ slot hslot name hname)
      obtain ⟨v', hv'⟩ := OrderedMap.mem_keys_iff.1
        ((r'.exists_build_iff b c).1 ⟨i', h'⟩ slot hslot name hname)
      simp only [Origin.word, text_of_get? hv, text_of_get? hv'] at hk
      refine ⟨name, f, v, v', rfl, ?_, hv, hv', fun e => hk (by rw [e])⟩
      by_contra hno
      exact hk (by rw [substitute_of_not_isInfix hno, substitute_of_not_isInfix hno])

end Resolver

/-- Fill in one command line with two sets of parameters. Both commands have the same number of words:
one for each literal and each setting and, each time that a group is taken in, one for each of its
fragments; if there are none, both are the command without a program. The word at a place comes from
the same origin in both, and the two differ only where a fragment has a placeholder and its parameter
another text. Parameters that no group taken in refers to have no effect. -/
theorem values_never_change_shape (c : Command) (b : Binding) (settings : RunSettings)
    {params params' : Params} {i i' : Invocation}
    (h : (Resolver.mk params settings).build b c = .ok i)
    (h' : (Resolver.mk params' settings).build b c = .ok i') :
    let count := c.countP (fun t => !t.isGroup) + (c.slots.map b.fragmentCount).sum
    i.words.length = i'.words.length ∧
    (count = 0 → i = ⟨"", []⟩ ∧ i' = ⟨"", []⟩) ∧
    (count ≠ 0 → i.words.length = count) ∧
    (c.origins b).length = count ∧
    (∀ (k : Nat) (origin : Origin), (c.origins b)[k]? = some origin →
      i.words[k]? = some (origin.word (Resolver.mk params settings).text settings) ∧
      i'.words[k]? = some (origin.word (Resolver.mk params' settings).text settings)) ∧
    (∀ k : Nat, i.words[k]? ≠ i'.words[k]? →
      ∃ name f v v', (c.origins b)[k]? = some (.fragment name f) ∧ placeholder <:+: f.toList ∧
        params.get? name = some v ∧ params'.get? name = some v' ∧ v.toText ≠ v'.toText) ∧
    ∀ others : Params, (∀ slot ∈ c.slots, ∀ name ∈ b.references slot,
      others.get? name = params.get? name) → (Resolver.mk others settings).build b c = .ok i := by
  intro count
  have hsettings : (Resolver.mk params settings).settings = (Resolver.mk params' settings).settings :=
    rfl
  have hcount : (c.origins b).length = count := c.length_origins b
  have hzero : count = 0 ↔ c.origins b = [] := by
    rw [← hcount, List.length_eq_zero_iff]
  refine ⟨?_, ?_, ?_, hcount, ?_, ?_, ?_⟩
  · by_cases hnil : c.origins b = []
    · rw [Resolver.words_of_origins_eq_nil h hnil, Resolver.words_of_origins_eq_nil h' hnil]
    · rw [Resolver.length_words h hnil, Resolver.length_words h' hnil]
  · intro hz
    exact ⟨Resolver.words_of_origins_eq_nil h (hzero.1 hz),
      Resolver.words_of_origins_eq_nil h' (hzero.1 hz)⟩
  · intro hz
    rw [Resolver.length_words h fun hnil => hz (hzero.2 hnil), hcount]
  · intro k origin hk
    exact ⟨Resolver.getElem?_words h hk, Resolver.getElem?_words h' hk⟩
  · intro k hk
    exact Resolver.differ_only_at_placeholders hsettings h h' hk
  · intro others hothers
    exact Resolver.build_congr h rfl hothers

/-- A group that is taken in twice, filled in with a text of several words and with no text at all. -/
theorem values_never_change_shape_of_repeated_group :
    let c : Command := [.literal "bench", .group .run, .setting .threads, .group .run, .group .gen]
    let b : Binding := ⟨none, none,
      some (.ofList [("mode", ["--mode=<value>", "--quiet"]), ("size", ["<value>"])]), none⟩
    let params : Params := .ofList [("mode", .text "a b,<value>\n"), ("size", .integer 1)]
    let params' : Params := .ofList [("size", .integer 1), ("mode", .text "")]
    ∃ i i', (Resolver.mk params ⟨1, 4⟩).build b c = .ok i ∧
      (Resolver.mk params' ⟨1, 4⟩).build b c = .ok i' ∧
      i.words.length = 8 ∧ i'.words.length = 8 ∧
      i.words[1]? = some "--mode=a b,<value>\n" ∧ i'.words[1]? = some "--mode=" ∧
      i.words[3]? = i'.words[3]? ∧
      (Resolver.mk (params.insert "seed" (.integer 2)) ⟨1, 4⟩).build b c = .ok i := by
  intro c b params params'
  obtain ⟨i, h⟩ := ((Resolver.mk params ⟨1, 4⟩).exists_build_iff b c).2 (by decide)
  obtain ⟨i', h'⟩ := ((Resolver.mk params' ⟨1, 4⟩).exists_build_iff b c).2 (by decide)
  obtain ⟨hsame, -, hlength, -, hword, hdiffer, hothers⟩ :=
    values_never_change_shape c b ⟨1, 4⟩ h h'
  have height : i.words.length = 8 := hlength (by decide)
  obtain ⟨h1, h1'⟩ := hword 1 (.fragment "mode" "--mode=<value>") (by decide)
  refine ⟨i, i', h, h', height, hsame ▸ height, ?_, ?_, ?_, hothers _ (by decide)⟩
  · rw [h1]
    decide +kernel
  · rw [h1']
    decide +kernel
  · by_contra h3
    obtain ⟨name, f, v, v', ho, -, hv, hv', hne⟩ := hdiffer 3 h3
    have hsize : (c.origins b)[3]? = some (.fragment "size" "<value>") := by decide
    rw [hsize] at ho
    cases ho
    have hboth : params.get? "size" = params'.get? "size" := by decide
    rw [hboth, hv', Option.some.injEq] at hv
    exact hne (by rw [hv])

end BenchSweep
