import BenchSweep.Proofs.Agreement
import BenchSweep.Proofs.RunDirectories

/-! The directory that several runs of a campaign share. The first run makes it on the way to its own;
from then on each run finds its way as it would have found it before all runs, and changes nothing
but what stands below its own directory. -/
set_option autoImplicit false

namespace BenchSweep.Campaign

/-- Whether files can be those behind the first runs of several that share a directory: it is found,
and below the directories of later runs nothing stands but what was there when it was made. -/
structure Settled (base : Path) (before : Files) (done : Nat) (fs : Files) : Prop where
  here : fs.here = before.here
  leads : fs.Leads (fs.start base) base.parts
  later : ∃ made, Files.makeDirectoriesFrom base.parts (before.start base) before = (made, none) ∧
    ∀ i, done ≤ i → ∀ l, before.place (numbered base i) <+: l → fs.node? l = made.node? l

section Settled

variable {base : Path} {before fs fs' : Files} {done : Nat}

/-- The first run makes the shared directory on the way to its own. -/
theorem settled_of_first {made : Files} (h : before.makeDirectories (numbered base 0) = (made, none))
    (hb : Files.Below (before.place (numbered base 0)) made fs) : Settled base before 1 fs := by
  have hparts := parts_numbered_ne_nil base 0
  have hfault := Files.pathFault?_of_makeDirectories hparts h
  have hleads := Files.leads_of_makeDirectories hparts h
  have hhere := before.here_makeDirectories (numbered base 0)
  rw [h] at hhere
  rw [start_numbered, parts_numbered] at hleads
  obtain ⟨shared, hshared⟩ : ∃ shared,
      Files.makeDirectoriesFrom base.parts (before.start base) before = (shared, none) := by
    rw [Files.makeDirectories_of_not_pathFault hfault, start_numbered, parts_numbered] at h
    exact Files.makeDirectoriesFrom_of_append h
  have hown := Files.below_makeDirectoriesFrom_part shared (before.place base) (number_ne_dots 0)
  rw [← place_numbered, ← Files.makeDirectories_child (isPart_number 0) hfault hshared] at hown
  change Files.Below _ shared (before.makeDirectories (numbered base 0)).1 at hown
  rw [h] at hown
  have hfiles : fs.here = before.here := hb.here.trans hhere
  refine ⟨hfiles, ?_, shared, hshared, fun i hi l hl => ?_⟩
  · rw [Files.start_congr hfiles]
    exact (Files.Leads.of_append hleads).mono hb.directories
  · exact (hown.trans hb).elsewhere l (not_prefix_of_prefix_numbered (by omega) hl)

/-- Then every directory of a run is made below its own place. -/
theorem Settled.below_makeDirectories (h : Settled base before done fs) (i : Nat) :
    Files.Below (fs.place (numbered base i)) fs (fs.makeDirectories (numbered base i)).1 := by
  cases hf : Files.pathFault? (numbered base i) with
  | some fault =>
    rw [Files.makeDirectories_of_pathFault (parts_numbered_ne_nil base i) hf]
    exact .refl _ fs
  | none =>
    have hmake : fs.makeDirectories (numbered base i) = _ := Files.makeDirectories_child
      (isPart_number i) hf (Files.makeDirectoriesFrom_of_leads h.leads)
    rw [hmake, place_numbered]
    exact Files.below_makeDirectoriesFrom_part fs _ (number_ne_dots i)

theorem Settled.step (h : Settled base before done fs)
    (hb : Files.Below (fs.place (numbered base done)) fs fs') :
    Settled base before (done + 1) fs' := by
  obtain ⟨made, hmade, hlater⟩ := h.later
  have hhere : fs'.here = before.here := hb.here.trans h.here
  refine ⟨hhere, ?_, made, hmade, fun i hi l hl => ?_⟩
  · rw [Files.start_congr hb.here]
    exact h.leads.mono hb.directories
  · have hl' : fs.place (numbered base i) <+: l := by
      rwa [Files.place_congr h.here]
    rw [hb.elsewhere l (not_prefix_of_prefix_numbered (by omega) hl')]
    exact hlater i (by omega) l hl

/-- A later run finds its path as it was before all runs. -/
theorem Settled.madeAlike (hbase : base.parts ≠ []) (h : Settled base before done fs) {i : Nat}
    (hi : done ≤ i) (hf : Files.pathFault? (numbered base i) = none) :
    Plan.MadeAlike (numbered base i) fs before := by
  obtain ⟨made, hmade, hlater⟩ := h.later
  have hplace := Files.place_congr h.here base
  have hfirst : before.makeDirectories (numbered base i) = _ :=
    Files.makeDirectories_child (isPart_number i) hf hmade
  have hlast : fs.makeDirectories (numbered base i) = _ := Files.makeDirectories_child
    (isPart_number i) hf (Files.makeDirectoriesFrom_of_leads h.leads)
  have hd : made.node? (before.place base) = some .directory :=
    (Files.leads_of_makeDirectoriesFrom hbase hmade).2
  have hd' : fs.node? (before.place base) = some .directory := by
    rw [← hplace]
    exact h.leads.2
  obtain ⟨hfault, hbelow⟩ := Files.makeDirectoriesFrom_part_congr (number_ne_dots i) hd' hd
    fun l hl => by
      rw [← place_numbered] at hl
      exact (hlater i hi l hl).symm
  refine ⟨h.here.symm, ?_, fun l hl => ?_⟩
  · rw [hfirst, hlast, hplace, hfault]
  · rw [place_numbered, hplace] at hl
    rw [hfirst, hlast, hplace, hbelow l hl]

/-- Whether what stands at a place is as it was, or a directory stands where nothing stood and the
way to it leads upwards. -/
def Spared (d : Path) (before after : Files) (l : Location) : Prop :=
  after.node? l = before.node? l ∨
    ".." ∈ d.parts ∧ before.node? l = none ∧ after.node? l = some .directory

theorem Settled.spared (h : Settled base before done fs) {i : Nat} (hi : done ≤ i) {l : Location}
    (hl : before.place (numbered base i) <+: l) : Spared (numbered base i) before fs l := by
  obtain ⟨made, hmade, hlater⟩ := h.later
  have hnode := Files.node?_makeDirectoriesFrom base.parts (before.start base) before l
  rw [hmade] at hnode
  unfold Spared
  rw [hlater i hi l hl]
  refine hnode.imp_right fun ⟨hbefore, hafter, k, hk⟩ => ⟨?_, hbefore, hafter⟩
  by_contra hup
  rw [parts_numbered] at hup
  -- otherwise the way to the shared directory would lead below one that is in it
  have hup' : ".." ∉ base.parts := fun hm => hup (List.mem_append_left _ hm)
  have hway := before.walk_take_isPrefix hup' k
  rw [← hk] at hway
  have hlength := (hl.trans hway).length_le
  rw [place_numbered, List.length_append, List.length_singleton] at hlength
  omega

end Settled

end BenchSweep.Campaign
