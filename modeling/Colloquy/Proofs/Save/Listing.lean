import Colloquy.Completion
import Colloquy.Proofs.Outcome
import Colloquy.Save.Slots

/-!
# Listed saves

The names under which saves are listed and completed are those that the file
names of a directory tell. A look-up searches them for the slug of what it is
asked for.
-/

namespace Colloquy.Save

open Colloquy.Storage (Disk)

/-- A name that the file of a save in a directory tells. -/
def Told (disk : Disk) (directory name : String) : Prop :=
  ∃ found, slots disk directory = .ok found ∧ ∃ entry ∈ found, entry.slot = name

theorem mem_dropRepeats_iff {name : String} {names : List String} :
    name ∈ dropRepeats names ↔ name ∈ names := by
  induction names using dropRepeats.induct with
  | case1 =>
      simp [dropRepeats]
  | case2 only =>
      simp [dropRepeats]
  | case3 first rest inductionHypothesis =>
      simp [dropRepeats, inductionHypothesis]
  | case4 first second rest different inductionHypothesis =>
      simp [dropRepeats, different, inductionHypothesis]

private theorem slot_describe (disk : Disk) (slot : Slot) :
    (slot.describe disk).slot = slot.slot := by
  unfold Slot.describe
  split
  · rfl
  · rfl

section Names

variable {disk : Disk} {directory name : String}

/-- Names are told by the items of a directory that is there and can be read. -/
theorem told_iff :
    Told disk directory name ↔
      disk.exists? directory = true ∧ ∃ items, disk.list directory = .ok items ∧
        name ∈ (items.filterMap (slotOfItem? directory)).map (·.slot) := by
  unfold Told slots
  cases disk.exists? directory with
  | false =>
      simp
  | true =>
      simp only [if_true, bind_eq_ok_iff, doing_eq_ok_iff, pure, Except.pure,
        Except.ok.injEq, List.mem_map, true_and]
      constructor
      · rintro ⟨found, ⟨items, read, rfl⟩, slot, member, isName⟩
        exact ⟨items, read, slot, List.mem_mergeSort.1 member, isName⟩
      · rintro ⟨items, read, slot, member, isName⟩
        exact ⟨_, ⟨items, read, rfl⟩, slot, List.mem_mergeSort.2 member, isName⟩

/-- The entries of the listing are those names, whatever the files hold. -/
theorem told_iff_listed :
    (∃ listed, entries disk directory = .ok listed ∧
      ∃ entry ∈ listed, entry.slot = name) ↔
      Told disk directory name := by
  unfold entries Told
  cases slots disk directory with
  | error failure =>
      simp [bind, Except.bind]
  | ok found =>
      simp only [bind, Except.bind, pure, Except.pure, Except.ok.injEq, exists_eq_left',
        List.mem_mergeSort, List.mem_map]
      constructor
      · rintro ⟨_, ⟨slot, member, rfl⟩, isName⟩
        exact ⟨slot, member, (slot_describe disk slot).symm.trans isName⟩
      · rintro ⟨slot, member, isName⟩
        exact ⟨slot.describe disk, ⟨slot, member, rfl⟩,
          (slot_describe disk slot).trans isName⟩

/-- The names that are listed are those that files of saves in the directory tell. -/
theorem told_iff_mem_slotNames :
    name ∈ slotNames disk directory ↔ Told disk directory name := by
  unfold slotNames Told
  cases slots disk directory with
  | error failure =>
      simp
  | ok found =>
      simp [mem_dropRepeats_iff]

end Names

section LookingUp

variable {requested : String} {found : List Slot}

/-- No save is found exactly if none has the slug of the request as its name. -/
theorem pick?_eq_none_iff :
    pick? requested found = none ↔ ∀ entry ∈ found, entry.slot ≠ slug requested := by
  simp only [pick?]
  split
  · rename_i entry isFirst
    have inMatching := List.mem_of_find?_eq_some isFirst
    obtain ⟨member, sameSlot⟩ := List.mem_filter.1 inMatching
    refine iff_of_false (by simp) fun noMatch => ?_
    exact noMatch entry member (of_decide_eq_true sameSlot)
  · rw [List.getLast?_eq_none_iff, List.filter_eq_nil_iff]
    simp

private theorem slot_eq_of_pick?
    {entry : Slot}
    (picked : pick? requested found = some entry) :
    entry.slot = slug requested := by
  have inMatching : entry ∈ found.filter fun entry => entry.slot = slug requested := by
    simp only [pick?] at picked
    split at picked
    · rename_i first isFirst
      rw [← Option.some.inj picked]
      exact List.mem_of_find?_eq_some isFirst
    · exact List.mem_of_getLast? picked
  exact of_decide_eq_true (List.mem_filter.1 inMatching).2

variable {disk : Disk} {directory name : String}

/-- Where a name is told, a look-up can read the directory. It finds nothing
exactly if no file tells the slug of what it is asked for, and what it finds is
under that slug. -/
theorem exists_find?_eq_of_told
    (told : Told disk directory name)
    (requested : String) :
    ∃ found, find? disk directory requested = .ok found ∧
      (found = none ↔ ¬ Told disk directory (slug requested)) ∧
        ∀ entry, found = some entry → entry.slot = slug requested := by
  obtain ⟨all, read, -⟩ := told
  refine ⟨pick? requested all, ?_, ?_, fun entry => slot_eq_of_pick?⟩
  · simp only [find?, read, bind, Except.bind, pure, Except.pure]
  · rw [pick?_eq_none_iff]
    simp only [Told, read]
    simp

end LookingUp

end Colloquy.Save
