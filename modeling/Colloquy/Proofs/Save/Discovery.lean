import Colloquy.Proofs.Save.FileName
import Colloquy.Proofs.Save.Listing
import Colloquy.Proofs.Text.Bytes
import Mathlib.Data.List.Pairwise

/-!
# Discovering saves

A directory delivers its items in no particular order. Whatever the order, the
saves among them are listed, offered and found alike: a file name can be put
together again from the slot and the version that it tells, so that the order of
the listing leaves no two saves in one place.
-/

namespace Colloquy.Save

open Colloquy.Storage (Disk Item)

namespace Slot

/-- By the bytes of the slots, and for one slot by those of the versions. -/
def Before (left right : Slot) : Prop :=
  Text.bytes left.slot < Text.bytes right.slot ∨
    (left.slot = right.slot ∧ Text.bytes left.version < Text.bytes right.version)

def SameSave (left right : Slot) : Prop :=
  left.slot = right.slot ∧ left.version = right.version

variable {left right : Slot}

private theorem notAfter_iff :
    left.notAfter right = true ↔
      left.slot < right.slot ∨
        (left.slot = right.slot ∧ left.version ≤ right.version) := by
  simp [notAfter]

theorem notAfter_trans
    (first second third : Slot)
    (lower : first.notAfter second = true)
    (upper : second.notAfter third = true) :
    first.notAfter third = true := by
  rw [notAfter_iff] at lower upper ⊢
  rcases lower with less | ⟨same, lessVersion⟩
  · rcases upper with more | ⟨same, _⟩
    · exact Or.inl (String.lt_trans less more)
    · exact Or.inl (same ▸ less)
  · rcases upper with more | ⟨sameAgain, moreVersion⟩
    · exact Or.inl (same ▸ more)
    · exact Or.inr ⟨same.trans sameAgain, String.le_trans lessVersion moreVersion⟩

theorem notAfter_total (left right : Slot) :
    (left.notAfter right || right.notAfter left) = true := by
  rw [Bool.or_eq_true, notAfter_iff, notAfter_iff]
  by_cases less : left.slot < right.slot
  · exact Or.inl (Or.inl less)
  by_cases same : left.slot = right.slot
  · rcases String.le_total left.version right.version with below | above
    · exact Or.inl (Or.inr ⟨same, below⟩)
    · exact Or.inr (Or.inr ⟨same.symm, above⟩)
  · exact Or.inr (Or.inl (Flag.name_lt_of_not_lt_of_ne less same))

theorem SameSave.symm (same : SameSave left right) : SameSave right left :=
  ⟨same.1.symm, same.2.symm⟩

private theorem before_of_notAfter
    (notAfter : left.notAfter right = true)
    (different : ¬ SameSave left right) :
    Before left right := by
  rcases notAfter_iff.1 notAfter with less | ⟨same, below⟩
  · exact Or.inl (Text.lt_iff_bytes_lt.1 less)
  · refine Or.inr ⟨same, Text.lt_iff_bytes_lt.1 ?_⟩
    have differentVersion : right.version ≠ left.version :=
      fun sameVersion => different ⟨same, sameVersion.symm⟩
    exact Flag.name_lt_of_not_lt_of_ne below differentVersion

private theorem Before.not_before (before : Before left right) :
    ¬ Before right left := by
  intro after
  rcases before with less | ⟨same, lessVersion⟩
  · rcases after with more | ⟨same, _⟩
    · exact List.lt_asymm less more
    · rw [same] at less
      exact List.lt_irrefl _ less
  · rcases after with more | ⟨_, moreVersion⟩
    · rw [same] at more
      exact List.lt_irrefl _ more
    · exact List.lt_asymm lessVersion moreVersion

private theorem Before.not_sameSave (before : Before left right) :
    ¬ SameSave left right := by
  rintro ⟨sameSlot, sameVersion⟩
  rcases before with less | ⟨_, lessVersion⟩
  · rw [sameSlot] at less
    exact List.lt_irrefl _ less
  · rw [sameVersion] at lessVersion
    exact List.lt_irrefl _ lessVersion

end Slot

section Items

variable {directory : String} {items reordered : List (String × Item)}

private theorem told_of_slotOfItem?
    {entry : String × Item} {found : Slot}
    (isSlot : slotOfItem? directory entry = some found) :
    slotOfFileName? entry.1 = some (found.slot, found.version) := by
  obtain ⟨name, item⟩ := entry
  cases item with
  | directory =>
      cases isSlot
  | file content modified =>
      obtain ⟨told, isTold, rfl⟩ := Option.map_eq_some_iff.1 isSlot
      exact isTold

/-- Two file names that tell one slot in one version are the same. -/
theorem fileName_eq_of_sameSave
    {left right : String × Item} {leftSlot rightSlot : Slot}
    (isLeft : slotOfItem? directory left = some leftSlot)
    (isRight : slotOfItem? directory right = some rightSlot)
    (same : Slot.SameSave leftSlot rightSlot) :
    left.1 = right.1 := by
  rw [eq_append_of_slotOfFileName? (told_of_slotOfItem? isLeft),
    eq_append_of_slotOfFileName? (told_of_slotOfItem? isRight), same.1, same.2]

private theorem pairwise_not_sameSave
    (distinct : (items.map (·.1)).Nodup) :
    (items.filterMap (slotOfItem? directory)).Pairwise
      fun left right => ¬ Slot.SameSave left right := by
  refine List.pairwise_filterMap.2 ((List.pairwise_map.1 distinct).imp ?_)
  intro left right different leftSlot isLeft rightSlot isRight same
  exact different (fileName_eq_of_sameSave isLeft isRight same)

/-- The saves found among items are those that the items are, in some order. -/
theorem perm_slotsOfItems :
    (slotsOfItems directory items).Perm (items.filterMap (slotOfItem? directory)) :=
  List.mergeSort_perm _ _

private theorem pairwise_before_slotsOfItems
    (distinct : (items.map (·.1)).Nodup) :
    (slotsOfItems directory items).Pairwise Slot.Before := by
  have inOrder : (slotsOfItems directory items).Pairwise
      fun left right => left.notAfter right = true :=
    List.pairwise_mergeSort Slot.notAfter_trans Slot.notAfter_total _
  have different : (slotsOfItems directory items).Pairwise
      fun left right => ¬ Slot.SameSave left right :=
    perm_slotsOfItems.symm.pairwise (pairwise_not_sameSave distinct)
      fun differs same => differs same.symm
  exact inOrder.imp₂ (fun _ _ => Slot.before_of_notAfter) different

/-- Sorting leaves no choice of order. -/
theorem slotsOfItems_eq_of_perm
    (distinct : (items.map (·.1)).Nodup)
    (reorders : reordered.Perm items) :
    slotsOfItems directory reordered = slotsOfItems directory items := by
  have distinctReordered : (reordered.map (·.1)).Nodup :=
    (reorders.map (·.1)).nodup_iff.2 distinct
  have perm : (slotsOfItems directory reordered).Perm (slotsOfItems directory items) :=
    (perm_slotsOfItems.trans (reorders.filterMap (slotOfItem? directory))).trans
      perm_slotsOfItems.symm
  apply perm.eq_of_pairwise ?_ (pairwise_before_slotsOfItems distinctReordered)
    (pairwise_before_slotsOfItems distinct)
  intro left right _ _ before after
  exact absurd after before.not_before

end Items

private theorem pairwise_lt_dropRepeats
    {names : List String}
    (increasing : names.Pairwise (· ≤ ·)) :
    (dropRepeats names).Pairwise (· < ·) := by
  induction names using dropRepeats.induct with
  | case1 =>
      exact List.Pairwise.nil
  | case2 only =>
      exact List.pairwise_singleton _ only
  | case3 first rest inductionHypothesis =>
      rw [dropRepeats, if_pos rfl]
      exact inductionHypothesis increasing.tail
  | case4 first second rest different inductionHypothesis =>
      obtain ⟨firstBelow, restIncreasing⟩ := List.pairwise_cons.1 increasing
      rw [dropRepeats, if_neg different]
      refine List.pairwise_cons.2 ⟨?_, inductionHypothesis restIncreasing⟩
      intro name member
      have listed : name ∈ second :: rest := mem_dropRepeats_iff.1 member
      apply Flag.name_lt_of_not_lt_of_ne (firstBelow name listed)
      rintro rfl
      rcases List.mem_cons.1 listed with same | inRest
      · exact different same
      · have above : second ≤ name :=
          (List.pairwise_cons.1 restIncreasing).1 name inRest
        exact different
          (String.le_antisymm (firstBelow second List.mem_cons_self) above)

/-- What a look-up prefers among listed slots: the one of this version, or else
that of the greatest version. -/
inductive Preferred (found : List Slot) (wanted : String) (entry : Slot) : Prop
  | current :
      entry ∈ found → entry.slot = wanted → entry.version = currentVersion →
        Preferred found wanted entry
  | greatest :
      entry ∈ found → entry.slot = wanted →
        (∀ other ∈ found, other.slot = wanted → other.version ≠ currentVersion ∧
          Text.bytes other.version ≤ Text.bytes entry.version) →
          Preferred found wanted entry

section LookingUp

variable {found : List Slot} {entry other : Slot}

private theorem eq_of_sameSave
    (increasing : found.Pairwise Slot.Before)
    (listed : entry ∈ found)
    (otherListed : other ∈ found)
    (same : Slot.SameSave entry other) :
    entry = other := by
  have apart : found.Pairwise fun left right => ¬ Slot.SameSave left right :=
    increasing.imp Slot.Before.not_sameSave
  have symmetric : Std.Symm fun left right => ¬ Slot.SameSave left right :=
    ⟨fun _ _ differs same => differs same.symm⟩
  by_contra different
  exact apart.forall listed otherListed different same

/-- At most one save is preferred where the saves stand in strict order. -/
theorem Preferred.unique
    {wanted : String}
    (increasing : found.Pairwise Slot.Before)
    (preferred : Preferred found wanted entry)
    (otherPreferred : Preferred found wanted other) :
    entry = other := by
  rcases preferred with ⟨listed, ofSlot, isCurrent⟩ | ⟨listed, ofSlot, above⟩
  · rcases otherPreferred with ⟨otherListed, otherOfSlot, otherCurrent⟩ |
      ⟨_, _, otherAbove⟩
    · exact eq_of_sameSave increasing listed otherListed
        ⟨ofSlot.trans otherOfSlot.symm, isCurrent.trans otherCurrent.symm⟩
    · exact absurd isCurrent (otherAbove entry listed ofSlot).1
  · rcases otherPreferred with ⟨otherListed, otherOfSlot, otherCurrent⟩ |
      ⟨otherListed, otherOfSlot, otherAbove⟩
    · exact absurd otherCurrent (above other otherListed otherOfSlot).1
    · have sameBytes : Text.bytes entry.version = Text.bytes other.version :=
        List.le_antisymm (otherAbove entry listed ofSlot).2
          (above other otherListed otherOfSlot).2
      exact eq_of_sameSave increasing listed otherListed
        ⟨ofSlot.trans otherOfSlot.symm, Text.eq_of_bytes_eq sameBytes⟩

private theorem preferred_of_pick?
    {requested : String}
    (increasing : found.Pairwise Slot.Before)
    (picked : pick? requested found = some entry) :
    Preferred found (slug requested) entry := by
  simp only [pick?] at picked
  split at picked
  · rename_i first isFirst
    obtain rfl : first = entry := Option.some.inj picked
    obtain ⟨listed, ofSlot⟩ := List.mem_filter.1 (List.mem_of_find?_eq_some isFirst)
    have isCurrent := List.find?_some isFirst
    exact .current listed (of_decide_eq_true ofSlot) (of_decide_eq_true isCurrent)
  · rename_i noneCurrent
    obtain ⟨front, isLast⟩ := List.getLast?_eq_some_iff.1 picked
    obtain ⟨listed, ofSlot⟩ := List.mem_filter.1 (List.mem_of_getLast? picked)
    refine .greatest listed (of_decide_eq_true ofSlot) ?_
    intro other otherListed otherOfSlot
    have matching : other ∈ found.filter fun entry => entry.slot = slug requested :=
      List.mem_filter.2 ⟨otherListed, decide_eq_true otherOfSlot⟩
    refine ⟨by simpa using List.find?_eq_none.1 noneCurrent other matching, ?_⟩
    have ordered :
        (found.filter fun entry => entry.slot = slug requested).Pairwise Slot.Before :=
      increasing.filter _
    rw [isLast] at matching ordered
    rcases List.mem_append.1 matching with inFront | isEntry
    · rcases (List.pairwise_append.1 ordered).2.2 other inFront entry
        (List.mem_singleton_self entry) with less | ⟨_, less⟩
      · rw [otherOfSlot, of_decide_eq_true ofSlot] at less
        exact absurd less (List.lt_irrefl _)
      · exact List.le_of_lt less
    · rw [List.mem_singleton.1 isEntry]
      exact List.le_refl _

private theorem pick?_eq_some_iff
    (increasing : found.Pairwise Slot.Before)
    (requested : String) :
    pick? requested found = some entry ↔ Preferred found (slug requested) entry := by
  constructor
  · exact preferred_of_pick? increasing
  · intro preferred
    have someMatch : pick? requested found ≠ none := by
      rw [ne_eq, pick?_eq_none_iff]
      intro noMatch
      rcases preferred with ⟨listed, ofSlot, _⟩ | ⟨listed, ofSlot, _⟩
      · exact noMatch entry listed ofSlot
      · exact noMatch entry listed ofSlot
    obtain ⟨other, picked⟩ := Option.ne_none_iff_exists'.1 someMatch
    rw [picked, preferred.unique increasing (preferred_of_pick? increasing picked)]

end LookingUp

/-! ## Discovery -/

/-- A directory is discovered to hold saves. -/
structure Discovers (disk : Disk) (directory : String) (found : List Slot)
    (offered : List String) : Prop where
  slots : slots disk directory = .ok found
  names : slotNames disk directory = offered
  none_iff : ∀ requested, find? disk directory requested = .ok none ↔
    ∀ entry ∈ found, entry.slot ≠ slug requested
  some_iff : ∀ requested entry, find? disk directory requested = .ok (some entry) ↔
    Preferred found (slug requested) entry

section Discovery

variable {disk : Disk} {directory : String} {items : List (String × Item)}

private theorem exists?_of_list (delivered : disk.list directory = .ok items) :
    disk.exists? directory = true := by
  obtain ⟨place, resolved, rest⟩ := bind_eq_ok_iff.1 delivered
  obtain ⟨_, entered, _⟩ := bind_eq_ok_iff.1 rest
  simp only [Disk.exists?, Disk.find, resolved, Storage.Disk.enter_eq_ok_iff.1 entered,
    bind, Except.bind, pure, Except.pure]
  rfl

/-- The saves of a directory are those among the items it lists. -/
theorem slots_of_list (delivered : disk.list directory = .ok items) :
    slots disk directory = .ok (slotsOfItems directory items) := by
  simp only [slots, exists?_of_list delivered, if_true, delivered, doing_ok, bind,
    Except.bind, pure, Except.pure]

private theorem discovers_of_slots
    {found : List Slot}
    (listed : slots disk directory = .ok found)
    (increasing : found.Pairwise Slot.Before) :
    Discovers disk directory found (dropRepeats (found.map (·.slot))) where
  slots := listed
  names := by
    simp only [slotNames, listed]
  none_iff requested := by
    simp only [find?, listed, bind, Except.bind, pure, Except.pure, Except.ok.injEq]
    exact pick?_eq_none_iff
  some_iff requested entry := by
    simp only [find?, listed, bind, Except.bind, pure, Except.pure, Except.ok.injEq]
    exact pick?_eq_some_iff increasing requested

private theorem nodup_offered
    {found : List Slot}
    (increasing : found.Pairwise Slot.Before) :
    (dropRepeats (found.map (·.slot))).Nodup := by
  have names : (found.map (·.slot)).Pairwise (· ≤ ·) := by
    refine List.pairwise_map.2 (increasing.imp ?_)
    rintro left right (less | ⟨same, _⟩)
    · exact String.lt_asymm (Text.lt_iff_bytes_lt.2 less)
    · exact same ▸ String.le_refl left.slot
  refine (pairwise_lt_dropRepeats names).imp ?_
  rintro left right less rfl
  exact String.lt_irrefl _ less

/-- In whatever order a directory delivers items of distinct names, discovery
comes to the same: each item that is a save is listed once, in strictly
increasing order, each of their names is offered once, and a look-up finds what
is preferred among them. -/
theorem discovery_ignores_order
    {left right : Disk} {reordered : List (String × Item)}
    (delivered : left.list directory = .ok items)
    (redelivered : right.list directory = .ok reordered)
    (distinct : (items.map (·.1)).Nodup)
    (reorders : reordered.Perm items) :
    ∃ found offered,
      (Discovers left directory found offered ∧
        Discovers right directory found offered) ∧
        found.Perm (items.filterMap (slotOfItem? directory)) ∧
          found.Pairwise Slot.Before ∧
          (∀ name, name ∈ offered ↔ ∃ entry ∈ found, entry.slot = name) ∧
            offered.Nodup ∧
            ∀ requested, find? right directory requested =
              find? left directory requested := by
  have increasing : (slotsOfItems directory items).Pairwise Slot.Before :=
    pairwise_before_slotsOfItems distinct
  have listedLeft := slots_of_list delivered
  have listedRight := slots_of_list redelivered
  rw [slotsOfItems_eq_of_perm distinct reorders] at listedRight
  refine ⟨slotsOfItems directory items, _, ⟨discovers_of_slots listedLeft increasing,
    discovers_of_slots listedRight increasing⟩, perm_slotsOfItems, increasing, ?_,
      nodup_offered increasing, ?_⟩
  · intro name
    rw [mem_dropRepeats_iff, List.mem_map]
  · intro requested
    rw [find?, find?, listedLeft, listedRight]

end Discovery

/-- Saves that were renamed or written by other versions, beside what is no save. -/
def foreignItems : List (String × Item) := [
  ("notes.txt", .file (.text "") 1),
  ("a-parley-parley-0.3.0.ron", .file .undecodable 2),
  ("a-parley-0.2.0.ron", .file (.text "") 3),
  ("a-parley-0.10.0.ron", .file (.text "") 4),
  ("old-parley-0.3.0.ron", .directory),
  ("A b-parley-.ron", .file (.text "") 5)]

def foreignSaves (items : List (String × Item)) : Disk where
  items :=
    (["saves"], .directory) :: items.map fun entry => (["saves", entry.1], entry.2)

def foreignSlot : Slot :=
  ⟨"a", "0.2.0", "saves/a-parley-0.2.0.ron", "a-parley-0.2.0.ron", 3⟩

/-- Both orders come to four saves, and a look-up finds the version that is the
greatest by its bytes and not by its number. -/
theorem discovery_of_foreign_saves :
    ∃ found offered,
      (Discovers (foreignSaves foreignItems) "saves" found offered ∧
        Discovers (foreignSaves foreignItems.reverse) "saves" found offered) ∧
          found.length = 4 ∧ offered.Nodup ∧ "A b" ∈ offered ∧
            find? (foreignSaves foreignItems.reverse) "saves" " A! " =
              .ok (some foreignSlot) := by
  have delivered : (foreignSaves foreignItems).list "saves" = .ok foreignItems := by
    decide +kernel
  have redelivered :
      (foreignSaves foreignItems.reverse).list "saves" = .ok foreignItems.reverse := by
    decide +kernel
  have distinct : (foreignItems.map (·.1)).Nodup := by
    decide
  obtain ⟨found, offered, both, perm, -, offers_iff, nodup, -⟩ :=
    discovery_ignores_order delivered redelivered distinct
      (List.reverse_perm foreignItems)
  have isSlug : slug " A! " = "a" := by
    decide +kernel
  have listed : foreignSlot ∈ foreignItems.filterMap (slotOfItem? "saves") := by
    decide +kernel
  have greatest :
      ∀ other ∈ foreignItems.filterMap (slotOfItem? "saves"), other.slot = "a" →
      other.version ≠ currentVersion ∧
        Text.bytes other.version ≤ Text.bytes foreignSlot.version := by
    decide +kernel
  have named :
      ∃ entry ∈ foreignItems.filterMap (slotOfItem? "saves"), entry.slot = "A b" := by
    decide +kernel
  refine ⟨found, offered, both, perm.length_eq.trans (by decide +kernel), nodup, ?_, ?_⟩
  · obtain ⟨entry, member, isName⟩ := named
    exact (offers_iff "A b").2 ⟨entry, perm.mem_iff.2 member, isName⟩
  · rw [both.2.some_iff, isSlug]
    exact .greatest (perm.mem_iff.2 listed) rfl
      fun other member => greatest other (perm.mem_iff.1 member)

end Colloquy.Save
