import Colloquy.Proofs.Save.FileName
import Colloquy.Proofs.Save.Restoring

/-!
# Finding saves

A directory of saves is a map from slugs to saves. After any successful writes,
in a directory with any other files, the look-up of a text whose slug was
written finds the file of that slug by this version, and that file holds what
was written last under the slug.

The file of a slug is at one place below the directory. Its file name is the
only one that tells the slug and this version, and the writes under other slugs
go to other places.
-/

namespace Colloquy.Save

open Colloquy.Flag (Store)
open Colloquy.Storage (Disk Item Content)
open Colloquy.Storage.Disk (Keeps Wrote)

private theorem find?_eq_some_of_only
    {α : Type} {holds : α → Bool} {items : List α} {wanted : α}
    (member : wanted ∈ items)
    (isHeld : holds wanted = true)
    (only : ∀ item ∈ items, holds item = true → item = wanted) :
    items.find? holds = some wanted := by
  cases found : items.find? holds with
  | none =>
      exact absurd isHeld (by simpa using List.find?_eq_none.1 found wanted member)
  | some other =>
      rw [only other (List.mem_of_find?_eq_some found) (List.find?_some found)]

private theorem childName?_eq_some_iff {place path : List String} {name : String} :
    Disk.childName? place path = some name ↔ path = place ++ [name] := by
  unfold Disk.childName?
  constructor
  · intro child
    split at child
    · rename_i last isLast
      split at child
      · rename_i isPlace
        obtain ⟨front, rfl⟩ := List.getLast?_eq_some_iff.1 isLast
        rw [List.dropLast_concat] at isPlace
        rw [isPlace, Option.some.inj child]
      · cases child
    · cases child
  · rintro rfl
    simp

/-- The file of a name stands below a directory with a text. -/
structure Stands
    (disk : Disk) (directory : String) (place : List String) (name text : String)
    (modified : Int) : Prop where
  resolves : disk.resolve directory = .ok place
  isDirectory : disk.item? place = some .directory
  short : name.utf8ByteSize ≤ Disk.longestName
  holds : disk.Holds (place ++ [name]) (.file (.text text) modified)

/-- The slot that a look-up finds in the file of its slug. -/
def currentSlot (directory requested : String) (modified : Int) : Slot where
  slot := slug requested
  version := currentVersion
  path := path directory requested
  fileName := fileName requested
  modified := modified

private theorem slot_currentSlot (directory requested : String) (modified : Int) :
    (currentSlot directory requested modified).slot = slug requested := by
  simp only [currentSlot]

private theorem version_currentSlot (directory requested : String) (modified : Int) :
    (currentSlot directory requested modified).version = currentVersion := by
  simp only [currentSlot]

section Standing

variable {disk : Disk} {directory requested text : String} {place : List String}
  {modified : Int}

private theorem mem_slotsOfItems_iff {items : List (String × Item)} {found : Slot} :
    found ∈ slotsOfItems directory items ↔
      ∃ name content modified, (name, Item.file content modified) ∈ items ∧
        ∃ slot version, slotOfFileName? name = some (slot, version) ∧
          found = ⟨slot, version, Storage.join directory name, name, modified⟩ := by
  simp only [slotsOfItems, List.mem_mergeSort, List.mem_filterMap]
  constructor
  · rintro ⟨⟨name, item⟩, member, isSlot⟩
    cases item with
    | directory =>
        cases isSlot
    | file content modified =>
        obtain ⟨told, isTold, rfl⟩ := Option.map_eq_some_iff.1 isSlot
        exact ⟨name, content, modified, member, told.1, told.2, isTold, rfl⟩
  · rintro ⟨name, content, modified, member, slot, version, isTold, rfl⟩
    exact ⟨(name, .file content modified), member,
      Option.map_eq_some_iff.2 ⟨(slot, version), isTold, rfl⟩⟩

private theorem Stands.find_eq
    {name : String}
    (stands : Stands disk directory place name text modified) :
    disk.find directory = .ok .directory := by
  simp only [Disk.find, stands.resolves, stands.isDirectory, bind, Except.bind, pure,
    Except.pure]

/-- The items directly below a place, by name. -/
def itemsBelow (disk : Disk) (place : List String) : List (String × Item) :=
  disk.items.filterMap fun entry =>
    (Disk.childName? place entry.1).map fun name => (name, entry.2)

private theorem mem_itemsBelow_iff {name : String} {item : Item} :
    (name, item) ∈ itemsBelow disk place ↔ (place ++ [name], item) ∈ disk.items := by
  simp only [itemsBelow, List.mem_filterMap, Option.map_eq_some_iff,
    childName?_eq_some_iff]
  constructor
  · rintro ⟨entry, member, other, isPath, isEntry⟩
    cases isEntry
    rw [← isPath]
    exact member
  · intro member
    exact ⟨(place ++ [name], item), member, name, rfl, rfl⟩

private theorem Stands.isDirectory_directory
    {name : String}
    (stands : Stands disk directory place name text modified) :
    disk.isDirectory directory = true := by
  simp only [Disk.isDirectory, stands.find_eq]

private theorem Stands.slots_eq
    {name : String}
    (stands : Stands disk directory place name text modified) :
    slots disk directory = .ok (slotsOfItems directory (itemsBelow disk place)) := by
  have entered : disk.enter place = .ok () :=
    Storage.Disk.enter_eq_ok_iff.2 stands.isDirectory
  simp only [slots, Disk.exists?, stands.find_eq, Except.isOk, Except.toBool, if_true,
    Disk.list, stands.resolves, entered, doing_ok, bind, Except.bind, pure, Except.pure,
    itemsBelow]

private theorem Stands.mem_slots
    (stands : Stands disk directory place (fileName requested) text modified) :
    currentSlot directory requested modified ∈
      slotsOfItems directory (itemsBelow disk place) :=
  mem_slotsOfItems_iff.2 ⟨fileName requested, .text text, modified,
    mem_itemsBelow_iff.2 stands.holds.present, slug requested, currentVersion,
    slotOfFileName?_fileName requested, rfl⟩

/-- No other file is listed under the slug and this version. -/
theorem Stands.eq_currentSlot
    {found : Slot}
    (stands : Stands disk directory place (fileName requested) text modified)
    (isListed : found ∈ slotsOfItems directory (itemsBelow disk place))
    (sameSlot : found.slot = slug requested)
    (sameVersion : found.version = currentVersion) :
    found = currentSlot directory requested modified := by
  obtain ⟨name, content, changed, isItem, slot, version, isTold, rfl⟩ :=
    mem_slotsOfItems_iff.1 isListed
  simp only at sameSlot sameVersion
  rw [sameSlot, sameVersion] at isTold ⊢
  have isName : name = fileName requested := eq_fileName_of_slotOfFileName? isTold
  rw [isName] at isItem ⊢
  obtain ⟨_, sameTime⟩ :=
    Item.file.inj (stands.holds.only _ (mem_itemsBelow_iff.1 isItem) rfl)
  rw [sameTime, currentSlot, path]

/-- The file of a slug by this version is what a look-up finds. -/
theorem Stands.find?_eq
    (stands : Stands disk directory place (fileName requested) text modified) :
    find? disk directory requested =
      .ok (some (currentSlot directory requested modified)) := by
  have first : ((slotsOfItems directory (itemsBelow disk place)).filter fun entry =>
      entry.slot = slug requested).find? (fun entry => entry.version = currentVersion) =
        some (currentSlot directory requested modified) := by
    refine find?_eq_some_of_only
      (List.mem_filter.2 ⟨stands.mem_slots, decide_eq_true (slot_currentSlot _ _ _)⟩)
      (decide_eq_true (version_currentSlot _ _ _)) ?_
    intro found isFound sameVersion
    obtain ⟨isListed, sameSlot⟩ := List.mem_filter.1 isFound
    exact stands.eq_currentSlot isListed (of_decide_eq_true sameSlot)
      (of_decide_eq_true sameVersion)
  simp only [find?, stands.slots_eq, bind, Except.bind, pure, Except.pure, pick?, first]

/-- What stands in the file of a slug is what is loaded from it. -/
theorem Stands.load_eq
    {file : File}
    (stands : Stands disk directory place (fileName requested) file.document modified)
    (nonempty : directory ≠ "") :
    File.load disk (path directory requested) = .ok file := by
  have resolves :
      disk.resolve (path directory requested) =
        .ok (place ++ [fileName requested]) := by
    rw [path]
    exact (Storage.Disk.resolve_join_eq_ok_iff
      (isComponent_fileName requested) nonempty).2
      ⟨place, stands.resolves, stands.isDirectory, stands.short, rfl⟩
  exact File.load_of_holds resolves (by simp) stands.holds

end Standing

structure Writing where
  slot : String
  store : Store
  trigger : Option String
  deriving DecidableEq

def Writing.file (writing : Writing) : File :=
  File.ofStore writing.store writing.trigger

/-- Successful writes to a directory, one after the other, lead from a disk to
another. -/
def Saved (directory : String) : List Writing → Disk → Disk → Prop
  | [], disk, after => after = disk
  | writing :: later, disk, after =>
    ∃ target between, write disk directory writing.slot writing.store writing.trigger =
      (.ok target, between) ∧ Saved directory later between after

def lastWriting? (requested : String) (writings : List Writing) : Option Writing :=
  (writings.filter fun writing => slug writing.slot = slug requested).getLast?

section Writing

variable {disk between after : Disk} {directory target : String} {writing : Writing}

private theorem saved_cons_of_isOk
    {later : List Writing}
    (wrote : (write disk directory writing.slot writing.store writing.trigger).1.isOk =
      true)
    (savedLater : Saved directory later
      (write disk directory writing.slot writing.store writing.trigger).2 after) :
    Saved directory (writing :: later) disk after := by
  obtain ⟨target, made⟩ := exists_target_of_isOk wrote
  exact ⟨target, _, made, savedLater⟩

private theorem saved_append {before later : List Writing} :
    Saved directory (before ++ later) disk after ↔
      ∃ between, Saved directory before disk between ∧
        Saved directory later between after := by
  induction before generalizing disk with
  | nil =>
      simp [Saved]
  | cons writing before inductionHypothesis =>
      simp only [List.cons_append, Saved, inductionHypothesis]
      constructor
      · rintro ⟨target, first, wrote, second, savedBefore, savedLater⟩
        exact ⟨second, ⟨target, first, wrote, savedBefore⟩, savedLater⟩
      · rintro ⟨second, ⟨target, first, wrote, savedBefore⟩, savedLater⟩
        exact ⟨target, first, wrote, second, savedBefore, savedLater⟩

/-- A write leaves the save in the file of its slot, below the directory. -/
theorem exists_stands_of_write
    (nonempty : directory ≠ "")
    (wrote : write disk directory writing.slot writing.store writing.trigger =
      (.ok target, after)) :
    ∃ place modified,
      Stands after directory place
        (fileName writing.slot) writing.file.document modified := by
  obtain ⟨isTarget, prepared, reached, _, resolved, _, wroteHere⟩ :=
    exists_wrote_of_write wrote
  rw [isTarget, path] at resolved
  obtain ⟨place, toDirectory, isDirectory, short, rfl⟩ :=
    (Storage.Disk.resolve_join_eq_ok_iff (isComponent_fileName writing.slot) nonempty).1
      resolved
  obtain ⟨modified, holds⟩ := wroteHere.written
  exact ⟨place, modified,
    Storage.Disk.resolve_of_directories wroteHere.directories toDirectory,
    wroteHere.directories place isDirectory, short, holds⟩

/-- A write to another file leaves a standing file alone. -/
theorem Stands.of_write
    {place : List String} {name text : String} {modified : Int}
    (stands : Stands disk directory place name text modified)
    (nonempty : directory ≠ "")
    (wrote : write disk directory writing.slot writing.store writing.trigger =
      (.ok target, after))
    (other : fileName writing.slot ≠ name) :
    Stands after directory place name text modified := by
  obtain ⟨isTarget, prepared, reached, kept, resolved, _, wroteHere⟩ :=
    exists_wrote_of_write wrote
  rw [isTarget, path] at resolved
  obtain ⟨_, _, _, _, rfl⟩ :=
    (Storage.Disk.resolve_join_eq_ok_iff (isComponent_fileName writing.slot) nonempty).1
      resolved
  have directories : ∀ other, disk.item? other = some .directory →
      after.item? other = some .directory := fun other isDirectory =>
    wroteHere.directories other (kept.directories other isDirectory)
  refine ⟨Storage.Disk.resolve_of_directories directories stands.resolves,
    directories place stands.isDirectory, stands.short, ?_⟩
  refine wroteHere.holds _ _ (fun same => ?_) (kept.holds _ _ (by simp) stands.holds)
  have sameName := congrArg List.getLast? same
  rw [List.getLast?_concat, List.getLast?_concat] at sameName
  exact other (Option.some.inj sameName).symm

/-- Writes to other files leave a standing file alone. -/
theorem Stands.of_saved
    {place : List String} {name text : String} {modified : Int}
    {writings : List Writing}
    (stands : Stands disk directory place name text modified)
    (nonempty : directory ≠ "")
    (saved : Saved directory writings disk after)
    (others : ∀ writing ∈ writings, fileName writing.slot ≠ name) :
    Stands after directory place name text modified := by
  induction writings generalizing disk with
  | nil =>
      cases saved
      exact stands
  | cons writing later inductionHypothesis =>
      obtain ⟨_, between, wrote, savedLater⟩ := saved
      exact inductionHypothesis
        (stands.of_write nonempty wrote (others writing List.mem_cons_self)) savedLater
        fun other member => others other (List.mem_cons_of_mem _ member)

end Writing

/-! ## The map from slugs to saves -/

/-- The last write under a slug has only writes under others behind it. -/
theorem exists_eq_append_of_isWritten
    {requested : String} {writings : List Writing}
    (isWritten : ∃ writing ∈ writings, slug writing.slot = slug requested) :
    ∃ before last later, writings = before ++ last :: later ∧
      lastWriting? requested writings = some last ∧ slug last.slot = slug requested ∧
        ∀ writing ∈ later, slug writing.slot ≠ slug requested := by
  obtain ⟨writing, member, sameSlug⟩ := isWritten
  have someMatch :
      (writings.filter fun writing => slug writing.slot = slug requested) ≠ [] :=
    List.ne_nil_of_mem (List.mem_filter.2 ⟨member, decide_eq_true sameSlug⟩)
  obtain ⟨front, last, matching⟩ := (List.eq_nil_or_concat _).resolve_left someMatch
  rw [List.concat_eq_append] at matching
  obtain ⟨before, rest, isSplit, _, lastOnly⟩ := List.filter_eq_append_iff.1 matching
  obtain ⟨passed, later, isRest, _, isMatch, noMore⟩ :=
    List.filter_eq_cons_iff.1 lastOnly
  refine ⟨before ++ passed, last, later, by simp [isSplit, isRest], ?_,
    of_decide_eq_true isMatch,
    fun writing member => ?_⟩
  · simp [lastWriting?, matching]
  · simpa using List.filter_eq_nil_iff.1 noMore writing member

/-- The path that saves were written to is a directory, and a look-up in it
finds the current file of a slug that was written, and in the file the last save
under the slug; it goes on doing so after writes under other slugs. Only the
empty path is left out: it names no directory. -/
theorem find_last_save
    {disk after : Disk} {directory requested : String} {writings : List Writing}
    (saved : Saved directory writings disk after)
    (nonempty : directory ≠ "")
    (isWritten : ∃ writing ∈ writings, slug writing.slot = slug requested) :
    after.isDirectory directory = true ∧
      ∃ last found, lastWriting? requested writings = some last ∧
      (find? after directory requested = .ok (some found) ∧
        found.slot = slug requested ∧ found.version = currentVersion ∧
          found.fileName = fileName requested ∧ found.path = path directory requested) ∧
      File.load after found.path = .ok last.file ∧
      ∀ {others : List Writing} {further : Disk}, Saved directory others after further →
        (∀ other ∈ others, slug other.slot ≠ slug requested) →
          find? further directory requested = .ok (some found) ∧
            File.load further found.path = .ok last.file := by
  obtain ⟨before, last, later, rfl, isLast, sameSlug, others⟩ :=
    exists_eq_append_of_isWritten isWritten
  have otherFiles : ∀ {writings : List Writing},
      (∀ writing ∈ writings, slug writing.slot ≠ slug requested) →
        ∀ writing ∈ writings, fileName writing.slot ≠ fileName requested :=
    fun otherSlugs writing member same =>
      otherSlugs writing member (slug_eq_of_fileName_eq same)
  obtain ⟨_, _, _, between, wrote, savedLater⟩ := saved_append.1 saved
  obtain ⟨place, modified, standsThen⟩ := exists_stands_of_write nonempty wrote
  rw [fileName_eq_of_slug_eq sameSlug] at standsThen
  have stands := standsThen.of_saved nonempty savedLater (otherFiles others)
  refine ⟨stands.isDirectory_directory, last, currentSlot directory requested modified,
    isLast,
    ⟨stands.find?_eq, slot_currentSlot _ _ _, version_currentSlot _ _ _,
      by simp only [currentSlot],
      by simp only [currentSlot]⟩, ?_, ?_⟩
  · simp only [currentSlot]
    exact stands.load_eq nonempty
  · intro more further savedMore otherSlugs
    have standsOn := stands.of_saved nonempty savedMore (otherFiles otherSlugs)
    refine ⟨standsOn.find?_eq, ?_⟩
    simp only [currentSlot]
    exact standsOn.load_eq nonempty

/-- Two writes under one slug and one under another, beside a save of another
version. -/
theorem find_last_save_beside_other_saves :
    ∃ after found,
      Saved "saves"
        [⟨"Quick!", {}, none⟩, ⟨"boss", {}, none⟩, ⟨"quick", {}, some "intro"⟩]
        ⟨[(["saves"], .directory), (["saves", "quick-parley-0.2.0.ron"],
          .file .undecodable 3)], 7⟩
        after ∧
      find? after "saves" " QUICK " = .ok (some found) ∧
      found.fileName = "quick-parley-0.3.0.ron" ∧
      File.load after found.path = .ok (File.ofStore {} (some "intro")) := by
  have saved : ∃ after, Saved "saves"
      [⟨"Quick!", {}, none⟩, ⟨"boss", {}, none⟩, ⟨"quick", {}, some "intro"⟩]
      ⟨[(["saves"], .directory), (["saves", "quick-parley-0.2.0.ron"],
        .file .undecodable 3)], 7⟩
      after := by
    refine ⟨_,
      saved_cons_of_isOk ?_ (saved_cons_of_isOk ?_ (saved_cons_of_isOk ?_ rfl))⟩
    all_goals decide +kernel
  have isWritten : ∃ writing ∈ ([⟨"Quick!", {}, none⟩, ⟨"boss", {}, none⟩,
      ⟨"quick", {}, some "intro"⟩] : List Writing), slug writing.slot =
      slug " QUICK " :=
    ⟨⟨"quick", {}, some "intro"⟩, by simp, by decide +kernel⟩
  obtain ⟨after, saved⟩ := saved
  obtain ⟨_, last, found, isLast, ⟨isFound, _, _, isNamed, _⟩, loaded, _⟩ :=
    find_last_save saved (by decide) isWritten
  refine ⟨after, found, saved, isFound, isNamed.trans (by decide +kernel), ?_⟩
  have sameLast : some last = some ⟨"quick", {}, some "intro"⟩ :=
    isLast.symm.trans (by decide +kernel)
  rw [loaded, Option.some.inj sameLast]
  rfl

end Colloquy.Save
