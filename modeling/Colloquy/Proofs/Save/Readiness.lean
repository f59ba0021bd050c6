import Colloquy.Proofs.Flag.Counting
import Colloquy.Proofs.Save.Discovery
import Colloquy.Proofs.Save.Restoring

/-!
# Saves that are ready

The listing looks at a save no further than its document and its version.
Restoring it also checks the names of its flags: a save that is listed as ready
is restored with all its flags unless one of them has a name that is refused or
repeated.
-/

namespace Colloquy.Save

open Colloquy.Flag (Acceptable Store TellsFirst)
open Colloquy.Storage (Disk Item)

section Listing

variable {disk : Disk} {directory : String}

def Listed (disk : Disk) (directory : String) (entry : Entry) : Prop :=
  ∃ listed, entries disk directory = .ok listed ∧ entry ∈ listed

private theorem exists_slot_of_listed
    {entry : Entry}
    (listed : Listed disk directory entry) :
    ∃ slot : Slot, entry = slot.describe disk := by
  obtain ⟨all, isListing, member⟩ := listed
  obtain ⟨found, -, described⟩ := bind_eq_ok_iff.1 isListing
  rw [← Except.ok.inj described, List.mem_mergeSort] at member
  obtain ⟨slot, -, rfl⟩ := List.mem_map.1 member
  exact ⟨slot, rfl⟩

private theorem listed_of_list
    {items : List (String × Item)} {slot : Slot}
    (delivered : disk.list directory = .ok items)
    (isSlot : slot ∈ items.filterMap (slotOfItem? directory)) :
    Listed disk directory (slot.describe disk) := by
  refine ⟨_, bind_eq_ok_iff.2 ⟨_, slots_of_list delivered, rfl⟩, ?_⟩
  exact List.mem_mergeSort.2 (List.mem_map_of_mem (perm_slotsOfItems.mem_iff.2 isSlot))

/-- An entry is ready exactly if its file is read as a save of this version, and
then it counts the entries of that save. -/
theorem status_describe_eq_ready_iff {slot : Slot} :
    (slot.describe disk).status = .ready ↔
      ∃ file, File.load disk slot.path = .ok file ∧ file.version = currentVersion ∧
        (slot.describe disk).flagCount = file.flags.size := by
  unfold Slot.describe
  cases loaded : File.load disk slot.path with
  | error failure =>
      simp
  | ok file =>
      simp [File.status]

private theorem path_describe (slot : Slot) :
    (slot.describe disk).path = slot.path := by
  unfold Slot.describe
  split
  · rfl
  · rfl

end Listing

/-- The failure to restore a save whose flags offend. -/
def offence (error : Flag.SnapshotError) : Failure where
  contexts := ["restoring flags from save file"]
  cause := .rule error.message

private theorem File.restore_eq_error_iff {file : File} {failure : Failure} :
    file.restore = .error failure ↔
      ∃ error, Store.ofSnapshotStrict file.flags = .error error ∧
        failure = offence error := by
  unfold File.restore
  cases Store.ofSnapshotStrict file.flags with
  | error error =>
      simp [Except.mapError, offence, eq_comm]
  | ok store =>
      simp

/-- How a save of some flags is restored: with that many flags, unless one of
their names offends. -/
structure RestoresUnlessOffending (file : File) (count : Nat) : Prop where
  restored_iff : (∃ store, file.restore = .ok store) ↔ Acceptable file.flags.keys
  size : ∀ store, file.restore = .ok store → store.size = count
  refused : ∀ failure, file.restore = .error failure →
    ∃ error, TellsFirst file.flags.keys error ∧ failure = offence error

private theorem restoresUnlessOffending (file : File) :
    RestoresUnlessOffending file file.flags.size where
  restored_iff := by
    have settles := Store.settles_ofSnapshotStrict file.flags
    simp only [File.restore_eq_ok_iff]
    constructor
    · rintro ⟨store, rebuilt⟩
      exact (settles.acceptable_of_eq_ok rebuilt).1
    · intro acceptable
      exact ⟨_, settles.eq_ok_of_acceptable acceptable⟩
  size store restored :=
    Store.size_of_ofSnapshotStrict (File.restore_eq_ok_iff.1 restored)
  refused failure failed := by
    obtain ⟨error, refused, rfl⟩ := File.restore_eq_error_iff.1 failed
    exact ⟨error,
      (Store.settles_ofSnapshotStrict file.flags).tellsFirst_of_eq_error refused, rfl⟩

/-- A save that is listed as ready can be loaded, and it is restored with as
many flags as the listing tells exactly if no name of a flag is refused or
repeated. -/
theorem ready_save_restores_unless_flags_offend
    {disk : Disk} {directory : String} {entry : Entry}
    (listed : Listed disk directory entry)
    (ready : entry.status = .ready) :
    ∃ file, File.load disk entry.path = .ok file ∧ file.version = currentVersion ∧
      RestoresUnlessOffending file entry.flagCount := by
  obtain ⟨slot, rfl⟩ := exists_slot_of_listed listed
  obtain ⟨file, loaded, isCurrent, counted⟩ := status_describe_eq_ready_iff.1 ready
  rw [path_describe, counted]
  exact ⟨file, loaded, isCurrent, restoresUnlessOffending file⟩

def editedDisk (text : String) : Disk where
  items :=
    [(["saves"], .directory), (["saves", "slot-parley-0.3.0.ron"],
      .file (.text text) 1)]
  now := 2

def editedSlot : Slot :=
  ⟨"slot", "0.3.0", "saves/slot-parley-0.3.0.ron", "slot-parley-0.3.0.ron", 1⟩

private theorem listed_editedSlot (text : String) :
    Listed (editedDisk text) "saves" (editedSlot.describe (editedDisk text)) := by
  have delivered : (editedDisk text).list "saves" =
      .ok [(editedSlot.fileName, .file (.text text) 1)] := by
    rfl
  have told : slotOfFileName? editedSlot.fileName = some ("slot", "0.3.0") := by
    decide +kernel
  have isSlot : slotOfItem? "saves" (editedSlot.fileName, .file (.text text) 1) =
      some editedSlot := by
    simp only [slotOfItem?, told, Option.map_some]
    rfl
  refine listed_of_list delivered ?_
  rw [List.filterMap_cons_some isSlot]
  exact List.mem_cons_self

private theorem load_editedSlot
    {text : String} {file : File}
    (understood : File.ofDocument text = .ok file) :
    File.load (editedDisk text) (editedSlot.describe (editedDisk text)).path =
      .ok file := by
  rw [path_describe]
  exact File.load_eq_ok_iff.2 ⟨text, rfl, understood⟩

private theorem ready_editedSlot
    {text : String} {file : File}
    (understood : File.ofDocument text = .ok file)
    (isCurrent : file.version = currentVersion) :
    (editedSlot.describe (editedDisk text)).status = .ready ∧
      (editedSlot.describe (editedDisk text)).flagCount = file.flags.size := by
  have loaded := load_editedSlot understood
  rw [path_describe] at loaded
  have counted :
      (editedSlot.describe (editedDisk text)).flagCount = file.flags.size := by
    simp only [Slot.describe, loaded]
  exact ⟨status_describe_eq_ready_iff.2 ⟨file, loaded, isCurrent, counted⟩, counted⟩

/-- One name in two namespaces, blanks around it in one of them. -/
def sharedFile : File where
  version := "0.3.0"
  flags := { bools := ["met"], ints := [("gold", 5), (" met ", 1)] }

def sharedText : String :=
  "(version: \"0.3.0\", flags: (bools: [\"met\"], ints: [(\"gold\", 5), (\" met \", 1)]))"

def refusedFile : File where
  version := "0.3.0"
  flags := { bools := ["gold>5"] }

def refusedText : String :=
  "(version: \"0.3.0\", flags: (bools: [\"gold>5\"]))"

/-- A name that two namespaces share counts twice and is restored twice. -/
theorem ready_save_with_shared_name_is_restored :
    let disk := editedDisk sharedText
    let entry := editedSlot.describe disk
    Listed disk "saves" entry ∧ entry.status = .ready ∧
      ∃ file store, File.load disk entry.path = .ok file ∧ file.restore = .ok store ∧
        store.size = entry.flagCount ∧ store.size = 3 := by
  intro disk entry
  have understood : File.ofDocument sharedText = .ok sharedFile := by
    decide +kernel
  have listed : Listed disk "saves" entry := listed_editedSlot sharedText
  obtain ⟨ready, counted⟩ := ready_editedSlot understood rfl
  obtain ⟨file, loaded, -, restores⟩ :=
    ready_save_restores_unless_flags_offend listed ready
  have same : file = sharedFile :=
    Except.ok.inj (loaded.symm.trans (load_editedSlot understood))
  have acceptable : Acceptable file.flags.keys := by
    rw [same]
    exact ⟨by decide +kernel, by decide +kernel⟩
  obtain ⟨store, restored⟩ := restores.restored_iff.2 acceptable
  have size := restores.size store restored
  exact ⟨listed, ready, file, store, loaded, restored, size, size.trans counted⟩

/-- A save that is listed as ready, with one flag, and cannot be restored. -/
theorem ready_save_with_refused_name_is_not_restored :
    let disk := editedDisk refusedText
    ∃ entry file, Listed disk "saves" entry ∧ entry.status = .ready ∧
      entry.flagCount = 1 ∧
      File.load disk entry.path = .ok file ∧ ∀ store, file.restore ≠ .ok store := by
  intro disk
  have understood : File.ofDocument refusedText = .ok refusedFile := by
    decide +kernel
  obtain ⟨ready, counted⟩ := ready_editedSlot understood rfl
  refine ⟨editedSlot.describe disk, refusedFile, listed_editedSlot refusedText, ready,
    counted,
    load_editedSlot understood, ?_⟩
  intro store restored
  have refused : refusedFile.restore.isOk = false := by
    decide +kernel
  rw [restored] at refused
  cases refused

end Colloquy.Save
