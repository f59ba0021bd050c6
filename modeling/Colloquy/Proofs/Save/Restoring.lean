import Colloquy.Proofs.Flag.Rebuilding
import Colloquy.Proofs.Save.Document
import Colloquy.Proofs.Storage.Walking

/-!
# Restoring what was saved

A save that was written is read back as it was, and restores the flags that it
was made of.
-/

namespace Colloquy.Save

open Colloquy.Flag (Operation Store)
open Colloquy.Storage (Disk)
open Colloquy.Storage.Disk (Keeps Wrote)

theorem exists_target_of_isOk
    {disk : Disk} {directory slot : String} {store : Store} {trigger : Option String}
    (isOk : (write disk directory slot store trigger).1.isOk = true) :
    ∃ target, write disk directory slot store trigger =
      (.ok target, (write disk directory slot store trigger).2) := by
  cases outcome : (write disk directory slot store trigger).1 with
  | error failure =>
      rw [outcome] at isOk
      cases isOk
  | ok target =>
      exact ⟨target, Prod.ext outcome rfl⟩

/-- A successful write is one of the save's document, after directories were made. -/
theorem exists_wrote_of_write
    {disk written : Disk} {directory slot target : String} {store : Store}
    {trigger : Option String}
    (wrote : write disk directory slot store trigger = (.ok target, written)) :
    target = path directory slot ∧ ∃ prepared place, Keeps disk prepared ∧
      prepared.resolve target = .ok place ∧ prepared.item? place ≠ some .directory ∧
        Wrote prepared place (File.ofStore store trigger).document written := by
  have kept := Storage.Disk.keeps_ensureDirectory disk directory
  unfold write at wrote
  cases made : disk.ensureDirectory directory with
  | mk outcome prepared =>
      rw [made] at wrote kept
      dsimp only at wrote
      split at wrote
      · cases wrote
      · split at wrote
        · cases wrote
        · rename_i after wroteText
          obtain ⟨sameTarget, sameDisk⟩ := Prod.mk.inj wrote
          rw [← Except.ok.inj sameTarget, ← sameDisk]
          obtain ⟨place, resolved, notDirectory, wroteHere⟩ :=
            Storage.Disk.exists_wrote_of_writeText (doing_eq_ok_iff.1 wroteText)
          exact ⟨rfl, prepared, place, kept, resolved, notDirectory, wroteHere⟩

/-- A file is loaded exactly if its text can be read and decoded. -/
theorem File.load_eq_ok_iff {disk : Disk} {path : String} {file : File} :
    File.load disk path = .ok file ↔
      ∃ text, disk.readText path = .ok text ∧ File.ofDocument text = .ok file := by
  unfold File.load
  rw [bind_eq_ok_iff]
  exact exists_congr fun text => and_congr doing_eq_ok_iff mapError_eq_ok_iff

/-- A file that holds the document of a save is loaded as that save. -/
theorem File.load_of_holds
    {disk : Disk} {path : String} {place : List String} {modified : Int} {file : File}
    (resolves : disk.resolve path = .ok place)
    (below : place ≠ [])
    (holds : disk.Holds place (.file (.text file.document) modified)) :
    File.load disk path = .ok file := by
  have read : disk.readText path = .ok file.document := by
    simp only [Storage.Disk.readText, Storage.Disk.find, resolves, holds.item?_eq below,
      pure, Except.pure, bind, Except.bind]
  exact File.load_eq_ok_iff.2 ⟨_, read, File.ofDocument_document file⟩

theorem File.restore_eq_ok_iff {file : File} {store : Store} :
    file.restore = .ok store ↔ Store.ofSnapshotStrict file.flags = .ok store :=
  mapError_eq_ok_iff

/-- A save is by this version, and gives back a store and a trigger. -/
structure GivesBack (file : File) (store : Store) (trigger : Option String) : Prop where
  version : file.version = currentVersion
  trigger : file.trigger = trigger
  flags : file.flags = store.exported
  ready : file.status = .ready
  restores : file.restore = .ok store

private theorem givesBack_ofStore
    {store : Store}
    (tidy : store.Tidy)
    (trigger : Option String) :
    GivesBack (File.ofStore store trigger) store trigger where
  version := rfl
  trigger := rfl
  flags := rfl
  ready := if_pos rfl
  restores := by
    simp [File.restore, File.ofStore, Store.ofSnapshotStrict_exported tidy]

/-- What was written is loaded. -/
theorem load_of_write
    {disk written : Disk} {directory slot target : String} {store : Store}
    {trigger : Option String}
    (wrote : write disk directory slot store trigger = (.ok target, written)) :
    File.load written target = .ok (File.ofStore store trigger) := by
  obtain ⟨_, prepared, place, _, resolved, notDirectory, wroteHere⟩ :=
    exists_wrote_of_write wrote
  obtain ⟨modified, holds⟩ := wroteHere.written
  have below : place ≠ [] := by
    rintro rfl
    exact notDirectory rfl
  exact File.load_of_holds
    (Storage.Disk.resolve_of_directories wroteHere.directories resolved) below holds

/-- The save of every store that operations lead to is read back from its
document, and from the file that a successful write puts it in, as the store and
the trigger it was made of. -/
theorem store_of_save (operations : List Operation) (trigger : Option String) :
    (∃ file, File.ofDocument (File.ofStore (Store.after operations) trigger).document =
      .ok file ∧
      GivesBack file (Store.after operations) trigger) ∧
    ∀ {disk written : Disk} {directory slot target : String},
      write disk directory slot (Store.after operations) trigger =
        (.ok target, written) →
        ∃ file, File.load written target = .ok file ∧
          GivesBack file (Store.after operations) trigger := by
  have givesBack : GivesBack (File.ofStore (Store.after operations) trigger)
      (Store.after operations) trigger :=
    givesBack_ofStore (Store.tidy_after operations) trigger
  refine ⟨⟨_, File.ofDocument_document _, givesBack⟩, ?_⟩
  intro disk written directory slot target wrote
  exact ⟨_, load_of_write wrote, givesBack⟩

/-- A write of a text with quotes, a backslash and invisible characters, and of
a NaN. -/
theorem store_of_save_with_unusual_values :
    let store := Store.after
      [.setString " name" "\"a\\b\"\n\u200b", .setFloat "depth" .nan,
        .setBool "met\tHero"]
    ∃ target written file,
      write {} "saves" "Quick!" store (some "intro") = (.ok target, written) ∧
        File.load written target = .ok file ∧ GivesBack file store (some "intro") := by
  intro store
  have isOk : (write {} "saves" "Quick!" store (some "intro")).1.isOk = true := by
    decide +kernel
  obtain ⟨target, wrote⟩ := exists_target_of_isOk isOk
  obtain ⟨file, loaded, givesBack⟩ := (store_of_save _ (some "intro")).2 wrote
  exact ⟨target, _, file, wrote, loaded, givesBack⟩

end Colloquy.Save
