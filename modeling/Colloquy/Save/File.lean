import Colloquy.Failure
import Colloquy.Flag.Store
import Colloquy.Ron.Printer
import Colloquy.Save.Slug

/-!
# Save files

A save holds the flags and the trigger of the dialogue that was open, if any,
under the version that wrote it. It is a RON document, one file for each slot
and version.
-/

namespace Colloquy.Save

open Colloquy.Flag (Snapshot Store)
open Colloquy.Ron
  (Extensions Decoder text? list? pair? option? record? required? defaulted?)
open Colloquy.Storage (Disk)

structure File where
  version : String
  /-- The trigger of the dialogue that was open. -/
  trigger : Option String := none
  flags : Snapshot
  deriving DecidableEq

inductive Status where
  | ready
  | otherVersion (version : String)
  | corrupted (message : String)
  deriving DecidableEq, Repr

namespace File

def ofStore (store : Store) (trigger : Option String) : File where
  version := currentVersion
  trigger := trigger
  flags := store.exported

def status (file : File) : Status :=
  if file.version = currentVersion then .ready else .otherVersion file.version

/-- The store of a save. Repeated and refused names make it fail. -/
def restore (file : File) : Except Failure Store :=
  (Store.ofSnapshotStrict file.flags).mapError fun error =>
    { contexts := ["restoring flags from save file"], cause := .rule error.message }

def printSnapshot (level : Nat) (flags : Snapshot) : List Char :=
  Ron.printRecord level [
    ("bools", Ron.printList (level + 1) (flags.bools.map Ron.printText)),
    ("ints", Ron.printList (level + 1) (flags.ints.map fun entry =>
      Ron.printPair (Ron.printText entry.1) (Ron.printInteger entry.2))),
    ("floats", Ron.printList (level + 1) (flags.floats.map fun entry =>
      Ron.printPair (Ron.printText entry.1) (Ron.printFloat entry.2))),
    ("strings", Ron.printList (level + 1) (flags.strings.map fun entry =>
      Ron.printPair (Ron.printText entry.1) (Ron.printText entry.2)))]

def document (file : File) : String :=
  String.ofList (Ron.printRecord 0 [
    ("version", Ron.printText file.version),
    ("saved_at_trigger", Ron.printOptionalText file.trigger),
    ("flags", printSnapshot 1 file.flags)])

def readSnapshot? (extensions : Extensions) : Decoder Snapshot := fun value => do
  let entries ← record? extensions "FlagSnapshot"
    ["bools", "ints", "floats", "strings"] value
  some {
    bools := ← defaulted? entries "bools" [] (list? text?)
    ints := ← defaulted? entries "ints" [] (list? (pair? text? Ron.integer?))
    floats := ← defaulted? entries "floats" [] (list? (pair? text? Ron.float?))
    strings := ← defaulted? entries "strings" [] (list? (pair? text? text?)) }

def readFile? (extensions : Extensions) : Decoder File := fun value => do
  let entries ← record? extensions "SaveFile"
    ["version", "saved_at_trigger", "flags"] value
  some {
    version := ← required? entries "version" text?
    trigger := ← defaulted? entries "saved_at_trigger" none
      (option? extensions Ron.nestingLimit text?)
    flags := ← required? entries "flags" (readSnapshot? extensions) }

def ofDocument (text : String) : Except Ron.Fault File :=
  Ron.decode readFile? text

def load (disk : Disk) (path : String) : Except Failure File := do
  let text ← doing ("reading save file " ++ path) (disk.readText path)
  (ofDocument text).mapError fun fault =>
    { contexts := ["parsing save file " ++ path], cause := .ron fault }

end File

def path (directory slot : String) : String :=
  Storage.join directory (fileName slot)

/-- Writes a store to a slot, making the directory if need be. The disk is as
far changed as the operation came. -/
def write
    (disk : Disk) (directory slot : String) (store : Store) (trigger : Option String) :
    Except Failure String × Disk :=
  let (made, prepared) := disk.ensureDirectory directory
  match doing ("creating save directory " ++ directory) made with
  | .error failure => (.error failure, prepared)
  | .ok _ =>
    let target := path directory slot
    match doing ("writing save file " ++ target)
        (prepared.writeText target (File.ofStore store trigger).document) with
    | .error failure => (.error failure, prepared)
    | .ok written => (.ok target, written)

end Colloquy.Save
