import Colloquy.Save.File

/-!
# Save slots

The saves of a directory: found by file name, listed by slot and version, looked
up by slug, and described for the player, newest first.
-/

namespace Colloquy.Save

open Colloquy.Storage (Disk Item)

/-- Splits characters at the last occurrence of a separator. -/
def splitLast? (separator : List Char) : List Char → Option (List Char × List Char)
  | [] => none
  | c :: rest =>
    match splitLast? separator rest with
    | some (before, after) => some (c :: before, after)
    | none =>
      if separator.isPrefixOf (c :: rest) then
        some ([], (c :: rest).drop separator.length)
      else none

structure Slot where
  slot : String
  /-- The version that the file name tells. -/
  version : String
  path : String
  fileName : String
  /-- The time of its last change, in milliseconds. -/
  modified : Int
  deriving DecidableEq

def slotOfFileName? (name : String) : Option (String × String) :=
  if Storage.extension? name = some "ron" then
    match splitLast? separator.toList (Storage.stem name).toList with
    | some (slot, version) =>
      if slot.isEmpty then none else some (String.ofList slot, String.ofList version)
    | none => none
  else none

def slotOfItem? (directory : String) (entry : String × Item) : Option Slot :=
  match entry.2 with
  | .directory => none
  | .file _ modified =>
    (slotOfFileName? entry.1).map fun found => {
      slot := found.1
      version := found.2
      path := Storage.join directory entry.1
      fileName := entry.1
      modified }

/-- Whether a slot comes no later than another, by slot and then by version. -/
def Slot.notAfter (left right : Slot) : Bool :=
  left.slot < right.slot || (left.slot == right.slot && left.version ≤ right.version)

def slotsOfItems (directory : String) (items : List (String × Item)) : List Slot :=
  (items.filterMap (slotOfItem? directory)).mergeSort Slot.notAfter

/-- The saves of a directory; there are none in a missing one. -/
def slots (disk : Disk) (directory : String) : Except Failure (List Slot) :=
  if disk.exists? directory then do
    let items ← doing ("reading " ++ directory) (disk.list directory)
    return slotsOfItems directory items
  else .ok []

/-- The save of a slot among others: that of this version, or else the last. -/
def pick? (slot : String) (found : List Slot) : Option Slot :=
  let matching := found.filter fun entry => entry.slot = slug slot
  match matching.find? fun entry => entry.version = currentVersion with
  | some entry => some entry
  | none => matching.getLast?

def find? (disk : Disk) (directory slot : String) : Except Failure (Option Slot) := do
  return pick? slot (← slots disk directory)

/-- The elements of a list without those that equal the one before them. -/
def dropRepeats : List String → List String
  | [] => []
  | [name] => [name]
  | first :: second :: rest =>
    if first = second then
      dropRepeats (second :: rest)
    else
      first :: dropRepeats (second :: rest)

/-- The names of the slots of a directory; none if it cannot be read. -/
def slotNames (disk : Disk) (directory : String) : List String :=
  match slots disk directory with
  | .ok found => dropRepeats (found.map (·.slot))
  | .error _ => []

structure Entry where
  slot : String
  /-- The version that wrote it, as far as known. -/
  version : String
  path : String
  /-- The time of its last change, in milliseconds. -/
  modified : Int
  /-- The trigger of the dialogue that was open. -/
  trigger : Option String
  flagCount : Nat
  status : Status
  deriving DecidableEq

def messageLimit : Nat := 120

def trimMessage (message : String) : String :=
  let characters := message.toList
  if characters.length ≤ messageLimit then message
  else String.ofList (characters.take (messageLimit - 3) ++ ['.', '.', '.'])

def Slot.describe (disk : Disk) (slot : Slot) : Entry :=
  match File.load disk slot.path with
  | .ok file => {
      slot := slot.slot
      version := file.version
      path := slot.path
      modified := slot.modified
      trigger := file.trigger
      flagCount := file.flags.size
      status := file.status }
  | .error failure => {
      slot := slot.slot
      version := slot.version
      path := slot.path
      modified := slot.modified
      trigger := none
      flagCount := 0
      status := .corrupted (trimMessage failure.inline) }

/-- Whether a description comes no later than another: newer ones first, then by
slot. -/
def Entry.notAfter (left right : Entry) : Bool :=
  right.modified < left.modified ||
    (left.modified == right.modified && left.slot ≤ right.slot)

def entries (disk : Disk) (directory : String) : Except Failure (List Entry) := do
  return ((← slots disk directory).map (Slot.describe disk)).mergeSort Entry.notAfter

end Colloquy.Save
