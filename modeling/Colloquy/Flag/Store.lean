import Colloquy.Flag.Bindings
import Colloquy.Flag.Name
import Colloquy.Flag.Snapshot

/-!
# Flag stores

The state of the world as dialogues see it: presence flags, integers, numbers
and texts, each kind in a namespace of its own. Writers trim the name and
refuse, by `none`, a name with an operator character. A store exports to a
sorted snapshot and can be rebuilt from one, leniently or strictly.
-/

namespace Colloquy.Flag

open Colloquy.Number (Single)

structure Store where
  bools : Bindings Unit := .empty
  ints : Bindings Int32 := .empty
  floats : Bindings Single := .empty
  strings : Bindings String := .empty
  deriving DecidableEq, Inhabited

namespace Store

def empty : Store := {}

def isEmpty (store : Store) : Bool :=
  store.bools.isEmpty && store.ints.isEmpty && store.floats.isEmpty &&
    store.strings.isEmpty

def setBool? (store : Store) (name : String) : Option Store :=
  (name? name).map fun key => { store with bools := store.bools.insert key () }

def setInt? (store : Store) (name : String) (value : Int32) : Option Store :=
  (name? name).map fun key => { store with ints := store.ints.insert key value }

def setFloat? (store : Store) (name : String) (value : Single) : Option Store :=
  (name? name).map fun key => { store with floats := store.floats.insert key value }

/-- Sets a text flag to the trimmed text. -/
def setString? (store : Store) (name : String) (value : String) : Option Store :=
  (name? name).map fun key =>
    { store with strings := store.strings.insert key (Text.trim value) }

/-- Adds to an integer flag, an absent one counting as zero. The sum stays in range. -/
def addInt? (store : Store) (name : String) (delta : Int32) : Option Store :=
  (name? name).map fun key =>
    let sum := Number.addClamped ((store.ints.find? key).getD 0) delta
    { store with ints := store.ints.insert key sum }

/-- Adds to a number flag, an absent one counting as zero. -/
def addFloat? (store : Store) (name : String) (delta : Single) : Option Store :=
  (name? name).map fun key =>
    { store with
      floats := store.floats.insert key ((store.floats.find? key).getD .zero + delta) }

def removeBool (store : Store) (name : String) : Store :=
  { store with bools := store.bools.erase (Text.trim name) }

def removeInt (store : Store) (name : String) : Store :=
  { store with ints := store.ints.erase (Text.trim name) }

def removeFloat (store : Store) (name : String) : Store :=
  { store with floats := store.floats.erase (Text.trim name) }

def removeString (store : Store) (name : String) : Store :=
  { store with strings := store.strings.erase (Text.trim name) }

/-- Removes the flags of a name from every namespace. -/
def remove (store : Store) (name : String) : Store :=
  (((store.removeBool name).removeInt name).removeFloat name).removeString name

def hasBool (store : Store) (name : String) : Bool :=
  store.bools.contains (Text.trim name)

def int? (store : Store) (name : String) : Option Int32 :=
  store.ints.find? (Text.trim name)

def float? (store : Store) (name : String) : Option Single :=
  store.floats.find? (Text.trim name)

def string? (store : Store) (name : String) : Option String :=
  store.strings.find? (Text.trim name)

def sameFloats : List (String × Single) → List (String × Single) → Bool
  | [], [] => true
  | (leftName, left) :: leftRest, (rightName, right) :: rightRest =>
    leftName == rightName && left.same right && sameFloats leftRest rightRest
  | _, _ => false

/-- Whether two stores hold the same flags. Numbers are compared numerically, so
that a store with a NaN is not the same as itself. -/
def same (left right : Store) : Bool :=
  left.bools == right.bools && left.ints == right.ints &&
    sameFloats left.floats.entries right.floats.entries && left.strings == right.strings

/-- All flags in flat form, by increasing name. -/
def exported (store : Store) : Snapshot where
  bools := store.bools.names
  ints := store.ints.entries
  floats := store.floats.entries
  strings := store.strings.entries

/-- Replaces all flags by those of a snapshot. Entries with refused names are
passed over, and a later entry overrides an earlier one of the same name. -/
def ofSnapshot (snapshot : Snapshot) : Store :=
  let store :=
    snapshot.bools.foldl (fun store name => (store.setBool? name).getD store) empty
  let store := snapshot.ints.foldl
    (fun store entry => (store.setInt? entry.1 entry.2).getD store) store
  let store := snapshot.floats.foldl
    (fun store entry => (store.setFloat? entry.1 entry.2).getD store) store
  snapshot.strings.foldl
    (fun store entry => (store.setString? entry.1 entry.2).getD store) store

/-- Adds entries one by one, refusing operator characters and repeated names. -/
def bindStrictly {α : Type} (kind : Kind) (bindings : Bindings α) :
    List (String × α) → Except SnapshotError (Bindings α)
  | [] => .ok bindings
  | (name, value) :: rest =>
    let key := Text.trim name
    if !isName key then .error (.invalidName kind key)
    else if bindings.contains key then .error (.duplicateKey kind key)
    else bindStrictly kind (bindings.insert key value) rest

/-- The store of a snapshot, or the first offence in the order of kinds and entries. -/
def ofSnapshotStrict (snapshot : Snapshot) : Except SnapshotError Store := do
  let bools ← bindStrictly .bool .empty (snapshot.bools.map fun name => (name, ()))
  let ints ← bindStrictly .int .empty snapshot.ints
  let floats ← bindStrictly .float .empty snapshot.floats
  let strings ← bindStrictly .string .empty
    (snapshot.strings.map fun entry => (entry.1, Text.trim entry.2))
  return { bools, ints, floats, strings }

end Store

end Colloquy.Flag
