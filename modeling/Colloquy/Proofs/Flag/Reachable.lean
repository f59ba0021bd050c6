import Colloquy.Flag.Store
import Colloquy.Proofs.Outcome
import Colloquy.Proofs.Text.Blank

/-!
# Reachable flag stores

The stores that any sequence of operations leads to. All of them are tidy: names
are trimmed and free of operator characters, and texts are trimmed.
-/

namespace Colloquy.Flag

open Colloquy.Number (Single)

inductive Operation where
  | clear
  | setBool (name : String)
  | setInt (name : String) (value : Int32)
  | setFloat (name : String) (value : Single)
  | setString (name : String) (value : String)
  | addInt (name : String) (delta : Int32)
  | addFloat (name : String) (delta : Single)
  | removeBool (name : String)
  | removeInt (name : String)
  | removeFloat (name : String)
  | removeString (name : String)
  /-- Replaces all flags by those of a snapshot, passing over what is refused. -/
  | takeOver (snapshot : Snapshot)
  /-- Replaces all flags by those of a snapshot, unless one is refused. -/
  | takeOverStrictly (snapshot : Snapshot)

namespace Store

/-- The store after an operation. A refused one changes nothing. -/
def apply (store : Store) : Operation → Store
  | .clear => empty
  | .setBool name => (store.setBool? name).getD store
  | .setInt name value => (store.setInt? name value).getD store
  | .setFloat name value => (store.setFloat? name value).getD store
  | .setString name value => (store.setString? name value).getD store
  | .addInt name delta => (store.addInt? name delta).getD store
  | .addFloat name delta => (store.addFloat? name delta).getD store
  | .removeBool name => store.removeBool name
  | .removeInt name => store.removeInt name
  | .removeFloat name => store.removeFloat name
  | .removeString name => store.removeString name
  | .takeOver snapshot => ofSnapshot snapshot
  | .takeOverStrictly snapshot => (ofSnapshotStrict snapshot).toOption.getD store

/-- The store after operations, from one without flags. -/
def after (operations : List Operation) : Store :=
  operations.foldl apply empty

end Store

/-- A trimmed name without operator characters. -/
structure IsKey (name : String) : Prop where
  trimmed : Text.trim name = name
  free : isName name = true

theorem isKey_trim {text : String} (free : isName (Text.trim text) = true) :
    IsKey (Text.trim text) :=
  ⟨Text.trim_trim text, free⟩

private theorem isKey_of_name?
    {text key : String} (isName : name? text = some key) : IsKey key := by
  simp only [name?] at isName
  split at isName
  · rename_i free
    rw [← Option.some.inj isName]
    exact isKey_trim free
  · cases isName

namespace Bindings

variable {α : Type} {allowed : α → Prop} {bindings : Bindings α}

/-- All names are keys, and all values are allowed. -/
def Tidy (allowed : α → Prop) (bindings : Bindings α) : Prop :=
  ∀ entry ∈ bindings.entries, IsKey entry.1 ∧ allowed entry.2

private theorem tidy_empty : (empty : Bindings α).Tidy allowed := by
  intro entry member
  cases member

/-- An insertion under a key keeps bindings tidy. -/
theorem Tidy.insert
    {name : String} {value : α}
    (tidy : bindings.Tidy allowed)
    (isKey : IsKey name)
    (isAllowed : allowed value) :
    (bindings.insert name value).Tidy allowed := by
  intro entry member
  rcases mem_insertEntry member with rfl | old
  · exact ⟨isKey, isAllowed⟩
  · exact tidy entry old

theorem Tidy.erase
    (tidy : bindings.Tidy allowed)
    (name : String) :
    (bindings.erase name).Tidy allowed :=
  fun entry member => tidy entry (List.mem_of_mem_filter member)

private theorem Tidy.of_bindStrictly
    {kind : Kind} {entries : List (String × α)} {bound : Bindings α}
    (tidy : bindings.Tidy allowed)
    (allAllowed : ∀ entry ∈ entries, allowed entry.2)
    (binds : Store.bindStrictly kind bindings entries = .ok bound) :
    bound.Tidy allowed := by
  induction entries generalizing bindings with
  | nil =>
      cases binds
      exact tidy
  | cons head tail inductionHypothesis =>
      simp only [Store.bindStrictly] at binds
      split at binds
      · cases binds
      · rename_i free
        have isKey : IsKey (Text.trim head.1) := isKey_trim (by simpa using free)
        split at binds
        · cases binds
        · exact inductionHypothesis
            (tidy.insert isKey (allAllowed head List.mem_cons_self))
            (fun entry member => allAllowed entry (List.mem_cons_of_mem _ member)) binds

end Bindings

/-! ## Tidy stores -/

namespace Store

/-- All names are keys, and texts are trimmed. -/
structure Tidy (store : Store) : Prop where
  bools : store.bools.Tidy fun _ => True
  ints : store.ints.Tidy fun _ => True
  floats : store.floats.Tidy fun _ => True
  strings : store.strings.Tidy fun value => Text.trim value = value

private theorem tidy_empty : empty.Tidy :=
  ⟨Bindings.tidy_empty, Bindings.tidy_empty, Bindings.tidy_empty, Bindings.tidy_empty⟩

variable {store : Store}

/-- Writing under a trimmed name keeps a store tidy if it does so for every key. -/
theorem Tidy.getD_map_name?
    {name : String} {write : String → Store}
    (tidy : store.Tidy)
    (written : ∀ key, IsKey key → (write key).Tidy) :
    (((name? name).map write).getD store).Tidy := by
  cases isName : name? name with
  | none =>
      exact tidy
  | some key =>
      exact written key (isKey_of_name? isName)

theorem Tidy.setBool (tidy : store.Tidy) (name : String) :
    ((store.setBool? name).getD store).Tidy := by
  apply tidy.getD_map_name?
  intro key isKey
  exact { tidy with bools := tidy.bools.insert isKey trivial }

theorem Tidy.setInt (tidy : store.Tidy) (name : String) (value : Int32) :
    ((store.setInt? name value).getD store).Tidy := by
  apply tidy.getD_map_name?
  intro key isKey
  exact { tidy with ints := tidy.ints.insert isKey trivial }

theorem Tidy.setFloat (tidy : store.Tidy) (name : String) (value : Single) :
    ((store.setFloat? name value).getD store).Tidy := by
  apply tidy.getD_map_name?
  intro key isKey
  exact { tidy with floats := tidy.floats.insert isKey trivial }

theorem Tidy.setString (tidy : store.Tidy) (name value : String) :
    ((store.setString? name value).getD store).Tidy := by
  apply tidy.getD_map_name?
  intro key isKey
  exact { tidy with strings := tidy.strings.insert isKey (Text.trim_trim _) }

/-- Adding to a number sets the number. -/
theorem addInt?_eq_setInt? (store : Store) (name : String) (delta : Int32) :
    ∃ value, store.addInt? name delta = store.setInt? name value := by
  unfold addInt? setInt?
  cases name? name with
  | none =>
      exact ⟨0, rfl⟩
  | some key =>
      exact ⟨Number.addClamped ((store.ints.find? key).getD 0) delta, by
        simp only [Option.map_some]⟩

private theorem addFloat?_eq_setFloat?
    (store : Store) (name : String) (delta : Single) :
    ∃ value, store.addFloat? name delta = store.setFloat? name value := by
  unfold addFloat? setFloat?
  cases name? name with
  | none =>
      exact ⟨.zero, rfl⟩
  | some key =>
      exact ⟨(store.floats.find? key).getD .zero + delta, by
        simp only [Option.map_some]⟩

/-- What each step keeps tidy, a run of steps keeps tidy. -/
theorem Tidy.foldl
    {α : Type} {step : Store → α → Store}
    (tidy : store.Tidy)
    (each : ∀ store : Store, store.Tidy → ∀ entry, (step store entry).Tidy)
    (entries : List α) :
    (entries.foldl step store).Tidy := by
  induction entries generalizing store with
  | nil =>
      exact tidy
  | cons entry entries inductionHypothesis =>
      exact inductionHypothesis (each store tidy entry)

private theorem tidy_ofSnapshot (snapshot : Snapshot) : (ofSnapshot snapshot).Tidy := by
  have bools := tidy_empty.foldl (fun _ tidy => tidy.setBool) snapshot.bools
  have ints := bools.foldl
    (fun _ tidy (entry : String × Int32) => tidy.setInt entry.1 entry.2) snapshot.ints
  have floats := ints.foldl
    (fun _ tidy (entry : String × Single) => tidy.setFloat entry.1 entry.2)
      snapshot.floats
  exact floats.foldl
    (fun _ tidy (entry : String × String) => tidy.setString entry.1 entry.2)
      snapshot.strings

private theorem tidy_of_ofSnapshotStrict
    {snapshot : Snapshot}
    (rebuilt : ofSnapshotStrict snapshot = .ok store) :
    store.Tidy := by
  unfold ofSnapshotStrict at rebuilt
  obtain ⟨bools, boolsBound, rebuilt⟩ := bind_eq_ok_iff.1 rebuilt
  obtain ⟨ints, intsBound, rebuilt⟩ := bind_eq_ok_iff.1 rebuilt
  obtain ⟨floats, floatsBound, rebuilt⟩ := bind_eq_ok_iff.1 rebuilt
  obtain ⟨strings, stringsBound, rebuilt⟩ := bind_eq_ok_iff.1 rebuilt
  cases rebuilt
  refine ⟨Bindings.tidy_empty.of_bindStrictly (fun _ _ => trivial) boolsBound,
    Bindings.tidy_empty.of_bindStrictly (fun _ _ => trivial) intsBound,
    Bindings.tidy_empty.of_bindStrictly (fun _ _ => trivial) floatsBound,
    Bindings.tidy_empty.of_bindStrictly (fun entry member => ?_) stringsBound⟩
  obtain ⟨original, _, rfl⟩ := List.mem_map.1 member
  exact Text.trim_trim original.2

/-- An operation keeps a store tidy. -/
theorem Tidy.apply (tidy : store.Tidy) (operation : Operation) :
    (store.apply operation).Tidy := by
  cases operation with
  | clear =>
      exact tidy_empty
  | setBool name =>
      exact tidy.setBool name
  | setInt name value =>
      exact tidy.setInt name value
  | setFloat name value =>
      exact tidy.setFloat name value
  | setString name value =>
      exact tidy.setString name value
  | addInt name delta =>
      obtain ⟨value, isSet⟩ := addInt?_eq_setInt? store name delta
      rw [Store.apply, isSet]
      exact tidy.setInt name value
  | addFloat name delta =>
      obtain ⟨value, isSet⟩ := addFloat?_eq_setFloat? store name delta
      rw [Store.apply, isSet]
      exact tidy.setFloat name value
  | removeBool name =>
      exact { tidy with bools := tidy.bools.erase (Text.trim name) }
  | removeInt name =>
      exact { tidy with ints := tidy.ints.erase (Text.trim name) }
  | removeFloat name =>
      exact { tidy with floats := tidy.floats.erase (Text.trim name) }
  | removeString name =>
      exact { tidy with strings := tidy.strings.erase (Text.trim name) }
  | takeOver snapshot =>
      exact tidy_ofSnapshot snapshot
  | takeOverStrictly snapshot =>
      rw [Store.apply]
      cases rebuilt : ofSnapshotStrict snapshot with
      | error =>
          exact tidy
      | ok other =>
          exact tidy_of_ofSnapshotStrict rebuilt

/-- Whatever operations made a store, it is tidy. -/
theorem tidy_after (operations : List Operation) : (after operations).Tidy :=
  tidy_empty.foldl (fun _ tidy => tidy.apply) operations

end Store

end Colloquy.Flag
