import Colloquy.Proofs.Outcome
import Colloquy.Proofs.Flag.TakingOver

/-!
# How many flags there are

An insertion under a name that is not bound adds one binding. A snapshot that is
taken over strictly repeats no name, so that the store has a flag for each of
its entries.
-/

namespace Colloquy.Flag

private theorem length_insertEntry_of_findEntry_eq_none
    {α : Type} {name : String} {value : α} {entries : List (String × α)}
    (new : findEntry name entries = none) :
    (insertEntry name value entries).length = entries.length + 1 := by
  induction entries with
  | nil =>
      rfl
  | cons head tail inductionHypothesis =>
      have different : ¬ head.1 = name := by
        intro same
        simp [findEntry, same] at new
      have newInTail : findEntry name tail = none := by
        simpa [findEntry, different] using new
      rw [insertEntry]
      split
      · rfl
      · rw [if_neg (Ne.symm different), List.length_cons, inductionHypothesis newInTail,
          List.length_cons]

namespace Bindings

variable {α : Type} {bindings : Bindings α}

private theorem size_insert_of_not_contains
    {name : String}
    (new : ¬ bindings.contains name = true)
    (value : α) :
    (bindings.insert name value).size = bindings.size + 1 := by
  apply length_insertEntry_of_findEntry_eq_none
  simpa [contains, find?] using new

private theorem size_of_bindStrictly
    {kind : Kind} {entries : List (String × α)} {bound : Bindings α}
    (binds : Store.bindStrictly kind bindings entries = .ok bound) :
    bound.size = bindings.size + entries.length := by
  induction entries generalizing bindings with
  | nil =>
      cases binds
      rfl
  | cons head tail inductionHypothesis =>
      simp only [Store.bindStrictly] at binds
      split at binds
      · cases binds
      · split at binds
        · cases binds
        · rename_i new
          rw [inductionHypothesis binds, size_insert_of_not_contains new,
            List.length_cons]
          omega

end Bindings

namespace Store

def size (store : Store) : Nat :=
  store.bools.size + store.ints.size + store.floats.size + store.strings.size

/-- A store that was rebuilt strictly has as many flags as its snapshot has entries. -/
theorem size_of_ofSnapshotStrict
    {snapshot : Snapshot} {store : Store}
    (rebuilt : ofSnapshotStrict snapshot = .ok store) :
    store.size = snapshot.size := by
  unfold ofSnapshotStrict at rebuilt
  obtain ⟨bools, boolsBound, rebuilt⟩ := bind_eq_ok_iff.1 rebuilt
  obtain ⟨ints, intsBound, rebuilt⟩ := bind_eq_ok_iff.1 rebuilt
  obtain ⟨floats, floatsBound, rebuilt⟩ := bind_eq_ok_iff.1 rebuilt
  obtain ⟨strings, stringsBound, rebuilt⟩ := bind_eq_ok_iff.1 rebuilt
  cases rebuilt
  have noneBound : ∀ {β : Type}, (Bindings.empty : Bindings β).size = 0 := rfl
  simp only [size, Snapshot.size, Bindings.size_of_bindStrictly boolsBound,
    Bindings.size_of_bindStrictly intsBound, Bindings.size_of_bindStrictly floatsBound,
    Bindings.size_of_bindStrictly stringsBound, noneBound, List.length_map,
      Nat.zero_add]

end Store

end Colloquy.Flag
