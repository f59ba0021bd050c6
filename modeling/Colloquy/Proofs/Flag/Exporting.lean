import Colloquy.Proofs.Flag.Rebuilding
import Colloquy.Proofs.Flag.TakingOver
import Colloquy.Proofs.Text.Bytes
import Mathlib.Data.List.Nodup

/-!
# Exporting stores

The export of a store lists each namespace in the order of the bytes of its
names, whatever the order in which the bindings are enumerated. Where operations
led to the store, names are trimmed and without operator characters, and texts
are trimmed, so that the export, taken over in either way, is the store again.
-/

namespace Colloquy.Flag

def byName {α : Type} (left right : String × α) : Bool :=
  decide (Text.bytes left.1 ≤ Text.bytes right.1)

def sortByName {α : Type} (entries : List (String × α)) : List (String × α) :=
  entries.mergeSort byName

private theorem perm_sortByName {α : Type} (entries : List (String × α)) :
    (sortByName entries).Perm entries :=
  List.mergeSort_perm entries byName

private theorem pairwise_sortByName {α : Type} (entries : List (String × α)) :
    (sortByName entries).Pairwise fun left right => Text.bytes left.1 ≤
      Text.bytes right.1 := by
  have transitive : ∀ first second third : String × α,
      byName first second = true → byName second third = true →
        byName first third = true := by
    intro first second third lower upper
    exact decide_eq_true
      (List.le_trans (of_decide_eq_true lower) (of_decide_eq_true upper))
  have total :
      ∀ left right : String × α, (byName left right || byName right left) = true := by
    intro left right
    simp only [byName, Bool.or_eq_true, decide_eq_true_eq]
    exact List.le_total _ _
  exact (List.pairwise_mergeSort transitive total entries).imp of_decide_eq_true

namespace Bindings

variable {α : Type} {bindings : Bindings α}

/-- A list of the bindings in any order, as a hash table may give it. -/
structure Enumerates
    (bindings : Bindings α) (enumerated : List (String × α)) : Prop where
  distinct : (enumerated.map (·.1)).Nodup
  mem_iff :
    ∀ name value, (name, value) ∈ enumerated ↔ bindings.find? name = some value

/-- A list of the bindings by increasing bytes of their names, which is what
sorting makes of any enumeration of them. -/
structure ListedAs (bindings : Bindings α) (listed : List (String × α)) : Prop where
  enumerates : bindings.Enumerates listed
  increasing :
    listed.Pairwise fun earlier later => Text.bytes earlier.1 < Text.bytes later.1
  sorted : ∀ enumerated, bindings.Enumerates enumerated → sortByName enumerated = listed

/-- Bindings are kept in byte order of their names. -/
theorem increasing_entries (bindings : Bindings α) :
    bindings.entries.Pairwise fun earlier later =>
      Text.bytes earlier.1 < Text.bytes later.1 :=
  bindings.sorted.imp Text.lt_iff_bytes_lt.1

private theorem mem_iff_findEntry_eq_some
    {entries : List (String × α)} {name : String} {value : α}
    (sorted : Sorted entries) :
    (name, value) ∈ entries ↔ findEntry name entries = some value := by
  induction entries with
  | nil =>
      simp [findEntry]
  | cons head tail inductionHypothesis =>
      obtain ⟨headBelow, tailSorted⟩ := List.pairwise_cons.1 sorted
      rw [List.mem_cons]
      by_cases same : head.1 = name
      · have notInTail : (name, value) ∉ tail := by
          intro inTail
          have less : head.1 < name := headBelow _ inTail
          rw [same] at less
          exact String.lt_irrefl _ less
        simp [findEntry, same, notInTail, Prod.ext_iff, eq_comm]
      · have notHead : (name, value) ≠ head := by
          rintro rfl
          exact same rfl
        rw [or_iff_right notHead, inductionHypothesis tailSorted]
        simp [findEntry, same]

/-- The entries of bindings enumerate them. -/
theorem enumerates_entries (bindings : Bindings α) :
    bindings.Enumerates bindings.entries where
  distinct := by
    apply List.pairwise_map.2
    apply bindings.sorted.imp
    intro earlier later less same
    rw [same] at less
    exact String.lt_irrefl _ less
  mem_iff name value := mem_iff_findEntry_eq_some bindings.sorted

/-- Any two enumerations of bindings list the same entries, in some order. -/
theorem Enumerates.perm
    {first second : List (String × α)}
    (enumeratesFirst : bindings.Enumerates first)
    (enumeratesSecond : bindings.Enumerates second) :
    first.Perm second := by
  have firstDistinct := List.Nodup.of_map _ enumeratesFirst.distinct
  have secondDistinct := List.Nodup.of_map _ enumeratesSecond.distinct
  apply (List.perm_ext_iff_of_nodup firstDistinct secondDistinct).2
  rintro ⟨name, value⟩
  rw [enumeratesFirst.mem_iff, enumeratesSecond.mem_iff]

/-- Sorted by name, two enumerations are the same: no two entries share a name. -/
theorem Enumerates.eq_of_sorted
    {first second : List (String × α)}
    (enumeratesFirst : bindings.Enumerates first)
    (enumeratesSecond : bindings.Enumerates second)
    (firstSorted : first.Pairwise fun left right => Text.bytes left.1 ≤
      Text.bytes right.1)
    (secondSorted : second.Pairwise fun left right => Text.bytes left.1 ≤
      Text.bytes right.1) :
    first = second := by
  refine List.Perm.eq_of_pairwise ?_ firstSorted secondSorted
    (enumeratesFirst.perm enumeratesSecond)
  rintro ⟨name, value⟩ ⟨other, otherValue⟩ inFirst inSecond below above
  obtain rfl : name = other := Text.eq_of_bytes_eq (List.le_antisymm below above)
  rw [enumeratesFirst.mem_iff] at inFirst
  rw [enumeratesSecond.mem_iff, inFirst] at inSecond
  rw [Option.some.inj inSecond]

private theorem Enumerates.sortByName
    {enumerated : List (String × α)}
    (enumerates : bindings.Enumerates enumerated) :
    bindings.Enumerates (sortByName enumerated) where
  distinct := by
    have sameNames := (perm_sortByName enumerated).map (·.1)
    exact sameNames.nodup_iff.2 enumerates.distinct
  mem_iff name value := by
    rw [← enumerates.mem_iff]
    exact (perm_sortByName enumerated).mem_iff

private theorem listedAs_entries (bindings : Bindings α) :
    bindings.ListedAs bindings.entries where
  enumerates := enumerates_entries bindings
  increasing := increasing_entries bindings
  sorted enumerated enumerates := by
    have entriesSorted := (increasing_entries bindings).imp List.le_of_lt
    exact enumerates.sortByName.eq_of_sorted (enumerates_entries bindings)
      (pairwise_sortByName enumerated) entriesSorted

end Bindings

namespace Store

structure ExportedExactly (store : Store) : Prop where
  tidy : store.Tidy
  bools : store.bools.ListedAs (store.exported.bools.map fun name => (name, ()))
  ints : store.ints.ListedAs store.exported.ints
  floats : store.floats.ListedAs store.exported.floats
  strings : store.strings.ListedAs store.exported.strings
  /-- Taken over by any store, the export makes it this one. -/
  takenOver : ∀ prior : Store, prior.apply (.takeOver store.exported) = store
  takenOverStrictly : ofSnapshotStrict store.exported = .ok store

/-- Whatever operations led to a store, its export is sorted and gives it back. -/
theorem export_gives_store_back (operations : List Operation) :
    ExportedExactly (after operations) := by
  have tidy := tidy_after operations
  have strictly := ofSnapshotStrict_exported tidy
  have leniently := ((settles_ofSnapshotStrict _).acceptable_of_eq_ok strictly).2
  refine {
    tidy
    bools := ?_
    ints := Bindings.listedAs_entries _
    floats := Bindings.listedAs_entries _
    strings := Bindings.listedAs_entries _
    takenOver := fun prior => leniently.symm
    takenOverStrictly := strictly }
  have sameEntries : (after operations).exported.bools.map (fun name => (name, ())) =
      (after operations).bools.entries := by
    simp [exported, Bindings.names, Function.comp_def]
  rw [sameEntries]
  exact Bindings.listedAs_entries _

end Store

end Colloquy.Flag
