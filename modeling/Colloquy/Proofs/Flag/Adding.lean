import Colloquy.Effect
import Colloquy.Proofs.Flag.Naming
import Colloquy.Proofs.Number.Clamping

/-!
# Adding to integer flags

Additions to an integer flag never wrap around: each of them leaves the 32-bit
integer nearest to the exact sum. Where no partial sum leaves the range the flag
holds the exact total. Additions of one sign may be put in another order or
taken together.
-/

namespace Colloquy.Flag.Store

open Colloquy.Number

/-- The value of an integer flag, an absent one counting as zero. -/
def intOrZero (store : Store) (name : String) : Int32 :=
  (store.int? name).getD 0

/-- Adds integers to a flag one after another. -/
def addInts? (store : Store) (name : String) (deltas : List Int32) : Option Store :=
  deltas.foldlM (fun store delta => store.addInt? name delta) store

section

variable {name : String}

private theorem exists_addInt?_eq_some
    (free : isName name = true)
    (store : Store) (delta : Int32) :
    ∃ added, store.addInt? name delta = some added ∧
      added.int? name = some (addClamped (store.intOrZero name) delta) := by
  have isNamed : name? name = some (Text.trim name) := name?_eq_some_iff.2 ⟨free, rfl⟩
  rw [addInt?, isNamed, Option.map_some]
  refine ⟨_, rfl, ?_⟩
  rw [int?, Bindings.find?_insert_self, intOrZero, int?]

private theorem intOrZero_of_int?_eq_some
    {store : Store} {value : Int32}
    (found : store.int? name = some value) :
    store.intOrZero name = value := by
  rw [intOrZero, found, Option.getD_some]

private theorem addInts?_cons (store : Store) (delta : Int32) (deltas : List Int32) :
    store.addInts? name (delta :: deltas) =
      (store.addInt? name delta).bind fun added => added.addInts? name deltas :=
  List.foldlM_cons ..

private theorem addInts?_concat (store : Store) (deltas : List Int32) (delta : Int32) :
    store.addInts? name (deltas ++ [delta]) =
      (store.addInts? name deltas).bind fun reached => reached.addInt? name delta := by
  simp [addInts?, List.foldlM_append]

/-- Additions to a flag whose name is accepted all succeed. They sum up what it
held and what is added, clamping each sum. -/
theorem exists_addInts?_eq_some
    (free : isName name = true)
    (store : Store) (deltas : List Int32) :
    ∃ final, store.addInts? name deltas = some final ∧
      final.intOrZero name = sumClamped (store.intOrZero name) deltas := by
  induction deltas generalizing store with
  | nil =>
      exact ⟨store, rfl, rfl⟩
  | cons delta deltas inductionHypothesis =>
      obtain ⟨added, isAdded, value⟩ := exists_addInt?_eq_some free store delta
      obtain ⟨final, isFinal, total⟩ := inductionHypothesis added
      refine ⟨final, ?_, ?_⟩
      · rw [addInts?_cons, isAdded, Option.bind_some, isFinal]
      · rw [total, intOrZero_of_int?_eq_some value, sumClamped_cons]

/-- The effects of a choice that add to a flag are such additions. -/
theorem applyAll_addInt
    {store final : Store} {deltas : List Int32}
    (isFinal : store.addInts? name deltas = some final) :
    Effect.applyAll (deltas.map (Effect.addInt name)) store = final := by
  induction deltas generalizing store with
  | nil =>
      exact Option.some.inj isFinal
  | cons delta deltas inductionHypothesis =>
      rw [addInts?_cons] at isFinal
      obtain ⟨added, isAdded, remaining⟩ := Option.bind_eq_some_iff.1 isFinal
      have applied : (Effect.addInt name delta).apply store = added := by
        rw [Effect.apply, Effect.tryApply, isAdded, Option.getD_some]
      rw [List.map_cons, Effect.applyAll, List.foldl_cons, applied]
      exact inductionHypothesis remaining

private theorem exists_nearest_of_step
    (free : isName name = true)
    (store : Store) (front : List Int32) (delta : Int32) :
    ∃ before after value, store.addInts? name front = some before ∧
      store.addInts? name (front ++ [delta]) = some after ∧
      after.int? name = some value ∧
      IsNearest32 value ((before.intOrZero name).toInt + delta.toInt) := by
  obtain ⟨before, isBefore, -⟩ := exists_addInts?_eq_some free store front
  obtain ⟨after, isAfter, found⟩ := exists_addInt?_eq_some free before delta
  refine ⟨before, after, _, isBefore, ?_, found, isNearest32_addClamped _ _⟩
  rw [addInts?_concat, isBefore, Option.bind_some, isAfter]

end

/-- Additions to an integer flag succeed, whether made directly or as effects.
After each of them the flag holds the integer nearest to what it held before and
the summand. It ends at the exact total if no partial sum leaves the range. If
the summands have one sign it ends at the clamped total, also if they come in
another order or are replaced by sums of groups of them. -/
theorem additions_never_wrap
    {name : String}
    (free : isName name = true)
    (store : Store) (deltas : List Int32) :
    ∃ final, store.addInts? name deltas = some final ∧
      Effect.applyAll (deltas.map (Effect.addInt name)) store = final ∧
      (∀ front delta back, deltas = front ++ delta :: back →
        ∃ before after value, store.addInts? name front = some before ∧
          store.addInts? name (front ++ [delta]) = some after ∧
          after.int? name = some value ∧
          IsNearest32 value ((before.intOrZero name).toInt + delta.toInt)) ∧
      ((∀ front ∈ deltas.inits,
        InRange32 ((store.intOrZero name).toInt + exactSum front)) →
        (final.intOrZero name).toInt = (store.intOrZero name).toInt + exactSum deltas) ∧
      (OneSign deltas →
        (final.intOrZero name).toInt =
          clamp32 ((store.intOrZero name).toInt + exactSum deltas) ∧
        (∀ order, order.Perm deltas →
          ∃ other, store.addInts? name order = some other ∧
            other.intOrZero name = final.intOrZero name) ∧
        (∀ groups sums, groups.flatten.Perm deltas → SumsOf groups sums →
          ∃ other, store.addInts? name sums = some other ∧
            other.intOrZero name = final.intOrZero name)) := by
  obtain ⟨final, isFinal, total⟩ := exists_addInts?_eq_some free store deltas
  refine ⟨final, isFinal, applyAll_addInt isFinal, ?_, ?_, ?_⟩
  · intro front delta back split
    exact exists_nearest_of_step free store front delta
  · intro inRange
    rw [total, toInt_sumClamped_of_inRange32 inRange]
  · intro oneSign
    refine ⟨?_, ?_, ?_⟩
    · rw [total, toInt_sumClamped_of_oneSign oneSign]
    · intro order perm
      obtain ⟨other, isOther, otherTotal⟩ := exists_addInts?_eq_some free store order
      refine ⟨other, isOther, ?_⟩
      rw [otherTotal, total, sumClamped_of_perm oneSign perm]
    · intro groups sums perm sumsOf
      obtain ⟨other, isOther, otherTotal⟩ := exists_addInts?_eq_some free store sums
      refine ⟨other, isOther, ?_⟩
      rw [otherTotal, total, sumClamped_of_sumsOf (oneSign.of_perm perm) sumsOf,
        sumClamped_of_perm oneSign perm]

def purse : Store where
  ints := Bindings.empty.insert "gold" 7

/-- Sums that touch both ends of the range are exact. Behind an end they stay
there, and two of the summands may be taken together. -/
theorem additions_to_purse_never_wrap :
    isName " gold " = true ∧
      (∀ front ∈ [2147483640, -2147483648, -5].inits,
        InRange32 ((purse.intOrZero " gold ").toInt + exactSum front)) ∧
      (∃ final, purse.addInts? " gold " [2147483640, -2147483648, -5] = some final ∧
        (final.intOrZero " gold ").toInt = -6) ∧
      OneSign [3, 4, 2147483647] ∧
      SumsOf [[4, 3], [2147483647]] [7, 2147483647] ∧
      (∃ final, purse.addInts? " gold " [7, 2147483647] = some final ∧
        (final.intOrZero " gold ").toInt = 2147483647) := by
  have free : isName " gold " = true := by
    decide +kernel
  have inRange : ∀ front ∈ [2147483640, -2147483648, -5].inits,
      InRange32 ((purse.intOrZero " gold ").toInt + exactSum front) := by
    decide +kernel
  have oneSign : OneSign [3, 4, 2147483647] := by
    decide
  have perm : [[(4 : Int32), 3], [2147483647]].flatten.Perm [3, 4, 2147483647] :=
    .swap 3 4 [2147483647]
  have sumsOf : SumsOf [[4, 3], [2147483647]] [7, 2147483647] :=
    .cons (by decide) (.cons (by decide) .nil)
  obtain ⟨first, isFirst, -, -, unclamped, -⟩ :=
    additions_never_wrap free purse [2147483640, -2147483648, -5]
  obtain ⟨_, -, -, -, -, clamped⟩ := additions_never_wrap free purse [3, 4, 2147483647]
  obtain ⟨total, -, regrouped⟩ := clamped oneSign
  obtain ⟨other, isOther, same⟩ := regrouped _ _ perm sumsOf
  refine ⟨free, inRange, ⟨first, isFirst, ?_⟩, oneSign, sumsOf, other, isOther, ?_⟩
  · rw [unclamped inRange]
    decide +kernel
  · rw [same, total]
    decide +kernel

end Colloquy.Flag.Store
