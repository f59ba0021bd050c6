import Colloquy.Proofs.Flag.Grammar
import Colloquy.Proofs.Number.Reading

/-!
# Comparing flags with literals

The literal of a comparison selects the namespace that is asked, so that the six
operators answer of the same two operands. Their answers then fit together, of
NaN too, and of texts equality alone is answered. After an integer has been set,
the answers are those of the integers.
-/

namespace Colloquy.Flag

open Text
open Colloquy.Number (Single readInt32? readFinite? showInt)

namespace Comparison

/-- The relation of integers that an operator states. -/
def Relates : Comparison → Int → Int → Prop
  | .equal, left, right => left = right
  | .notEqual, left, right => left ≠ right
  | .less, left, right => left < right
  | .greater, left, right => left > right
  | .atMost, left, right => left ≤ right
  | .atLeast, left, right => left ≥ right

instance (comparison : Comparison) (left right : Int) :
    Decidable (comparison.Relates left right) :=
  match comparison with
  | .equal => inferInstanceAs (Decidable (left = right))
  | .notEqual => inferInstanceAs (Decidable (left ≠ right))
  | .less => inferInstanceAs (Decidable (left < right))
  | .greater => inferInstanceAs (Decidable (left > right))
  | .atMost => inferInstanceAs (Decidable (left ≤ right))
  | .atLeast => inferInstanceAs (Decidable (left ≥ right))

/-- The relation of places on the extended line that an operator states. What
has no place there is unequal to everything and in no order with anything. -/
def RelatesPlaces (comparison : Comparison) : Option Int → Option Int → Prop
  | some left, some right => comparison.Relates left right
  | _, _ => comparison = .notEqual

variable {comparison : Comparison}

private theorem holds_iff_relates
    {same below above : Bool} {left right : Int}
    (isSame : same = true ↔ left = right)
    (isBelow : below = true ↔ left < right)
    (isAbove : above = true ↔ right < left) :
    comparison.holds same below above = true ↔ comparison.Relates left right := by
  cases comparison with
  | equal =>
      exact isSame
  | notEqual =>
      rw [holds, Bool.not_eq_true', ← Bool.not_eq_true]
      exact not_congr isSame
  | less =>
      exact isBelow
  | greater =>
      exact isAbove
  | atMost =>
      rw [holds, Bool.or_eq_true, isBelow, isSame]
      exact Int.le_iff_lt_or_eq.symm
  | atLeast =>
      rw [holds, Bool.or_eq_true, isAbove, isSame, Relates]
      omega

private theorem holdsInt_iff {left right : Int32} :
    comparison.holdsInt left right = true ↔
      comparison.Relates left.toInt right.toInt := by
  apply holds_iff_relates
  · rw [beq_iff_eq, Int32.toInt_inj]
  · rw [decide_eq_true_iff, Int32.lt_iff_toInt_lt]
  · rw [decide_eq_true_iff, Int32.lt_iff_toInt_lt]

private theorem holdsSingle_iff {left right : Single} :
    comparison.holdsSingle left right = true ↔
      comparison.RelatesPlaces left.position right.position := by
  unfold holdsSingle Single.same Single.below
  cases left.position with
  | none =>
      cases comparison with
      | _ =>
          simp [holds, RelatesPlaces]
  | some leftPlace =>
      cases right.position with
      | none =>
          cases comparison with
          | _ =>
              simp [holds, RelatesPlaces]
      | some rightPlace =>
          exact holds_iff_relates beq_iff_eq decide_eq_true_iff decide_eq_true_iff

/-- Each of the operators that are not strict joins two others, and inequality
is the negation of equality, whether or not the operands have places. -/
theorem relatesPlaces_laws (left right : Option Int) :
    (notEqual.RelatesPlaces left right ↔ ¬ equal.RelatesPlaces left right) ∧
    (atMost.RelatesPlaces left right ↔
      less.RelatesPlaces left right ∨ equal.RelatesPlaces left right) ∧
    (atLeast.RelatesPlaces left right ↔
      greater.RelatesPlaces left right ∨ equal.RelatesPlaces left right) := by
  cases left with
  | none =>
      simp [RelatesPlaces]
  | some leftPlace =>
      cases right with
      | none =>
          simp [RelatesPlaces]
      | some rightPlace =>
          refine ⟨Iff.rfl, Int.le_iff_lt_or_eq, ?_⟩
          simp only [RelatesPlaces, Relates]
          omega

private theorem eq_of_relates_of_relates
    {first second : Comparison} {left right : Int}
    (firstListed : first ∈ [less, equal, greater])
    (secondListed : second ∈ [less, equal, greater])
    (firstRelates : first.Relates left right)
    (secondRelates : second.Relates left right) :
    second = first := by
  simp only [List.mem_cons, List.not_mem_nil, or_false] at firstListed secondListed
  rcases firstListed with rfl | rfl | rfl
  · rcases secondListed with rfl | rfl | rfl
    · rfl
    · exact absurd secondRelates (Int.ne_of_lt firstRelates)
    · exact absurd secondRelates (Int.lt_asymm firstRelates)
  · rcases secondListed with rfl | rfl | rfl
    · exact absurd firstRelates (Int.ne_of_lt secondRelates)
    · rfl
    · exact absurd firstRelates.symm (Int.ne_of_lt secondRelates)
  · rcases secondListed with rfl | rfl | rfl
    · exact absurd secondRelates (Int.lt_asymm firstRelates)
    · exact absurd secondRelates.symm (Int.ne_of_lt firstRelates)
    · rfl

/-- Two integers are below, equal or above, and only one of these. -/
theorem existsUnique_relates (left right : Int) :
    ∃! comparison, comparison ∈ [less, equal, greater] ∧
      comparison.Relates left right := by
  obtain ⟨comparison, listed, related⟩ :
      ∃ comparison ∈ [less, equal, greater], comparison.Relates left right := by
    rcases Int.lt_trichotomy left right with below | same | above
    · exact ⟨less, by simp, below⟩
    · exact ⟨equal, by simp, same⟩
    · exact ⟨greater, by simp, above⟩
  exact ⟨comparison, ⟨listed, related⟩, fun other otherRelates =>
    eq_of_relates_of_relates listed otherRelates.1 related otherRelates.2⟩

end Comparison

/-- The namespace that a comparison of a key with a literal asks: that of
integers or of numbers, if the literal is one and the key is bound there, and
that of texts only if the literal is neither. -/
def Store.selected? (store : Store) (key value : String) : Option Kind :=
  if (readInt32? value).isSome ∧ (store.int? key).isSome then some .int
  else if (readFinite? value).isSome ∧ (store.float? key).isSome then some .float
  else
    if (readInt32? value).isNone ∧ (readFinite? value).isNone ∧
      (store.string? key).isSome then
    some .string
  else none

/-- What a comparison of a key with a literal, written without blanks, answers. -/
def Store.asks (store : Store) (key value : String) (comparison : Comparison) : Bool :=
  store.hasFlag (key ++ comparison.symbol ++ value)

/-- What the answers of the six operators are about, by the namespace that is asked. -/
inductive Settled (answers : Comparison → Bool) : Option Kind → Prop
  | nothing
      (refused : ∀ comparison, answers comparison = false) :
      Settled answers none
  | int
      (left right : Int)
      (related : ∀ comparison, answers comparison = true ↔
        comparison.Relates left right) :
      Settled answers (some .int)
  | float
      (left right : Option Int)
      (related : ∀ comparison, answers comparison = true ↔
        comparison.RelatesPlaces left right) :
      Settled answers (some .float)
  | string
      (left right : String)
      (compared : ∀ comparison, answers comparison = comparison.holdsText left right) :
      Settled answers (some .string)

section

variable {store : Store} {key value : String}

namespace Expression

/-- Integers are asked first. -/
theorem compareFlag_of_int
    {left right : Int32}
    (asInt : readInt32? value = some right)
    (isInt : store.int? key = some left)
    (comparison : Comparison) :
    compareFlag store key comparison value = comparison.holdsInt left right := by
  simp [compareFlag, asInt, isInt]

/-- Numbers are asked if no integer can answer. -/
theorem compareFlag_of_float
    {left right : Single}
    (notInt : ¬ ((readInt32? value).isSome ∧ (store.int? key).isSome))
    (asFloat : readFinite? value = some right)
    (isFloat : store.float? key = some left)
    (comparison : Comparison) :
    compareFlag store key comparison value = comparison.holdsSingle left right := by
  cases asInt : readInt32? value with
  | none =>
      simp [compareFlag, asInt, asFloat, isFloat]
  | some literal =>
      cases isInt : store.int? key with
      | none =>
          simp [compareFlag, asInt, isInt, asFloat, isFloat]
      | some stored =>
          exact absurd (by simp [asInt, isInt]) notInt

/-- Texts are asked if the literal is no number at all. -/
theorem compareFlag_of_string
    {left : String}
    (notInt : readInt32? value = none)
    (notFloat : readFinite? value = none)
    (isString : store.string? key = some left)
    (comparison : Comparison) :
    compareFlag store key comparison value = comparison.holdsText left value := by
  simp [compareFlag, notInt, notFloat, isString]

private theorem compareFlag_of_nothing
    (notInt : ¬ ((readInt32? value).isSome ∧ (store.int? key).isSome))
    (notFloat : ¬ ((readFinite? value).isSome ∧ (store.float? key).isSome))
    (notString : ¬ ((readInt32? value).isNone ∧ (readFinite? value).isNone ∧
      (store.string? key).isSome))
    (comparison : Comparison) :
    compareFlag store key comparison value = false := by
  unfold compareFlag
  split
  · rename_i asInt isInt
    exact absurd (by simp [asInt, isInt]) notInt
  · split
    · rename_i asFloat isFloat
      exact absurd (by simp [asFloat, isFloat]) notFloat
    · split
      · rename_i asInt asFloat isString
        exact absurd (by simp [asInt, asFloat, isString]) notString
      · rfl

end Expression

private theorem settled_compareFlag (store : Store) (key value : String) :
    Settled (Expression.compareFlag store key · value) (store.selected? key value) := by
  unfold Store.selected?
  split
  · rename_i asksInt
    obtain ⟨right, asInt⟩ := Option.isSome_iff_exists.1 asksInt.1
    obtain ⟨left, isInt⟩ := Option.isSome_iff_exists.1 asksInt.2
    refine .int left.toInt right.toInt fun comparison => ?_
    rw [Expression.compareFlag_of_int asInt isInt]
    exact Comparison.holdsInt_iff
  · rename_i notInt
    split
    · rename_i asksFloat
      obtain ⟨right, asFloat⟩ := Option.isSome_iff_exists.1 asksFloat.1
      obtain ⟨left, isFloat⟩ := Option.isSome_iff_exists.1 asksFloat.2
      refine .float left.position right.position fun comparison => ?_
      rw [Expression.compareFlag_of_float notInt asFloat isFloat]
      exact Comparison.holdsSingle_iff
    · rename_i notFloat
      split
      · rename_i asksString
        obtain ⟨left, isString⟩ := Option.isSome_iff_exists.1 asksString.2.2
        exact .string left value (Expression.compareFlag_of_string
          (Option.isNone_iff_eq_none.1 asksString.1)
          (Option.isNone_iff_eq_none.1 asksString.2.1) isString)
      · rename_i notString
        exact .nothing (Expression.compareFlag_of_nothing notInt notFloat notString)

private theorem settled_asks
    (isKey : IsOperand key)
    (isValue : IsOperand value)
    (store : Store) :
    Settled (store.asks key value) (store.selected? key value) := by
  have asked : store.asks key value = (Expression.compareFlag store key · value) := by
    funext comparison
    rw [Store.asks, Store.hasFlag, Expression.read?_of_operands isKey isValue]
    rfl
  rw [asked]
  exact settled_compareFlag store key value

end

/-! ## How the answers fit together -/

/-- The answers to the six operators between a key and a literal fit together.
If no namespace is asked, all of them are no. Otherwise either equality or
inequality holds. Of numbers, NaN and infinities included, the operators that
are not strict join two others; of integers exactly one of the strict ones and
equality holds; of texts no order does. -/
theorem comparisons_are_coherent
    {key value : String}
    (isKey : IsOperand key)
    (isValue : IsOperand value)
    (store : Store) :
    (store.selected? key value = none →
      ∀ comparison, store.asks key value comparison = false) ∧
    (store.selected? key value ≠ none →
      (store.asks key value .notEqual = true ↔ ¬ store.asks key value .equal = true)) ∧
    (store.selected? key value = some .int ∨ store.selected? key value = some .float →
      (store.asks key value .atMost = true ↔
        store.asks key value .less = true ∨ store.asks key value .equal = true) ∧
      (store.asks key value .atLeast = true ↔
        store.asks key value .greater = true ∨ store.asks key value .equal = true)) ∧
    (store.selected? key value = some .int →
      ∃! comparison, comparison ∈ [.less, .equal, .greater] ∧
        store.asks key value comparison = true) ∧
    (store.selected? key value = some .string →
      ∀ comparison ∈ [.less, .greater, .atMost, .atLeast],
        store.asks key value comparison = false) := by
  have settled := settled_asks isKey isValue store
  generalize store.asks key value = answers at *
  generalize store.selected? key value = kind at *
  cases settled with
  | nothing refused =>
      exact ⟨fun _ => refused, fun some => absurd rfl some, by simp, by simp, by simp⟩
  | int left right related =>
      have laws := Comparison.relatesPlaces_laws (some left) (some right)
      simp only [related]
      exact ⟨by simp, fun _ => laws.1, fun _ => laws.2,
        fun _ => Comparison.existsUnique_relates left right, by simp⟩
  | float left right related =>
      have laws := Comparison.relatesPlaces_laws left right
      simp only [related]
      exact ⟨by simp, fun _ => laws.1, fun _ => laws.2, by simp, by simp⟩
  | string left right compared =>
      simp only [compared]
      refine ⟨by simp, fun _ => ?_, by simp, by simp, fun _ => ?_⟩
      · simp [Comparison.holdsText]
      · simp [Comparison.holdsText]

/-- The odds are NaN as a number, and one as a text. -/
def unknownOdds : Store where
  floats := Bindings.empty.insert "odds" .nan
  strings := Bindings.empty.insert "odds" "1"

/-- A stored NaN is unequal to a number and in no order with it. -/
theorem comparisons_of_unknownOdds :
    unknownOdds.selected? "odds" "1" = some .float ∧
      unknownOdds.asks "odds" "1" .notEqual = true ∧
      unknownOdds.asks "odds" "1" .atMost = false := by
  have isKey : IsOperand "odds" := ⟨⟨by decide +kernel, by decide +kernel⟩, by decide⟩
  have isValue : IsOperand "1" := ⟨⟨by decide +kernel, by decide +kernel⟩, by decide⟩
  have selected : unknownOdds.selected? "odds" "1" = some .float := by
    decide +kernel
  have notEqual : unknownOdds.asks "odds" "1" .equal = false := by
    decide +kernel
  have notLess : unknownOdds.asks "odds" "1" .less = false := by
    decide +kernel
  have laws := comparisons_are_coherent isKey isValue unknownOdds
  have different := (laws.2.1 (by simp [selected])).2 (by simp [notEqual])
  have atMost := (laws.2.2.1 (.inr selected)).1
  exact ⟨selected, different, by simpa [notEqual, notLess] using atMost⟩

namespace Store

variable {store written : Store} {name : String}

private theorem int?_trim (store : Store) (name : String) :
    store.int? (trim name) = store.int? name := by
  rw [int?, int?, trim_trim]

theorem int?_of_setInt?
    {value : Int32}
    (isSet : store.setInt? name value = some written) :
    written.int? name = some value := by
  obtain ⟨-, rfl⟩ := of_map_name?_eq_some isSet
  simp [int?]

theorem float?_of_setFloat?
    {value : Single}
    (isSet : store.setFloat? name value = some written) :
    written.float? name = some value := by
  obtain ⟨-, rfl⟩ := of_map_name?_eq_some isSet
  simp [float?]

theorem string?_of_setString?
    {value : String}
    (isSet : store.setString? name value = some written) :
    written.string? name = some (trim value) := by
  obtain ⟨-, rfl⟩ := of_map_name?_eq_some isSet
  simp [string?]

end Store

/-! ## Integers in decimal text -/

private theorem isName_showInt (value : Int) : isName (showInt value) = true := by
  refine isName_iff_forall.2 fun c member => ?_
  rcases Number.isDigit_or_eq_minus_of_mem_showInt member with digit | rfl
  · have notOperator : ∀ other, Number.isDigit other = false → c ≠ other :=
      fun other => Number.ne_of_isDigit digit
    simp [isOperatorChar, notOperator '>' (by decide), notOperator '<' (by decide),
      notOperator '=' (by decide), notOperator '!' (by decide)]
  · decide

private theorem trim_showInt (value : Int) : trim (showInt value) = showInt value := by
  refine trim_of_solid fun c member => ?_
  rcases Number.isDigit_or_eq_minus_of_mem_showInt member with digit | rfl
  · exact Number.isBlank_of_isDigit digit
  · decide

private theorem trim_showInt_ne_empty (value : Int) : trim (showInt value) ≠ "" := by
  rw [trim_showInt, showInt, Ne, ← String.toList_inj, String.toList_ofList]
  simp [Number.digitsOf_ne_nil]

/-- After an integer has been set, comparing its name with the decimal text of
another answers how the two integers compare, whatever blanks stand around the
name, the operator and the text, and whatever else the store holds. -/
theorem hasFlag_after_setting_integer
    {name : String}
    (free : isName name = true)
    (shows : trim name ≠ "")
    {front afterName beforeText back : String}
    (blank : ∀ gap ∈ [front, afterName, beforeText, back], ∀ c ∈ gap.toList,
      isBlank c = true)
    (store : Store)
    (stored literal : Int32)
    (comparison : Comparison) :
    ∃ written, store.setInt? name stored = some written ∧
      (written.hasFlag (front ++ name ++ afterName ++ comparison.symbol ++ beforeText ++
        showInt literal.toInt ++ back) = true ↔
        comparison.Relates stored.toInt literal.toInt) := by
  have isNamed : name? name = some (trim name) := name?_eq_some_iff.2 ⟨free, rfl⟩
  have isSet : store.setInt? name stored =
      some { store with ints := store.ints.insert (trim name) stored } := by
    rw [Store.setInt?, isNamed, Option.map_some]
  refine ⟨_, isSet, ?_⟩
  have isInt := Store.int?_of_setInt? isSet
  rw [← Store.int?_trim] at isInt
  have isRead :=
    Expression.read?_of_spaced blank free shows (isName_showInt literal.toInt)
    (trim_showInt_ne_empty literal.toInt) comparison
  rw [Store.hasFlag, isRead, trim_showInt]
  simp only [Expression.holds]
  rw [Expression.compareFlag_of_int (Number.readInt32?_showInt literal) isInt]
  exact Comparison.holdsInt_iff

/-- The least integer is at most itself, beside a number, a text and a presence
flag of its name. -/
theorem hasFlag_after_setting_least_integer :
    ∃ written, ({
        bools := Bindings.empty.insert "deep well" (),
        floats := Bindings.empty.insert "deep well" .nan,
        strings := Bindings.empty.insert "deep well" "dry" } : Store).setInt?
          " deep well" (-2147483648) = some written ∧
      written.hasFlag "\t deep well\u3000<= -2147483648 " = true := by
  have allBlank :
      (["\t", "\u3000", " ", " "].all fun gap => gap.toList.all isBlank) = true := by
    decide +kernel
  obtain ⟨written, isSet, holdsIff⟩ := hasFlag_after_setting_integer
    (show isName " deep well" = true by decide +kernel)
    (show trim " deep well" ≠ "" by decide +kernel)
    (fun gap member => List.all_eq_true.1 (List.all_eq_true.1 allBlank gap member))
    _ (-2147483648) (-2147483648) .atMost
  refine ⟨written, isSet, ?_⟩
  have text : "\t deep well\u3000<= -2147483648 " = "\t" ++ " deep well" ++ "\u3000" ++
      Comparison.atMost.symbol ++ " " ++ showInt (-2147483648 : Int32).toInt ++
        " " := by
    decide +kernel
  rw [text]
  exact holdsIff.2 (by decide)

end Colloquy.Flag
