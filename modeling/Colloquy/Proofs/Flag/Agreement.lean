import Colloquy.Effect
import Colloquy.Flag.Expression

/-!
# Stores that agree on a name

Two stores agree on a name if it has the same value in each namespace. Whether
an expression holds rests on the name that it asks for alone, and stores that
agree on a name go on doing so whatever effects are applied to both.
-/

namespace Colloquy.Flag

open Colloquy.Number (Single)

namespace Bindings

variable {α : Type} {left right : Bindings α} {name other : String}
  {value otherValue : α}

private theorem find?_insert_congr
    (same : left.find? other = right.find? other)
    (sameValue : other = name → value = otherValue) :
    (left.insert name value).find? other =
      (right.insert name otherValue).find? other := by
  by_cases equal : other = name
  · rw [equal, find?_insert_self, find?_insert_self, sameValue equal]
  · rw [find?_insert_of_ne left value equal, find?_insert_of_ne right otherValue equal,
      same]

private theorem contains_insert_congr
    (same : left.contains other = right.contains other) :
    (left.insert name value).contains other =
      (right.insert name value).contains other := by
  by_cases equal : other = name
  · rw [contains, contains, equal, find?_insert_self, find?_insert_self]
  · rw [contains, contains, find?_insert_of_ne left value equal,
      find?_insert_of_ne right value equal]
    exact same

end Bindings

namespace Store

/-- A name has the same value in each namespace of two stores. -/
structure AgreeOn (name : String) (left right : Store) : Prop where
  bool : left.hasBool name = right.hasBool name
  int : left.int? name = right.int? name
  float : left.float? name = right.float? name
  string : left.string? name = right.string? name

instance (name : String) (left right : Store) : Decidable (AgreeOn name left right) :=
  decidable_of_iff
    (left.hasBool name = right.hasBool name ∧ left.int? name = right.int? name ∧
      left.float? name = right.float? name ∧ left.string? name = right.string? name)
    ⟨fun ⟨bool, int, float, string⟩ => ⟨bool, int, float, string⟩,
      fun agree => ⟨agree.bool, agree.int, agree.float, agree.string⟩⟩

variable {name : String} {left right : Store}

private theorem AgreeOn.insertInt
    (agree : AgreeOn name left right)
    {key : String} {value otherValue : Int32}
    (sameValue : Text.trim name = key → value = otherValue) :
    AgreeOn name { left with ints := left.ints.insert key value }
      { right with ints := right.ints.insert key otherValue } :=
  { agree with int := Bindings.find?_insert_congr agree.int sameValue }

private theorem AgreeOn.insertFloat
    (agree : AgreeOn name left right)
    {key : String} {value otherValue : Single}
    (sameValue : Text.trim name = key → value = otherValue) :
    AgreeOn name { left with floats := left.floats.insert key value }
      { right with floats := right.floats.insert key otherValue } :=
  { agree with float := Bindings.find?_insert_congr agree.float sameValue }

/-- Both stores are written to or neither, since a name is refused without a
look at the store. -/
theorem AgreeOn.getD_map_name?
    {text : String} {write otherWrite : String → Store}
    (agree : AgreeOn name left right)
    (written : ∀ key, AgreeOn name (write key) (otherWrite key)) :
    AgreeOn name (((name? text).map write).getD left)
      (((name? text).map otherWrite).getD right) := by
  cases name? text with
  | none =>
      exact agree
  | some key =>
      exact written key

/-- One effect on both stores keeps their agreement. An addition reads the old
value, but only under the name that it writes. -/
theorem AgreeOn.apply
    (agree : AgreeOn name left right) (effect : Effect) :
    AgreeOn name (effect.apply left) (effect.apply right) := by
  cases effect with
  | setBool text =>
      simp only [Effect.apply, Effect.tryApply, setBool?]
      apply agree.getD_map_name?
      intro key
      exact { agree with bool := Bindings.contains_insert_congr agree.bool }
  | setInt text value =>
      simp only [Effect.apply, Effect.tryApply, setInt?]
      apply agree.getD_map_name?
      intro key
      exact agree.insertInt fun _ => rfl
  | addInt text delta =>
      simp only [Effect.apply, Effect.tryApply, addInt?]
      apply agree.getD_map_name?
      intro key
      apply agree.insertInt
      intro written
      have sameOld : left.ints.find? key = right.ints.find? key := written ▸ agree.int
      rw [sameOld]
  | setFloat text value =>
      simp only [Effect.apply, Effect.tryApply, setFloat?]
      apply agree.getD_map_name?
      intro key
      exact agree.insertFloat fun _ => rfl
  | addFloat text delta =>
      simp only [Effect.apply, Effect.tryApply, addFloat?]
      apply agree.getD_map_name?
      intro key
      apply agree.insertFloat
      intro written
      have sameOld : left.floats.find? key = right.floats.find? key :=
        written ▸ agree.float
      rw [sameOld]
  | setString text value =>
      simp only [Effect.apply, Effect.tryApply, setString?]
      apply agree.getD_map_name?
      intro key
      exact { agree with string := Bindings.find?_insert_congr agree.string fun _ =>
        rfl }

/-- Stores that agree on a name still do after the same effects. -/
theorem AgreeOn.applyAll
    (agree : AgreeOn name left right) (effects : List Effect) :
    AgreeOn name (Effect.applyAll effects left) (Effect.applyAll effects right) := by
  induction effects generalizing left right with
  | nil =>
      exact agree
  | cons effect rest inductionHypothesis =>
      exact inductionHypothesis (agree.apply effect)

end Store

/-- The name that an expression asks for: that of a presence flag, or the key of
a comparison. -/
def Expression.name : Expression → String
  | .presence name => name
  | .compare key _ _ => key

section

variable {left right : Store}

private theorem Expression.holds_congr
    {expression : Expression}
    (agree : Store.AgreeOn expression.name left right) :
    expression.holds left = expression.holds right := by
  cases expression with
  | presence name =>
      exact agree.bool
  | compare key comparison value =>
      have sameInt : left.int? key = right.int? key := agree.int
      have sameFloat : left.float? key = right.float? key := agree.float
      have sameString : left.string? key = right.string? key := agree.string
      rw [Expression.holds, Expression.holds, compareFlag, compareFlag, sameInt,
        sameFloat, sameString]

/-- The answer to an expression depends on the flags of its name only. -/
theorem Store.hasFlag_congr
    {text : String}
    (agree : ∀ expression, Expression.read? text = some expression →
      AgreeOn expression.name left right) :
    left.hasFlag text = right.hasFlag text := by
  unfold Store.hasFlag
  cases read : Expression.read? text with
  | none =>
      rfl
  | some expression =>
      exact Expression.holds_congr (agree expression read)

end

end Colloquy.Flag
