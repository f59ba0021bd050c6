import Colloquy.Proofs.Condition.Value
import Colloquy.Proofs.Script.Validation

/-!
# Checked conditions

A condition that validation lets pass has its plain value under every look-up,
so neither stopping early nor the limit on nesting can be observed. Of any other
condition that comes to a value, that value does not rest on what has none.
-/

namespace Colloquy.Condition

open Colloquy.Script (Clear Gate checkCondition)

/-- Evaluation comes to the plain value: always if the tree was checked, and
otherwise whenever it comes to a value, whatever the subtrees without a value
count as. -/
theorem evaluation_agrees_with_plainValue
    (choice : String) (gate : Gate) (lookup : String → Bool) (tree : Condition) :
    (Clear (checkCondition choice gate tree) →
      evaluate? lookup (some tree) = .ok (plainValue lookup tree) ∧
        evaluate lookup (some tree) = plainValue lookup tree) ∧
      ∀ value, evaluate? lookup (some tree) = .ok value →
        ∀ overrides : Overrides, overrides.FillGaps 1 tree →
          valueUnder lookup overrides tree = value := by
  constructor
  · intro clear
    have sound : Sound tree := Script.clear_checkCondition_iff.1 clear
    obtain ⟨value, outcome⟩ := sound.exists_value lookup
    have evaluated : evaluate? lookup (some tree) = .ok (plainValue lookup tree) := by
      rw [plainValue_eq_of_outcome outcome]
      exact outcome
    refine ⟨evaluated, ?_⟩
    simp only [evaluate, evaluated]
  · intro value evaluated overrides fills
    exact valueUnder_eq_of_outcome evaluated fills

def onlyMet (text : String) : Bool := text == "met"

def ignoredEmptyNegation : Condition :=
  .negation [.any [.flag " lost ", .flag "gone"], .negation []]

def unreachedEmptyNegation : Condition :=
  .any [.flag " met", .negation []]

def secondIsFalse : Overrides :=
  fun position => if position = [1] then some false else none

private theorem secondIsFalse_fillGaps :
    secondIsFalse.FillGaps 1 unreachedEmptyNegation := by
  intro position assigned
  by_cases second : position = [1]
  · rw [second]
    exact Or.inr rfl
  · simp [secondIsFalse, second] at assigned

/-- An ignored part of a negation may be empty, and an empty negation that is
never reached may count as false. -/
theorem plainValue_of_ignored_and_unreached_parts :
    (Clear (checkCondition "leave" .visible ignoredEmptyNegation) ∧
      evaluate? onlyMet (some ignoredEmptyNegation) =
        .ok (plainValue onlyMet ignoredEmptyNegation)) ∧
      evaluate? onlyMet (some unreachedEmptyNegation) = .ok true ∧
        secondIsFalse.FillGaps 1 unreachedEmptyNegation ∧
          valueUnder onlyMet secondIsFalse unreachedEmptyNegation = true := by
  have clear : Clear (checkCondition "leave" .visible ignoredEmptyNegation) := by
    decide
  have evaluated : evaluate? onlyMet (some unreachedEmptyNegation) = .ok true := by
    rfl
  have checked :=
    evaluation_agrees_with_plainValue "leave" .visible onlyMet ignoredEmptyNegation
  have unchecked :=
    evaluation_agrees_with_plainValue "leave" .visible onlyMet unreachedEmptyNegation
  refine ⟨⟨clear, (checked.1 clear).1⟩, evaluated, secondIsFalse_fillGaps, ?_⟩
  exact unchecked.2 true evaluated secondIsFalse secondIsFalse_fillGaps

end Colloquy.Condition
