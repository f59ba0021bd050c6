import Colloquy.Proofs.Condition.Tree

/-!
# Negated groups

The negation of a group evaluates like the dual group of the negated parts: both
come to the same value or the same error, and ask the same texts in the same
order. So one may stand for the other in any place of a tree. The groups must
have parts, since both kinds hold if they have none.
-/

namespace Colloquy.Condition

private theorem Evaluation.outcome_negate_eq_ok_iff
    {evaluation : Evaluation} {value : Bool} :
    evaluation.negate.outcome = .ok (!value) ↔ evaluation.outcome = .ok value := by
  cases outcome : evaluation.outcome with
  | error error =>
      simp [negate, outcome, Except.map]
  | ok found =>
      simp [negate, outcome, Except.map]

private theorem Evaluation.negate_continueIf
    (head next : Evaluation) (go : Bool) :
    (head.continueIf go next).negate = head.negate.continueIf (!go) next.negate := by
  by_cases goesOn : head.outcome = .ok go
  · rw [continueIf_of_goesOn goesOn,
      continueIf_of_goesOn (outcome_negate_eq_ok_iff.2 goesOn)]
    rfl
  · rw [continueIf_of_stops goesOn,
      continueIf_of_stops (mt outcome_negate_eq_ok_iff.1 goesOn)]

/-- A chain, negated, is the chain of the negated links that stops at the same link. -/
theorem negate_chain (go : Bool) (evaluations : List Evaluation) :
    (chain go evaluations).negate =
      chain (!go) (evaluations.map Evaluation.negate) := by
  induction evaluations with
  | nil =>
      rfl
  | cons head tail inductionHypothesis =>
      rw [chain, Evaluation.negate_continueIf, inductionHypothesis, List.map_cons,
        chain]

/-- The kind of group that goes on as long as its parts have a value. -/
def group : Bool → List Condition → Condition
  | true, parts => .all parts
  | false, parts => .any parts

def negations (parts : List Condition) : List Condition :=
  parts.map fun part => .negation [part]

section Duality

variable {lookup : String → Bool} {level : Nat} {parts : List Condition}

private theorem evaluateAt_group
    (within : level ≤ depthLimit) (nonempty : parts ≠ []) (go : Bool) :
    evaluateAt lookup level (group go parts) =
      chain go (parts.map (evaluateAt lookup (level + 1))) := by
  cases go with
  | true =>
      exact evaluateAt_all within parts
  | false =>
      exact evaluateAt_any within nonempty

private theorem chain_of_limit_lt
    (tooDeep : depthLimit < level) (nonempty : parts ≠ []) (go : Bool) :
    chain go (parts.map (evaluateAt lookup level)) =
      { outcome := .error .tooDeep } := by
  cases parts with
  | nil =>
      exact absurd rfl nonempty
  | cons head tail =>
      rw [List.map_cons, chain, evaluateAt_of_limit_lt tooDeep]
      rfl

private theorem map_evaluateAt_negations
    (within : level ≤ depthLimit) :
    (negations parts).map (evaluateAt lookup level) =
      (parts.map (evaluateAt lookup (level + 1))).map Evaluation.negate := by
  rw [negations, List.map_map, List.map_map]
  apply List.map_congr_left
  intro part member
  exact evaluateAt_negation_cons within part []

/-- The negation of a group of either kind and the dual group of the negated
parts. The parts lie on one level on both sides, and the level between root and
parts counts on both. A side that is too deep at all is so at the inner group on
the one side and at the first negation on the other. -/
theorem evaluateAt_negation_group
    (nonempty : parts ≠ []) (go : Bool) :
    evaluateAt lookup level (.negation [group go parts]) =
      evaluateAt lookup level (group (!go) (negations parts)) := by
  have negationsNonempty : negations parts ≠ [] := by
    simpa [negations] using nonempty
  by_cases within : level ≤ depthLimit
  · rw [evaluateAt_negation_cons within, evaluateAt_group within negationsNonempty]
    by_cases innerWithin : level + 1 ≤ depthLimit
    · rw [evaluateAt_group innerWithin nonempty, negate_chain,
        map_evaluateAt_negations innerWithin]
    · have tooDeep : depthLimit < level + 1 := Nat.lt_of_not_le innerWithin
      rw [evaluateAt_of_limit_lt tooDeep, chain_of_limit_lt tooDeep negationsNonempty]
      rfl
  · have tooDeep : depthLimit < level := Nat.lt_of_not_le within
    rw [evaluateAt_of_limit_lt tooDeep, evaluateAt_of_limit_lt tooDeep]

end Duality

/-- A tree with one subtree left open. -/
inductive Context where
  | hole
  | all (before : List Condition) (inner : Context) (after : List Condition)
  | any (before : List Condition) (inner : Context) (after : List Condition)
  | negation (before : List Condition) (inner : Context) (after : List Condition)

def Context.fill : Context → Condition → Condition
  | .hole, tree => tree
  | .all before inner after, tree => .all (before ++ inner.fill tree :: after)
  | .any before inner after, tree => .any (before ++ inner.fill tree :: after)
  | .negation before inner after, tree => .negation (before ++ inner.fill tree :: after)

/-- Trees that evaluate alike at each level may stand for each other in any place. -/
theorem Context.evaluateAt_fill_congr
    {lookup : String → Bool} {left right : Condition}
    (alike : ∀ level, evaluateAt lookup level left = evaluateAt lookup level right)
    (context : Context) (level : Nat) :
    evaluateAt lookup level (context.fill left) =
      evaluateAt lookup level (context.fill right) := by
  induction context generalizing level with
  | hole =>
      exact alike level
  | all before inner after inductionHypothesis =>
      simp only [fill, evaluateAt, evaluateAll_eq_chain, List.map_append, List.map_cons,
        inductionHypothesis]
  | any before inner after inductionHypothesis =>
      by_cases within : level ≤ depthLimit
      · rw [fill, fill, evaluateAt_any within (by simp),
          evaluateAt_any within (by simp)]
        simp only [List.map_append, List.map_cons, inductionHypothesis]
      · have tooDeep : depthLimit < level := Nat.lt_of_not_le within
        rw [evaluateAt_of_limit_lt tooDeep, evaluateAt_of_limit_lt tooDeep]
  | negation before inner after inductionHypothesis =>
      cases before with
      | nil =>
          simp only [fill, List.nil_append, evaluateAt, inductionHypothesis]
      | cons head tail =>
          simp only [fill, List.cons_append, evaluateAt]

/-- A negated group with parts evaluates at each level, and in each place of a
tree, like the dual group of its negated parts. -/
theorem negated_group_evaluates_like_dual
    {parts : List Condition}
    (nonempty : parts ≠ [])
    (lookup : String → Bool) (level : Nat) :
    evaluateAt lookup level (.negation [.all parts]) =
      evaluateAt lookup level (.any (negations parts)) ∧
    evaluateAt lookup level (.negation [.any parts]) =
      evaluateAt lookup level (.all (negations parts)) ∧
    ∀ context : Context,
      evaluateAt lookup level (context.fill (.negation [.all parts])) =
        evaluateAt lookup level (context.fill (.any (negations parts))) ∧
      evaluateAt lookup level (context.fill (.negation [.any parts])) =
        evaluateAt lookup level (context.fill (.all (negations parts))) := by
  have negatedAll : ∀ level, evaluateAt lookup level (.negation [.all parts]) =
      evaluateAt lookup level (.any (negations parts)) :=
    fun level => evaluateAt_negation_group nonempty true
  have negatedAny : ∀ level, evaluateAt lookup level (.negation [.any parts]) =
      evaluateAt lookup level (.all (negations parts)) :=
    fun level => evaluateAt_negation_group nonempty false
  refine ⟨negatedAll level, negatedAny level, fun context => ⟨?_, ?_⟩⟩
  · exact context.evaluateAt_fill_congr negatedAll level
  · exact context.evaluateAt_fill_congr negatedAny level

/-- Without parts both groups hold, so that the negation of one does not. -/
example :
    (evaluateTree (fun _ => true) (.negation [.any []])).outcome = .ok false ∧
      (evaluateTree (fun _ => true) (.all (negations []))).outcome = .ok true :=
  ⟨rfl, rfl⟩

/-- A leaf before a negation that is malformed. -/
def leafBeforeEmptyNegation : List Condition :=
  [.flag " met ", .negation []]

/-- Either way the malformed part is left alone, and on the deepest level the
groups below are refused. -/
theorem negated_leafBeforeEmptyNegation_evaluates_like_dual :
    leafBeforeEmptyNegation ≠ [] ∧
      evaluateTree (fun _ => false) (.negation [.all leafBeforeEmptyNegation]) =
        evaluateTree (fun _ => false) (.any (negations leafBeforeEmptyNegation)) ∧
      evaluateTree (fun _ => false) (.any (negations leafBeforeEmptyNegation)) =
        { outcome := .ok true, asked := ["met"] } ∧
      evaluateAt (fun _ => false) depthLimit
        (.negation [.any leafBeforeEmptyNegation]) =
        evaluateAt (fun _ => false) depthLimit
          (.all (negations leafBeforeEmptyNegation)) := by
  have nonempty : leafBeforeEmptyNegation ≠ [] := List.cons_ne_nil _ _
  have evaluated :
      evaluateTree (fun _ => false) (.any (negations leafBeforeEmptyNegation)) =
      { outcome := .ok true, asked := ["met"] } := by
    rfl
  have fromRoot := negated_group_evaluates_like_dual nonempty (fun _ => false) 1
  have fromLimit :=
    negated_group_evaluates_like_dual nonempty (fun _ => false) depthLimit
  exact ⟨nonempty, fromRoot.1, evaluated, fromLimit.2.1⟩

end Colloquy.Condition
