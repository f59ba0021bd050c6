import Colloquy.Condition

/-!
# The structure of conditions

Induction over trees, the depth of a tree in terms of its parts, the subtrees
that an evaluation may look at, and the evaluation of a group as a chain over
the evaluations of its parts. Both kinds of groups go on as long as the parts
have one value and stop at the first part with the other one; only that value
differs between them.
-/

namespace Colloquy.Condition

/-- What holds of leaves, and of a group as soon as it holds of each part, holds
of every tree. -/
@[elab_as_elim]
theorem inductionOnParts
    {motive : Condition → Prop}
    (flag : ∀ text, motive (.flag text))
    (all : ∀ parts, (∀ part ∈ parts, motive part) → motive (.all parts))
    (any : ∀ parts, (∀ part ∈ parts, motive part) → motive (.any parts))
    (negation : ∀ parts, (∀ part ∈ parts, motive part) → motive (.negation parts))
    (tree : Condition) :
    motive tree := by
  refine @Condition.rec motive (fun parts => ∀ part ∈ parts, motive part)
    flag all any negation ?_ ?_ tree
  · intro part member
    cases member
  · intro head tail headHolds tailHolds part member
    rcases List.mem_cons.1 member with equal | inTail
    · rw [equal]
      exact headHolds
    · exact tailHolds part inTail

/-- The parts of a group, those that are ignored included. A leaf has none. -/
def parts : Condition → List Condition
  | .flag _ => []
  | .all parts => parts
  | .any parts => parts
  | .negation parts => parts

/-- The subtree that a list of part numbers leads to. -/
def partAt? : List Nat → Condition → Option Condition
  | [], tree => some tree
  | index :: rest, tree => tree.parts[index]?.bind (partAt? rest)

private theorem depthOfParts_le_iff
    {parts : List Condition} {bound : Nat} :
    depthOfParts parts ≤ bound ↔ ∀ part ∈ parts, depth part ≤ bound := by
  induction parts with
  | nil =>
      simp [depthOfParts]
  | cons head tail inductionHypothesis =>
      simp only [depthOfParts, Nat.max_le, inductionHypothesis, List.forall_mem_cons]

/-- A tree is one level deeper than its deepest part. -/
theorem depth_eq_succ_depthOfParts (tree : Condition) :
    depth tree = 1 + depthOfParts tree.parts := by
  cases tree <;> rfl

theorem depth_lt_of_mem_parts
    {tree part : Condition}
    (member : part ∈ tree.parts) :
    depth part < depth tree := by
  have bound :=
    depthOfParts_le_iff.1 (Nat.le_refl (depthOfParts tree.parts)) part member
  rw [depth_eq_succ_depthOfParts tree]
  omega

/-- `Reaches tree part` means that the value of `tree` may rest on the subtree
`part`: it is the tree itself, or lies within a part of a group, or within the
first part of a negation. -/
inductive Reaches : Condition → Condition → Prop
  | root (tree : Condition) : Reaches tree tree
  | all {parts : List Condition} {part target : Condition} :
      part ∈ parts → Reaches part target → Reaches (.all parts) target
  | any {parts : List Condition} {part target : Condition} :
      part ∈ parts → Reaches part target → Reaches (.any parts) target
  | negation {head target : Condition} (tail : List Condition) :
      Reaches head target → Reaches (.negation (head :: tail)) target

/-- Each negation that counts has a part to negate. -/
def NegationsFilled (tree : Condition) : Prop :=
  ∀ parts, Reaches tree (.negation parts) → parts ≠ []

theorem negationsFilled_flag (text : String) : NegationsFilled (.flag text) := by
  intro parts reached
  cases reached

theorem negationsFilled_all_iff
    {parts : List Condition} :
    NegationsFilled (.all parts) ↔ ∀ part ∈ parts, NegationsFilled part := by
  constructor
  · intro filled part member negated reached
    exact filled negated (.all member reached)
  · intro each negated reached
    cases reached with
    | all member inner =>
        exact each _ member negated inner

theorem negationsFilled_any_iff
    {parts : List Condition} :
    NegationsFilled (.any parts) ↔ ∀ part ∈ parts, NegationsFilled part := by
  constructor
  · intro filled part member negated reached
    exact filled negated (.any member reached)
  · intro each negated reached
    cases reached with
    | any member inner =>
        exact each _ member negated inner

theorem not_negationsFilled_negation_nil : ¬ NegationsFilled (.negation []) := by
  intro filled
  exact filled [] (.root (.negation [])) rfl

theorem negationsFilled_negation_cons_iff
    {head : Condition} {tail : List Condition} :
    NegationsFilled (.negation (head :: tail)) ↔ NegationsFilled head := by
  constructor
  · intro filled negated reached
    exact filled negated (.negation tail reached)
  · intro headFilled negated reached
    cases reached with
    | root =>
        simp
    | negation _ inner =>
        exact headFilled negated inner

/-- A tree that evaluation can deal with whatever the flags are. -/
structure Sound (tree : Condition) : Prop where
  /-- No part lies below the deepest level. -/
  shallow : depth tree ≤ depthLimit
  /-- No negation that counts is empty. -/
  filled : NegationsFilled tree

/-- An evaluation that goes on has the outcome of what follows, and asks what
both ask. -/
theorem Evaluation.continueIf_of_goesOn
    {head : Evaluation} {go : Bool}
    (goesOn : head.outcome = .ok go)
    (next : Evaluation) :
    head.continueIf go next =
      { outcome := next.outcome, asked := head.asked ++ next.asked } := by
  rw [continueIf, goesOn]
  simp only [if_true]

/-- An evaluation that stops asks nothing more. -/
theorem Evaluation.continueIf_of_stops
    {head : Evaluation} {go : Bool}
    (stops : head.outcome ≠ .ok go)
    (next : Evaluation) :
    head.continueIf go next = head := by
  cases outcome : head.outcome with
  | error error =>
      simp only [continueIf, outcome]
  | ok found =>
      have different : found ≠ go := by
        rintro rfl
        exact stops outcome
      simp only [continueIf, outcome, different, if_false]

/-- Evaluations made one after another as long as they come to `go`. -/
def chain (go : Bool) : List Evaluation → Evaluation
  | [] => { outcome := .ok go }
  | head :: tail => head.continueIf go (chain go tail)

/-- The parts of a conjunction are evaluated one after the other while they hold. -/
theorem evaluateAll_eq_chain
    (lookup : String → Bool) (level : Nat) (parts : List Condition) :
    evaluateAll lookup level parts =
      chain true (parts.map (evaluateAt lookup level)) := by
  induction parts with
  | nil =>
      rfl
  | cons head tail inductionHypothesis =>
      simp only [evaluateAll, List.map_cons, chain, inductionHypothesis]

private theorem evaluateAny_eq_chain
    (lookup : String → Bool) (level : Nat) (parts : List Condition) :
    evaluateAny lookup level parts =
      chain false (parts.map (evaluateAt lookup level)) := by
  induction parts with
  | nil =>
      rfl
  | cons head tail inductionHypothesis =>
      simp only [evaluateAny, List.map_cons, chain, inductionHypothesis]

/-- A chain has a value if each of its links has one. -/
theorem exists_chain_outcome
    {go : Bool} {evaluations : List Evaluation}
    (each : ∀ evaluation ∈ evaluations, ∃ value, evaluation.outcome = .ok value) :
    ∃ value, (chain go evaluations).outcome = .ok value := by
  induction evaluations with
  | nil =>
      exact ⟨go, rfl⟩
  | cons head tail inductionHypothesis =>
      rw [chain]
      by_cases goesOn : head.outcome = .ok go
      · rw [Evaluation.continueIf_of_goesOn goesOn]
        exact inductionHypothesis fun evaluation member =>
          each evaluation (List.mem_cons_of_mem head member)
      · rw [Evaluation.continueIf_of_stops goesOn]
        exact each head List.mem_cons_self

/-- A chain comes to `go` only if all of its links do, and otherwise to the
value of one link. -/
theorem chain_outcome_cases
    {go value : Bool} {evaluations : List Evaluation}
    (outcome : (chain go evaluations).outcome = .ok value) :
    (value = go ∧ ∀ evaluation ∈ evaluations, evaluation.outcome = .ok go) ∨
      (value = !go ∧ ∃ evaluation ∈ evaluations, evaluation.outcome = .ok (!go)) := by
  induction evaluations with
  | nil =>
      simp only [chain, Except.ok.injEq] at outcome
      exact Or.inl ⟨outcome.symm, by simp⟩
  | cons head tail inductionHypothesis =>
      rw [chain] at outcome
      by_cases goesOn : head.outcome = .ok go
      · rw [Evaluation.continueIf_of_goesOn goesOn] at outcome
        rcases inductionHypothesis outcome with
          ⟨equal, each⟩ | ⟨opposite, evaluation, member, stops⟩
        · exact Or.inl ⟨equal, List.forall_mem_cons.2 ⟨goesOn, each⟩⟩
        · exact Or.inr ⟨opposite, evaluation, List.mem_cons_of_mem head member, stops⟩
      · rw [Evaluation.continueIf_of_stops goesOn] at outcome
        have opposite : value = !go := by
          apply Bool.eq_not.2
          rintro rfl
          exact goesOn outcome
        exact Or.inr ⟨opposite, head, List.mem_cons_self, opposite ▸ outcome⟩

/-! ## Evaluation of each kind of tree -/

section Evaluation

variable {lookup : String → Bool} {level : Nat}

/-- Below the limit nothing is asked. -/
theorem evaluateAt_of_limit_lt
    (tooDeep : depthLimit < level) (tree : Condition) :
    evaluateAt lookup level tree = { outcome := .error .tooDeep } := by
  cases tree with
  | flag text =>
      simp only [evaluateAt, tooDeep, if_true]
  | all parts =>
      simp only [evaluateAt, tooDeep, if_true]
  | any parts =>
      cases parts <;> simp only [evaluateAt, tooDeep, if_true]
  | negation parts =>
      cases parts <;> simp only [evaluateAt, tooDeep, if_true]

theorem evaluateAt_flag
    (within : level ≤ depthLimit) (text : String) :
    evaluateAt lookup level (.flag text) = evaluateLeaf lookup text := by
  simp only [evaluateAt, Nat.not_lt.2 within, if_false]

theorem evaluateAt_all
    (within : level ≤ depthLimit) (parts : List Condition) :
    evaluateAt lookup level (.all parts) =
      chain true (parts.map (evaluateAt lookup (level + 1))) := by
  simp only [evaluateAt, Nat.not_lt.2 within, if_false, evaluateAll_eq_chain]

/-- A disjunction without parts holds, unlike the usual convention. -/
theorem evaluateAt_any_nil
    (within : level ≤ depthLimit) :
    evaluateAt lookup level (.any []) = { outcome := .ok true } := by
  simp only [evaluateAt, Nat.not_lt.2 within, if_false]

theorem evaluateAt_any
    (within : level ≤ depthLimit) {parts : List Condition} (nonempty : parts ≠ []) :
    evaluateAt lookup level (.any parts) =
      chain false (parts.map (evaluateAt lookup (level + 1))) := by
  cases parts with
  | nil =>
      exact absurd rfl nonempty
  | cons head tail =>
      simp only [evaluateAt, Nat.not_lt.2 within, if_false, evaluateAny_eq_chain,
        List.map_cons, chain]

theorem evaluateAt_negation_nil
    (within : level ≤ depthLimit) :
    evaluateAt lookup level (.negation []) = { outcome := .error .emptyNegation } := by
  simp only [evaluateAt, Nat.not_lt.2 within, if_false]

/-- Only the first part of a negation counts. -/
theorem evaluateAt_negation_cons
    (within : level ≤ depthLimit) (head : Condition) (tail : List Condition) :
    evaluateAt lookup level (.negation (head :: tail)) =
      (evaluateAt lookup (level + 1) head).negate := by
  simp only [evaluateAt, Nat.not_lt.2 within, if_false]

end Evaluation

end Colloquy.Condition
