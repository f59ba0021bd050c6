import Colloquy.Proofs.Condition.Tree
import Colloquy.Proofs.Text.Blank

/-!
# Leaves that are asked

An evaluation asks leaves from left to right, none of them twice. It passes over
blank leaves, those below the deepest level and those of the ignored parts of
negations.
-/

namespace Colloquy.Condition

structure Leaf where
  text : String
  /-- The number of nodes from the root to the leaf, both included. -/
  level : Nat

mutual

/-- The leaves of a tree whose root lies at the given level, from left to right.
Those of the ignored parts of negations are left out. -/
def leavesFrom (level : Nat) : Condition → List Leaf
  | .flag text => [⟨text, level⟩]
  | .all parts => leavesOfParts (level + 1) parts
  | .any parts => leavesOfParts (level + 1) parts
  | .negation [] => []
  | .negation (head :: _) => leavesFrom (level + 1) head

def leavesOfParts (level : Nat) : List Condition → List Leaf
  | [] => []
  | head :: tail => leavesFrom level head ++ leavesOfParts level tail

end

/-- The trimmed texts of the leaves that do not lie below the deepest level. -/
def textsWithinLimit (leaves : List Leaf) : List String :=
  (leaves.filter fun leaf => leaf.level ≤ depthLimit).map fun leaf =>
    Text.trim leaf.text

/-- Those of the texts that are not blank. -/
def askableTexts (leaves : List Leaf) : List String :=
  (textsWithinLimit leaves).filter fun text => text ≠ ""

/-- The texts of leaves in a row are those of the first ones, then those of the
others. -/
theorem askableTexts_append (front back : List Leaf) :
    askableTexts (front ++ back) = askableTexts front ++ askableTexts back := by
  simp only [askableTexts, textsWithinLimit, List.filter_append, List.map_append]

/-- Texts are asked trimmed, and never blank. -/
theorem shows_of_mem_askableTexts
    {leaves : List Leaf} {text : String}
    (askable : text ∈ askableTexts leaves) :
    Text.trim text = text ∧ text ≠ "" := by
  obtain ⟨listed, filled⟩ := List.mem_filter.1 askable
  obtain ⟨leaf, _, rfl⟩ := List.mem_map.1 listed
  exact ⟨Text.trim_trim leaf.text, of_decide_eq_true filled⟩

section Asked

variable {lookup : String → Bool} {level : Nat}

private theorem asked_continueIf_sublist
    {go : Bool} {head next : Evaluation} {front back : List String}
    (headAsks : head.asked.Sublist front)
    (nextAsks : next.asked.Sublist back) :
    (head.continueIf go next).asked.Sublist (front ++ back) := by
  by_cases goesOn : head.outcome = .ok go
  · rw [Evaluation.continueIf_of_goesOn goesOn]
    exact headAsks.append nextAsks
  · rw [Evaluation.continueIf_of_stops goesOn]
    exact headAsks.trans (List.sublist_append_left front back)

private theorem asked_chain_sublist
    {go : Bool} {parts : List Condition}
    (each : ∀ part ∈ parts,
      (evaluateAt lookup level part).asked.Sublist
        (askableTexts (leavesFrom level part))) :
    (chain go (parts.map (evaluateAt lookup level))).asked.Sublist
      (askableTexts (leavesOfParts level parts)) := by
  induction parts with
  | nil =>
      exact List.Sublist.refl []
  | cons head tail inductionHypothesis =>
      rw [List.map_cons, chain, leavesOfParts, askableTexts_append]
      apply asked_continueIf_sublist
      · exact each head List.mem_cons_self
      · apply inductionHypothesis
        intro part member
        exact each part (List.mem_cons_of_mem head member)

private theorem asked_evaluateLeaf
    (within : level ≤ depthLimit) (text : String) :
    (evaluateLeaf lookup text).asked = askableTexts [⟨text, level⟩] := by
  by_cases blank : Text.trim text = ""
  · simp [evaluateLeaf, askableTexts, textsWithinLimit, within, blank]
  · simp [evaluateLeaf, askableTexts, textsWithinLimit, within, blank]

/-- Below the deepest level nothing is asked. -/
theorem asked_sublist_of_within
    {tree : Condition} {texts : List String}
    (asks : level ≤ depthLimit → (evaluateAt lookup level tree).asked.Sublist texts) :
    (evaluateAt lookup level tree).asked.Sublist texts := by
  by_cases within : level ≤ depthLimit
  · exact asks within
  · rw [evaluateAt_of_limit_lt (Nat.lt_of_not_le within)]
    exact List.nil_sublist texts

/-- The texts are asked in the order of the leaves, and each leaf at most once. -/
theorem asked_sublist_askableTexts (tree : Condition) :
    (evaluateAt lookup level tree).asked.Sublist
      (askableTexts (leavesFrom level tree)) := by
  induction tree using inductionOnParts generalizing level with
  | flag text =>
      apply asked_sublist_of_within
      intro within
      rw [evaluateAt_flag within, leavesFrom, asked_evaluateLeaf within]
  | all parts inductionHypothesis =>
      apply asked_sublist_of_within
      intro within
      rw [evaluateAt_all within, leavesFrom]
      exact asked_chain_sublist fun part member => inductionHypothesis part member
  | any parts inductionHypothesis =>
      apply asked_sublist_of_within
      intro within
      rw [leavesFrom]
      by_cases empty : parts = []
      · rw [empty, evaluateAt_any_nil within]
        exact List.nil_sublist _
      · rw [evaluateAt_any within empty]
        exact asked_chain_sublist fun part member => inductionHypothesis part member
  | negation parts inductionHypothesis =>
      apply asked_sublist_of_within
      intro within
      cases parts with
      | nil =>
          rw [evaluateAt_negation_nil within]
          exact List.nil_sublist _
      | cons head tail =>
          rw [evaluateAt_negation_cons within, leavesFrom]
          exact inductionHypothesis head List.mem_cons_self

end Asked

end Colloquy.Condition
