import Colloquy.Proofs.Condition.Leaves

/-!
# What conditions ask

An evaluation rests on the answers to the texts that it asks, and on no others.
These texts are those of leaves, in their order.
-/

namespace Colloquy.Condition

mutual

/-- The texts of the leaves of a tree, trimmed and in order. Blank leaves ask
nothing. -/
def questions : Condition → List String
  | .flag text => if (Text.trim text).isEmpty then [] else [Text.trim text]
  | .all parts => questionsOfParts parts
  | .any parts => questionsOfParts parts
  | .negation parts => questionsOfParts parts

def questionsOfParts : List Condition → List String
  | [] => []
  | head :: tail => questions head ++ questionsOfParts tail

end

section Chain

variable {go : Bool} {head : Evaluation} {text : String}

private theorem mem_asked_continueIf
    (next : Evaluation)
    (asked : text ∈ head.asked) :
    text ∈ (head.continueIf go next).asked := by
  by_cases goesOn : head.outcome = .ok go
  · rw [Evaluation.continueIf_of_goesOn goesOn]
    exact List.mem_append_left _ asked
  · rwa [Evaluation.continueIf_of_stops goesOn]

private theorem mem_asked_continueIf_of_goesOn
    {next : Evaluation}
    (goesOn : head.outcome = .ok go)
    (asked : text ∈ next.asked) :
    text ∈ (head.continueIf go next).asked := by
  rw [Evaluation.continueIf_of_goesOn goesOn]
  exact List.mem_append_right _ asked

/-- What comes next matters only if there is need to go on. -/
theorem continueIf_congr
    {next other : Evaluation}
    (same : head.outcome = .ok go → next = other) :
    head.continueIf go next = head.continueIf go other := by
  by_cases goesOn : head.outcome = .ok go
  · rw [same goesOn]
  · rw [Evaluation.continueIf_of_stops goesOn, Evaluation.continueIf_of_stops goesOn]

end Chain

section Evaluation

variable {left right : String → Bool}

private theorem evaluateLeaf_congr
    {text : String}
    (agree : ∀ question ∈ (evaluateLeaf left text).asked,
      left question = right question) :
    evaluateLeaf right text = evaluateLeaf left text := by
  unfold evaluateLeaf at agree ⊢
  by_cases blank : (Text.trim text).isEmpty = true
  · simp only [blank, if_true]
  · have answer : left (Text.trim text) = right (Text.trim text) := by
      apply agree
      simp only [blank, Bool.false_eq_true, if_false]
      exact List.mem_singleton_self _
    simp only [answer]

/-- Links that rest on what they ask make a chain that does. -/
theorem chain_congr
    {go : Bool} {level : Nat} {parts : List Condition}
    (each : ∀ part ∈ parts,
      (∀ question ∈ (evaluateAt left level part).asked,
        left question = right question) →
        evaluateAt right level part = evaluateAt left level part)
    (agree : ∀ question ∈ (chain go (parts.map (evaluateAt left level))).asked,
      left question = right question) :
    chain go (parts.map (evaluateAt right level)) =
      chain go (parts.map (evaluateAt left level)) := by
  induction parts with
  | nil =>
      rfl
  | cons head tail inductionHypothesis =>
      simp only [List.map_cons, chain] at agree ⊢
      have headSame : evaluateAt right level head = evaluateAt left level head :=
        each head List.mem_cons_self fun question asked =>
          agree question (mem_asked_continueIf _ asked)
      rw [headSame]
      apply continueIf_congr
      intro goesOn
      apply inductionHypothesis
      · intro part member
        exact each part (List.mem_cons_of_mem head member)
      · intro question asked
        exact agree question (mem_asked_continueIf_of_goesOn goesOn asked)

private theorem evaluateAt_eq_of_limit_lt
    {level : Nat} (tooDeep : depthLimit < level) (tree : Condition) :
    evaluateAt right level tree = evaluateAt left level tree := by
  rw [evaluateAt_of_limit_lt tooDeep, evaluateAt_of_limit_lt tooDeep]

/-- A look-up that answers alike what is asked of another one leads to the same
evaluation. -/
theorem evaluateAt_congr
    {level : Nat} {tree : Condition}
    (agree : ∀ question ∈ (evaluateAt left level tree).asked,
      left question = right question) :
    evaluateAt right level tree = evaluateAt left level tree := by
  induction tree using inductionOnParts generalizing level with
  | flag text =>
      by_cases within : level ≤ depthLimit
      · rw [evaluateAt_flag within] at agree
        rw [evaluateAt_flag within, evaluateAt_flag within, evaluateLeaf_congr agree]
      · exact evaluateAt_eq_of_limit_lt (Nat.lt_of_not_le within) _
  | all parts inductionHypothesis =>
      by_cases within : level ≤ depthLimit
      · rw [evaluateAt_all within] at agree
        rw [evaluateAt_all within, evaluateAt_all within]
        exact chain_congr (fun part member => inductionHypothesis part member) agree
      · exact evaluateAt_eq_of_limit_lt (Nat.lt_of_not_le within) _
  | any parts inductionHypothesis =>
      by_cases within : level ≤ depthLimit
      · by_cases empty : parts = []
        · rw [empty, evaluateAt_any_nil within, evaluateAt_any_nil within]
        · rw [evaluateAt_any within empty] at agree
          rw [evaluateAt_any within empty, evaluateAt_any within empty]
          exact chain_congr (fun part member => inductionHypothesis part member) agree
      · exact evaluateAt_eq_of_limit_lt (Nat.lt_of_not_le within) _
  | negation parts inductionHypothesis =>
      by_cases within : level ≤ depthLimit
      · cases parts with
        | nil =>
            rw [evaluateAt_negation_nil within, evaluateAt_negation_nil within]
        | cons head tail =>
            rw [evaluateAt_negation_cons within] at agree
            rw [evaluateAt_negation_cons within, evaluateAt_negation_cons within,
              inductionHypothesis head List.mem_cons_self agree]
      · exact evaluateAt_eq_of_limit_lt (Nat.lt_of_not_le within) _

end Evaluation

/-! ## What is asked -/

private theorem askableTexts_sublist_questionsOfParts
    {level : Nat} {parts : List Condition}
    (each : ∀ part ∈
      parts, (askableTexts (leavesFrom level part)).Sublist (questions part)) :
    (askableTexts (leavesOfParts level parts)).Sublist (questionsOfParts parts) := by
  induction parts with
  | nil =>
      exact List.Sublist.refl []
  | cons head tail inductionHypothesis =>
      rw [List.forall_mem_cons] at each
      rw [leavesOfParts, askableTexts_append, questionsOfParts]
      exact each.1.append (inductionHypothesis each.2)

/-- The leaves that can be asked are among all that ask something. -/
theorem askableTexts_sublist_questions (level : Nat) (tree : Condition) :
    (askableTexts (leavesFrom level tree)).Sublist (questions tree) := by
  induction tree using inductionOnParts generalizing level with
  | flag text =>
      rw [leavesFrom, questions]
      by_cases blank : Text.trim text = ""
      · simp [askableTexts, textsWithinLimit, List.filter_cons, blank]
      · by_cases within : level ≤ depthLimit
        · simp [askableTexts, textsWithinLimit, within, blank]
        · simp [askableTexts, textsWithinLimit, within]
  | all parts inductionHypothesis =>
      exact askableTexts_sublist_questionsOfParts fun part member =>
        inductionHypothesis part member (level + 1)
  | any parts inductionHypothesis =>
      exact askableTexts_sublist_questionsOfParts fun part member =>
        inductionHypothesis part member (level + 1)
  | negation parts inductionHypothesis =>
      cases parts with
      | nil =>
          exact List.nil_sublist _
      | cons head tail =>
          have headAsks := inductionHypothesis head List.mem_cons_self (level + 1)
          exact headAsks.trans (List.sublist_append_left _ _)

/-- What is asked are questions of the tree. -/
theorem mem_questions_of_mem_asked
    {lookup : String → Bool} {level : Nat} {tree : Condition} {text : String}
    (asked : text ∈ (evaluateAt lookup level tree).asked) :
    text ∈ questions tree :=
  (askableTexts_sublist_questions level tree).subset
    ((asked_sublist_askableTexts tree).subset asked)

/-- Look-ups that answer the questions of a condition alike give it the same value. -/
theorem evaluate?_congr
    {left right : String → Bool} {condition : Option Condition}
    (agree : ∀ tree, condition = some tree → ∀ question ∈ questions tree,
      left question = right question) :
    evaluate? left condition = evaluate? right condition := by
  cases condition with
  | none =>
      rfl
  | some tree =>
      have same : evaluateTree right tree = evaluateTree left tree :=
        evaluateAt_congr fun question asked =>
          agree tree rfl question (mem_questions_of_mem_asked asked)
      rw [evaluate?, evaluate?, same]

/-- An evaluation rests on the answers to what it asks: another look-up that
answers these texts alike is asked the same and leads to the same value or
error. The texts are trimmed and not blank, and are those of leaves in their
order. -/
theorem evaluation_rests_on_what_it_asks (lookup : String → Bool) (tree : Condition) :
    (∀ other : String → Bool,
      (∀ text ∈ (evaluateTree lookup tree).asked, lookup text = other text) →
        evaluate? other (some tree) = evaluate? lookup (some tree) ∧
        (evaluateTree other tree).asked = (evaluateTree lookup tree).asked) ∧
    (∀ text ∈ (evaluateTree lookup tree).asked, Text.trim text = text ∧ text ≠ "") ∧
    (evaluateTree lookup tree).asked.Sublist
      (textsWithinLimit (leavesFrom 1 tree)) := by
  have inOrder :
      (evaluateTree lookup tree).asked.Sublist (askableTexts (leavesFrom 1 tree)) :=
    asked_sublist_askableTexts tree
  refine ⟨?_, ?_, ?_⟩
  · intro other agree
    have same : evaluateTree other tree = evaluateTree lookup tree :=
      evaluateAt_congr agree
    rw [evaluate?, evaluate?, same]
    exact ⟨rfl, rfl⟩
  · intro text asked
    exact shows_of_mem_askableTexts (inOrder.subset asked)
  · exact inOrder.trans List.filter_sublist

/-- A guard lets a visitor pass for a bribe, or if tired. The mood is ignored,
and the last part is malformed. -/
def guardCondition : Condition :=
  .any [.all [.flag " bribed ", .flag "gold >= 10"],
    .negation [.negation [.flag "tired"], .flag "grim"], .negation []]

/-- Look-ups that only differ in what is not asked. -/
theorem guardCondition_rests_on_what_it_asks :
    (∀ text ∈ (evaluateTree (fun text => text = "tired") guardCondition).asked,
      decide (text = "tired") = decide (text = "tired" ∨ text = "gold >= 10")) ∧
    (evaluateTree (fun text => text = "tired" ∨ text = "gold >= 10")
      guardCondition).asked =
      ["bribed", "tired"] ∧
    evaluate? (fun text => text = "tired" ∨ text = "gold >= 10") (some guardCondition) =
      .ok true := by
  have asked : (evaluateTree (fun text => text = "tired") guardCondition).asked =
      ["bribed", "tired"] := by
    decide +kernel
  have evaluated :
      evaluate? (fun text => text = "tired") (some guardCondition) = .ok true := by
    rfl
  have agree :
      ∀ text ∈ (evaluateTree (fun text => text = "tired") guardCondition).asked,
      decide (text = "tired") = decide (text = "tired" ∨ text = "gold >= 10") := by
    rw [asked]
    decide
  have rests :=
    evaluation_rests_on_what_it_asks (fun text => text = "tired") guardCondition
  obtain ⟨sameOutcome, sameAsked⟩ := rests.1 _ agree
  exact ⟨agree, sameAsked.trans asked, sameOutcome.trans evaluated⟩

end Colloquy.Condition
