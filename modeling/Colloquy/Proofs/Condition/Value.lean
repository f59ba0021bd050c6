import Colloquy.Proofs.Condition.Tree

/-!
# Values of conditions

The plain value of a tree is found without a limit on nesting and without
stopping early: all parts are valued, and then combined. Some subtrees have no
value of their own, namely empty negations and whatever lies below the deepest
level. Other values may be put in their place. An evaluation that comes to a
value has not looked at any of them, so its value is the plain one whichever
they are.
-/

namespace Colloquy.Condition

/-- Values put in the place of subtrees, by the part numbers that lead to them. -/
abbrev Overrides := List Nat → Option Bool

/-- What is put in the place of the subtrees of one part. -/
def Overrides.within (overrides : Overrides) (index : Nat) : Overrides :=
  fun position => overrides (index :: position)

/-- The value of a leaf: a blank one holds, any other asks for its trimmed text. -/
def leafValue (lookup : String → Bool) (text : String) : Bool :=
  (Text.trim text).isEmpty || lookup (Text.trim text)

mutual

/-- The value of a tree in which some subtrees have other values put in their
place. An empty negation in whose place nothing is put counts as false. -/
def valueUnder (lookup : String → Bool) (overrides : Overrides) : Condition → Bool
  | .flag text => (overrides []).getD (leafValue lookup text)
  | .all parts => (overrides []).getD ((valuesUnder lookup overrides 0 parts).all id)
  | .any parts =>
    (overrides []).getD (parts.isEmpty || (valuesUnder lookup overrides 0 parts).any id)
  | .negation [] => (overrides []).getD false
  | .negation (head :: _) =>
      (overrides []).getD (!valueUnder lookup (overrides.within 0) head)

/-- The values of parts, the first of which has the given number. -/
def valuesUnder (lookup : String → Bool) (overrides : Overrides) (index : Nat) :
    List Condition → List Bool
  | [] => []
  | head :: tail =>
    valueUnder lookup (overrides.within index) head ::
      valuesUnder lookup overrides (index + 1) tail

end

def plainValue (lookup : String → Bool) (tree : Condition) : Bool :=
  valueUnder lookup (fun _ => none) tree

private theorem mem_valuesUnder_iff
    {lookup : String → Bool} {overrides : Overrides} {start : Nat}
    {parts : List Condition}
    {value : Bool} :
    value ∈ valuesUnder lookup overrides start parts ↔
      ∃ index part, parts[index]? = some part ∧
        valueUnder lookup (overrides.within (start + index)) part = value := by
  induction parts generalizing start with
  | nil =>
      simp [valuesUnder]
  | cons head tail inductionHypothesis =>
      simp only [valuesUnder, List.mem_cons, inductionHypothesis]
      constructor
      · rintro (equal | ⟨index, part, found, valued⟩)
        · exact ⟨0, head, rfl, equal.symm⟩
        · refine ⟨index + 1, part, found, ?_⟩
          rw [← valued, Nat.add_assoc, Nat.add_comm 1 index]
      · rintro ⟨index, part, found, valued⟩
        cases index with
        | zero =>
            simp only [List.getElem?_cons_zero, Option.some.injEq] at found
            exact Or.inl (found ▸ valued.symm)
        | succ index =>
            refine Or.inr ⟨index, part, found, ?_⟩
            rw [← valued, Nat.add_assoc, Nat.add_comm 1 index]

/-- Whether values are only put in the place of subtrees that have none: empty
negations, and whatever lies below the deepest level. The root lies at the given
level. -/
def Overrides.FillGaps
    (overrides : Overrides) (level : Nat) (tree : Condition) : Prop :=
  ∀ position, (overrides position).isSome →
    depthLimit < level + position.length ∨ partAt? position tree = some (.negation [])

namespace Overrides.FillGaps

variable {overrides : Overrides} {level : Nat} {tree : Condition}

private theorem root_eq_none
    (fills : overrides.FillGaps level tree)
    (within : level ≤ depthLimit)
    (notGap : tree ≠ .negation []) :
    overrides [] = none := by
  cases assigned : overrides [] with
  | none =>
      rfl
  | some value =>
      rcases fills [] (by simp [assigned]) with below | empty
      · simp only [List.length_nil, Nat.add_zero] at below
        exact absurd below (Nat.not_lt.2 within)
      · simp only [partAt?, Option.some.injEq] at empty
        exact absurd empty notGap

theorem part
    (fills : overrides.FillGaps level tree)
    {index : Nat} {part : Condition}
    (found : tree.parts[index]? = some part) :
    (overrides.within index).FillGaps (level + 1) part := by
  intro position assigned
  rcases fills (index :: position) assigned with below | empty
  · refine Or.inl ?_
    simp only [List.length_cons] at below
    omega
  · refine Or.inr ?_
    simpa only [partAt?, found, Option.bind_some] using empty

end Overrides.FillGaps

private theorem evaluateLeaf_outcome (lookup : String → Bool) (text : String) :
    (evaluateLeaf lookup text).outcome = .ok (leafValue lookup text) := by
  by_cases blank : (Text.trim text).isEmpty
  · simp [evaluateLeaf, leafValue, blank]
  · simp [evaluateLeaf, leafValue, blank]

/-- What is known of each link of a chain over parts carries over to the values
of the parts. -/
theorem valuesUnder_of_chain
    {lookup : String → Bool} {level : Nat} {go value : Bool} {parts : List Condition}
    (overrides : Overrides)
    (each : ∀ index part, parts[index]? = some part → ∀ found,
      (evaluateAt lookup level part).outcome = .ok found →
        valueUnder lookup (overrides.within index) part = found)
    (outcome : (chain go (parts.map (evaluateAt lookup level))).outcome = .ok value) :
    (value = go ∧ ∀ found ∈ valuesUnder lookup overrides 0 parts, found = go) ∨
      (value = !go ∧ (!go) ∈ valuesUnder lookup overrides 0 parts) := by
  rcases chain_outcome_cases outcome with ⟨equal, all⟩ |
    ⟨opposite, evaluation, member, stops⟩
  · refine Or.inl ⟨equal, fun found foundMember => ?_⟩
    obtain ⟨index, part, partFound, valued⟩ := mem_valuesUnder_iff.1 foundMember
    rw [Nat.zero_add] at valued
    have goes := all _ (List.mem_map_of_mem (List.mem_of_getElem? partFound))
    exact valued.symm.trans (each index part partFound go goes)
  · obtain ⟨part, partMember, rfl⟩ := List.mem_map.1 member
    obtain ⟨index, partFound⟩ := List.mem_iff_getElem?.1 partMember
    refine Or.inr ⟨opposite, mem_valuesUnder_iff.2 ⟨index, part, partFound, ?_⟩⟩
    rw [Nat.zero_add]
    exact each index part partFound (!go) stops

private theorem level_le_of_outcome
    {lookup : String → Bool} {level : Nat} {tree : Condition} {value : Bool}
    (outcome : (evaluateAt lookup level tree).outcome = .ok value) :
    level ≤ depthLimit := by
  refine Nat.le_of_not_lt fun tooDeep => ?_
  rw [evaluateAt_of_limit_lt tooDeep] at outcome
  cases outcome

/-- The value that an evaluation comes to is the plain one, whatever is put in
the place of subtrees without a value. -/
theorem valueUnder_eq_of_outcome
    {lookup : String → Bool} {overrides : Overrides} {level : Nat} {tree : Condition}
    {value : Bool}
    (outcome : (evaluateAt lookup level tree).outcome = .ok value)
    (fills : overrides.FillGaps level tree) :
    valueUnder lookup overrides tree = value := by
  have within := level_le_of_outcome outcome
  induction tree using inductionOnParts generalizing overrides level value with
  | flag text =>
      rw [evaluateAt_flag within, evaluateLeaf_outcome, Except.ok.injEq] at outcome
      rw [valueUnder, fills.root_eq_none within (by simp), Option.getD_none, outcome]
  | all parts inductionHypothesis =>
      rw [evaluateAt_all within] at outcome
      rw [valueUnder, fills.root_eq_none within (by simp), Option.getD_none]
      have links := valuesUnder_of_chain overrides
        (fun index part found value partOutcome =>
          inductionHypothesis part (List.mem_of_getElem? found) partOutcome
            (fills.part found) (level_le_of_outcome partOutcome)) outcome
      rcases links with ⟨rfl, each⟩ | ⟨rfl, member⟩
      · exact List.all_eq_true.2 each
      · exact List.all_eq_false.2 ⟨false, member, by simp⟩
  | any parts inductionHypothesis =>
      rw [valueUnder, fills.root_eq_none within (by simp), Option.getD_none]
      by_cases empty : parts = []
      · rw [empty, evaluateAt_any_nil within, Except.ok.injEq] at outcome
        rw [empty, ← outcome]
        rfl
      · rw [evaluateAt_any within empty] at outcome
        have links := valuesUnder_of_chain overrides
          (fun index part found value partOutcome =>
            inductionHypothesis part (List.mem_of_getElem? found) partOutcome
              (fills.part found) (level_le_of_outcome partOutcome)) outcome
        rw [List.isEmpty_eq_false_iff.2 empty, Bool.false_or]
        rcases links with ⟨rfl, each⟩ | ⟨rfl, member⟩
        · exact List.any_eq_false.2 fun found foundMember => by
            simp [each found foundMember]
        · exact List.any_eq_true.2 ⟨true, member, rfl⟩
  | negation parts inductionHypothesis =>
      cases parts with
      | nil =>
          rw [evaluateAt_negation_nil within] at outcome
          cases outcome
      | cons head tail =>
          rw [evaluateAt_negation_cons within] at outcome
          rw [valueUnder, fills.root_eq_none within (by simp), Option.getD_none]
          cases headOutcome : (evaluateAt lookup (level + 1) head).outcome with
          | error error =>
              simp [Evaluation.negate, headOutcome, Except.map] at outcome
          | ok found =>
              simp only [Evaluation.negate, headOutcome, Except.map,
                Except.ok.injEq] at outcome
              have headFills : (overrides.within 0).FillGaps (level + 1) head :=
                fills.part rfl
              rw [inductionHypothesis head List.mem_cons_self headOutcome headFills
                (level_le_of_outcome headOutcome), outcome]

/-- A tree that evaluates to a value has that value in the plain sense. -/
theorem plainValue_eq_of_outcome
    {lookup : String → Bool} {tree : Condition} {value : Bool}
    (outcome : (evaluateTree lookup tree).outcome = .ok value) :
    plainValue lookup tree = value :=
  valueUnder_eq_of_outcome outcome fun _ assigned => by cases assigned

/-! ## Trees that can be evaluated -/

private theorem exists_chain_outcome_of_parts
    {lookup : String → Bool} {level : Nat} {go : Bool} {parts : List Condition}
    (each : ∀ part ∈ parts, ∃ value,
      (evaluateAt lookup level part).outcome = .ok value) :
    ∃ value, (chain go (parts.map (evaluateAt lookup level))).outcome = .ok value := by
  refine exists_chain_outcome fun evaluation member => ?_
  obtain ⟨part, partMember, rfl⟩ := List.mem_map.1 member
  exact each part partMember

private theorem level_le_of_fits
    {level : Nat} {tree : Condition}
    (fits : level + depth tree ≤ depthLimit + 1) :
    level ≤ depthLimit := by
  rw [depth_eq_succ_depthOfParts] at fits
  omega

private theorem part_fits
    {level : Nat} {tree part : Condition}
    (fits : level + depth tree ≤ depthLimit + 1)
    (member : part ∈ tree.parts) :
    level + 1 + depth part ≤ depthLimit + 1 := by
  have smaller := depth_lt_of_mem_parts member
  omega

/-- A tree whose negations that count have parts has a value wherever it ends
above the limit. -/
theorem exists_outcome_of_depth
    {lookup : String → Bool} {level : Nat} {tree : Condition}
    (fits : level + depth tree ≤ depthLimit + 1)
    (filled : NegationsFilled tree) :
    ∃ value, (evaluateAt lookup level tree).outcome = .ok value := by
  induction tree using inductionOnParts generalizing level with
  | flag text =>
      rw [evaluateAt_flag (level_le_of_fits fits)]
      exact ⟨leafValue lookup text, evaluateLeaf_outcome lookup text⟩
  | all parts inductionHypothesis =>
      rw [evaluateAt_all (level_le_of_fits fits)]
      exact exists_chain_outcome_of_parts fun part member =>
        inductionHypothesis part member (part_fits fits member)
          (negationsFilled_all_iff.1 filled part member)
  | any parts inductionHypothesis =>
      by_cases empty : parts = []
      · rw [empty, evaluateAt_any_nil (level_le_of_fits fits)]
        exact ⟨true, rfl⟩
      · rw [evaluateAt_any (level_le_of_fits fits) empty]
        exact exists_chain_outcome_of_parts fun part member =>
          inductionHypothesis part member (part_fits fits member)
            (negationsFilled_any_iff.1 filled part member)
  | negation parts inductionHypothesis =>
      cases parts with
      | nil =>
          exact absurd filled not_negationsFilled_negation_nil
      | cons head tail =>
          rw [evaluateAt_negation_cons (level_le_of_fits fits)]
          obtain ⟨value, headOutcome⟩ := inductionHypothesis head List.mem_cons_self
            (part_fits fits List.mem_cons_self)
              (negationsFilled_negation_cons_iff.1 filled)
          exact ⟨!value, by simp [Evaluation.negate, headOutcome, Except.map]⟩

/-- A sound tree has a value, whatever the flags are. -/
theorem Sound.exists_value
    {tree : Condition}
    (sound : Sound tree) (lookup : String → Bool) :
    ∃ value, (evaluateTree lookup tree).outcome = .ok value :=
  exists_outcome_of_depth (by have := sound.shallow; omega) sound.filled

end Colloquy.Condition
