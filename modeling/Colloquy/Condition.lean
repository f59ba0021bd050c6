import Colloquy.Text.Blank

/-!
# Conditions

Boolean trees over flag expressions. Evaluation walks the tree from left to
right, stops as soon as a group is decided, and records which leaves it asked. A
negation without a part, and nesting below the depth limit, are errors; a
malformed part that is never reached is not.
-/

namespace Colloquy

inductive Condition where
  /-- A leaf: a flag expression; a blank one holds. -/
  | flag (text : String)
  | all (parts : List Condition)
  /-- Holds if some part holds, or if there is none. -/
  | any (parts : List Condition)
  /-- Holds if the first part does not. Further parts are ignored. -/
  | negation (parts : List Condition)

namespace Condition

mutual

/-- The number of levels of a tree; a leaf has one. -/
def depth : Condition → Nat
  | .flag _ => 1
  | .all parts => 1 + depthOfParts parts
  | .any parts => 1 + depthOfParts parts
  | .negation parts => 1 + depthOfParts parts

def depthOfParts : List Condition → Nat
  | [] => 0
  | head :: tail => max (depth head) (depthOfParts tail)

end

/-- The deepest level that is evaluated. -/
def depthLimit : Nat := 64

inductive Error where
  /-- A negation has no part to negate. -/
  | emptyNegation
  /-- A node lies below the deepest level. -/
  | tooDeep
  deriving DecidableEq, Repr

def Error.message : Error → String
  | .emptyNegation => "'not' condition group has no child to negate"
  | .tooDeep => "condition tree nested deeper than 64 levels"

/-- What an evaluation came to, and the leaf texts it asked, in order. -/
structure Evaluation where
  /-- The value of the tree, or why it has none. -/
  outcome : Except Error Bool
  asked : List String := []

def Evaluation.negate (evaluation : Evaluation) : Evaluation :=
  { evaluation with outcome := evaluation.outcome.map not }

/-- Goes on with another evaluation if the value is the given one, and stops
otherwise. -/
def Evaluation.continueIf (evaluation : Evaluation) (value : Bool) (next : Evaluation) :
    Evaluation :=
  match evaluation.outcome with
  | .ok found =>
    if found = value then
      { outcome := next.outcome, asked := evaluation.asked ++ next.asked }
    else evaluation
  | .error _ => evaluation

/-- Evaluates a leaf. Blank leaves hold and ask nothing. -/
def evaluateLeaf (lookup : String → Bool) (text : String) : Evaluation :=
  let trimmed := Text.trim text
  if trimmed.isEmpty then { outcome := .ok true }
  else { outcome := .ok (lookup trimmed), asked := [trimmed] }

mutual

/-- Evaluates a tree whose root lies at the given level. -/
def evaluateAt (lookup : String → Bool) (level : Nat) : Condition → Evaluation
  | .flag text =>
    if depthLimit < level then
      { outcome := .error .tooDeep }
    else
      evaluateLeaf lookup text
  | .all parts =>
    if depthLimit < level then { outcome := .error .tooDeep }
    else evaluateAll lookup (level + 1) parts
  | .any parts =>
    if depthLimit < level then { outcome := .error .tooDeep }
    else
      match parts with
      | [] => { outcome := .ok true }
      | head :: tail =>
        (evaluateAt lookup (level + 1) head).continueIf false
          (evaluateAny lookup (level + 1) tail)
  | .negation parts =>
    if depthLimit < level then { outcome := .error .tooDeep }
    else
      match parts with
      | [] => { outcome := .error .emptyNegation }
      | head :: _ => (evaluateAt lookup (level + 1) head).negate

/-- Evaluates parts until one does not hold. -/
def evaluateAll (lookup : String → Bool) (level : Nat) : List Condition → Evaluation
  | [] => { outcome := .ok true }
  | head :: tail =>
    (evaluateAt lookup level head).continueIf true (evaluateAll lookup level tail)

/-- Evaluates parts until one holds. -/
def evaluateAny (lookup : String → Bool) (level : Nat) : List Condition → Evaluation
  | [] => { outcome := .ok false }
  | head :: tail =>
    (evaluateAt lookup level head).continueIf false (evaluateAny lookup level tail)

end

def evaluateTree (lookup : String → Bool) (condition : Condition) : Evaluation :=
  evaluateAt lookup 1 condition

/-- The value of an optional tree; a missing one holds. -/
def evaluate? (lookup : String → Bool) : Option Condition → Except Error Bool
  | none => .ok true
  | some condition => (evaluateTree lookup condition).outcome

/-- The value of an optional tree, a tree without a value counting as false. -/
def evaluate (lookup : String → Bool) (condition : Option Condition) : Bool :=
  match evaluate? lookup condition with
  | .ok value => value
  | .error _ => false

end Condition

end Colloquy
