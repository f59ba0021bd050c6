import Colloquy.Flag.Name
import Colloquy.Script.Basic

/-!
# Validation

Checks a script as a whole and reports every finding, in a fixed order: repeated
identifiers; then node by node and choice by choice what is wrong with
references, conditions and effects; then the triggers, and at last the trigger
names that occur more than once. One kind of finding is only a note; all others
keep the script from loading.
-/

namespace Colloquy.Script

inductive EntryKind where
  | speaker
  | node
  | choice
  deriving DecidableEq, Repr

def EntryKind.label : EntryKind → String
  | .speaker => "speaker"
  | .node => "node"
  | .choice => "choice"

inductive Place where
  | node (id : String)
  | choice (id : String)
  | trigger (name : String)
  deriving DecidableEq, Repr

def Place.text : Place → String
  | .node id => "node '" ++ id ++ "'"
  | .choice id => "choice '" ++ id ++ "'"
  | .trigger name => "trigger '" ++ name ++ "'"

inductive Gate where
  | visible
  | unlocked
  deriving DecidableEq, Repr

def Gate.text (choice : String) : Gate → String
  | .visible => "choice '" ++ choice ++ "' visible"
  | .unlocked => "choice '" ++ choice ++ "' unlocked"

/-- One thing worth telling about a script. -/
inductive Finding where
  | duplicateId (kind : EntryKind) (id : String)
  | missingReference (kind : EntryKind) (id : String) (place : Place)
  | triggerWithoutNode (trigger : String)
  | emptyNegation (choice : String) (gate : Gate)
  | emptyEffectKey (choice : String)
  /-- An effect's key holds an operator character. -/
  | operatorInEffectKey (choice key : String)
  /-- An effect's payload does not fit its namespace. -/
  | unfitEffectValue (choice : String) (kind : Flag.Kind) (key : String)
      (value : Payload)
  | emptyTrigger (index : Nat)
  /-- A trigger name occurs more than once. -/
  | duplicateTrigger (trigger : String)
  /-- A trigger name holds characters that do not show. -/
  | deceptiveTrigger (trigger : String)
  /-- A condition is nested below the deepest level. -/
  | conditionTooDeep (choice : String) (gate : Gate) (depth : Nat)
  /-- A negation has parts that are ignored. -/
  | ignoredNegationParts (choice : String) (gate : Gate) (count : Nat)
  deriving DecidableEq

namespace Finding

/-- Whether a finding keeps the script from loading. -/
def isFatal : Finding → Bool
  | .ignoredNegationParts .. => false
  | _ => true

def message : Finding → String
  | .duplicateId kind id => "duplicate " ++ kind.label ++ " id '" ++ id ++ "'"
  | .missingReference kind id place =>
    "missing " ++ kind.label ++ " '" ++ id ++ "' (" ++ place.text ++ ")"
  | .triggerWithoutNode trigger =>
    "invalid value (" ++ (Place.trigger trigger).text ++ " has no start node)"
  | .emptyNegation choice gate =>
    "invalid value (" ++ gate.text choice ++ ": 'not' group has no child condition)"
  | .emptyEffectKey choice =>
    "invalid value (" ++ (Place.choice choice).text ++ ": effect has an empty flag key)"
  | .operatorInEffectKey choice key =>
    "invalid value (" ++ (Place.choice choice).text ++ ": flag key '" ++ key ++
      "' contains a comparison operator)"
  | .unfitEffectValue choice kind key value =>
    "invalid value (" ++ (Place.choice choice).text ++ ": " ++ kind.title ++
      " effect on '" ++ key ++ "' carries " ++ value.diagnostic ++ ")"
  | .emptyTrigger index => "trigger #" ++ Number.showNat index ++ " has an empty name"
  | .duplicateTrigger trigger =>
      (Place.trigger trigger).text ++ " is defined more than once"
  | .deceptiveTrigger trigger =>
    "trigger " ++ Text.quote false trigger ++
      " contains invisible or control characters"
  | .conditionTooDeep choice gate depth =>
    gate.text choice ++ ": condition nested " ++ Number.showNat depth ++
      " levels deep (limit " ++
      Number.showNat Condition.depthLimit ++ ")"
  | .ignoredNegationParts choice gate count =>
    gate.text choice ++ ": 'not' group has " ++ Number.showNat count ++
      " children, only the first is evaluated"

end Finding

/-- The elements that occurred before, once for each further occurrence. -/
def repeats (seen : List String) : List String → List String
  | [] => []
  | head :: tail =>
    if head ∈ seen then head :: repeats seen tail else repeats (head :: seen) tail

/-- The elements of a list without repetitions, by first occurrence. -/
def distinct : List String → List String
  | [] => []
  | head :: tail => head :: (distinct tail).filter (· ≠ head)

/-- One finding for each further occurrence of an identifier. -/
def checkIds (kind : EntryKind) (ids : List String) : List Finding :=
  (repeats [] ids).map (.duplicateId kind)

/-- A finding if the reference names none of the entries. -/
def checkReference
    (kind : EntryKind) (known : List String) (place : Place) (id : String) :
    List Finding :=
  if id ∈ known then [] else [.missingReference kind id place]

mutual

/-- What is wrong with the negations of a tree that can be evaluated. -/
def checkNegations (choice : String) (gate : Gate) : Condition → List Finding
  | .flag _ => []
  | .all parts => checkNegationsOfParts choice gate parts
  | .any parts => checkNegationsOfParts choice gate parts
  | .negation [] => [.emptyNegation choice gate]
  | .negation (head :: tail) =>
    (if tail.isEmpty then []
      else [.ignoredNegationParts choice gate (tail.length + 1)]) ++
      checkNegations choice gate head

def checkNegationsOfParts (choice : String) (gate : Gate) :
    List Condition → List Finding
  | [] => []
  | head :: tail =>
      checkNegations choice gate head ++ checkNegationsOfParts choice gate tail

end

def checkCondition
    (choice : String) (gate : Gate) (condition : Condition) : List Finding :=
  (if Condition.depthLimit < condition.depth then
    [.conditionTooDeep choice gate condition.depth]
  else []) ++ checkNegations choice gate condition

def checkGate (choice : String) (gate : Gate) : Option Condition → List Finding
  | none => []
  | some condition => checkCondition choice gate condition

def checkEffect (choice : String) (effect : Effect) : List Finding :=
  let key := Text.trim effect.key
  (if key.isEmpty then [.emptyEffectKey choice]
  else if Flag.isName key then []
  else [.operatorInEffectKey choice key]) ++
    if effect.valueFits then
      []
    else
      [.unfitEffectValue choice effect.kind key effect.value]

def checkNode (speakers choices : List String) (node : Node) : List Finding :=
  node.speaker.toList.flatMap (checkReference .speaker speakers (.node node.id)) ++
    node.choices.flatMap (checkReference .choice choices (.node node.id))

def checkChoice (nodes : List String) (choice : Choice) : List Finding :=
  choice.target.toList.flatMap (checkReference .node nodes (.choice choice.id)) ++
    checkGate choice.id .visible choice.visible ++
    checkGate choice.id .unlocked choice.unlocked ++
    choice.effects.flatMap (checkEffect choice.id)

/-- Characters that do not show, or cannot be told from others. -/
def isDeceptive (c : Char) : Bool :=
  c ∈ ['\u200b', '\u200c', '\u200d', '\ufeff', '\u00a0', '\u202f', '\u2060',
      '\u180e', '\u00ad'] ||
    c.toNat ≤ 0x1F || c.toNat = 0x7F

def checkTrigger
    (nodes : List String) (index : Nat) (trigger : Trigger) : List Finding :=
  let name := Text.trim trigger.name
  if name.isEmpty then [.emptyTrigger index]
  else
    (if name.toList.any isDeceptive then [.deceptiveTrigger name] else []) ++
      match trigger.node with
      | some node => checkReference .node nodes (.trigger name) node
      | none => [.triggerWithoutNode name]

/-- What is wrong with triggers, the first of which has the given position. -/
def checkTriggersFrom (nodes : List String) (index : Nat) : List Trigger → List Finding
  | [] => []
  | head :: tail =>
      checkTrigger nodes index head ++ checkTriggersFrom nodes (index + 1) tail

/-- The trimmed names of triggers, blank ones left out. -/
def triggerNames (triggers : List Trigger) : List String :=
  (triggers.map fun trigger => Text.trim trigger.name).filter (! ·.isEmpty)

def checkTriggers (nodes : List String) (triggers : List Trigger) : List Finding :=
  checkTriggersFrom nodes 0 triggers ++
    (distinct (repeats [] (triggerNames triggers))).map .duplicateTrigger

/-! ## Scripts -/

def speakerIds (script : Script) : List String := script.speakers.map (·.id)

def nodeIds (script : Script) : List String := script.nodes.map (·.id)

def choiceIds (script : Script) : List String := script.choices.map (·.id)

def validate (script : Script) : List Finding :=
  checkIds .speaker script.speakerIds ++ checkIds .node script.nodeIds ++
    checkIds .choice script.choiceIds ++
    script.nodes.flatMap (checkNode script.speakerIds script.choiceIds) ++
    script.choices.flatMap (checkChoice script.nodeIds) ++
    checkTriggers script.nodeIds script.triggers

def fatalFindings (script : Script) : List Finding :=
  script.validate.filter Finding.isFatal

/-- One message for several findings, a line for each. -/
def aggregate (findings : List Finding) : String :=
  "dialogue validation failed:\n" ++
    String.intercalate "\n" (findings.map fun finding => "- " ++ finding.message)

end Colloquy.Script
