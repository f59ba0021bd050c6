import Colloquy.Condition
import Colloquy.Flag.Snapshot
import Colloquy.Number.Shortest
import Colloquy.Text.Quoted

/-!
# Dialogue scripts

The authored form of a dialogue: speakers, nodes, choices and triggers, which
refer to each other by identifier. Nothing here is checked; references may
dangle and identifiers may repeat.
-/

namespace Colloquy

namespace Script

structure Speaker where
  id : String
  name : String
  /-- A handle to a picture; empty if there is none. -/
  portrait : String := ""
  table : Option String := none
  deriving DecidableEq

/-- One line of dialogue and the choices that lead away from it. -/
structure Node where
  /-- What choices and triggers call the node. -/
  id : String
  speaker : Option String := none
  text : String
  table : Option String := none
  /-- The outgoing choices, in the order of offering. -/
  choices : List String := []
  deriving DecidableEq

/-- Whether an effect replaces or adds. -/
inductive Operation where
  | set
  | add
  deriving DecidableEq, Repr

inductive Payload where
  | none
  | int (value : Int32)
  | float (value : Number.Single)
  | text (value : String)
  deriving DecidableEq

def Payload.diagnostic : Payload → String
  | .none => "None"
  | .int value => "Int(" ++ Number.showInt value.toInt ++ ")"
  | .float value => "Float(" ++ value.diagnosticText ++ ")"
  | .text value => "Text(" ++ Text.quote false value ++ ")"

structure Effect where
  kind : Flag.Kind
  /-- Whether a numeric flag is replaced or added to. -/
  operation : Operation := .set
  key : String
  value : Payload := .none
  deriving DecidableEq

/-- Whether the payload fits the namespace. Presence flags take any. -/
def Effect.valueFits (effect : Effect) : Bool :=
  match effect.kind, effect.value with
  | .bool, _ => true
  | .int, .int _ => true
  | .float, .float _ => true
  | .string, .text _ => true
  | _, _ => false

structure Choice where
  id : String
  prompt : String := ""
  table : Option String := none
  /-- The node it leads to; none ends the dialogue. -/
  target : Option String := none
  visible : Option Condition := none
  /-- Whether an offered choice can be taken. -/
  unlocked : Option Condition := none
  effects : List Effect := []

/-- A named way into the dialogue. -/
structure Trigger where
  /-- The name; blanks around it do not count. -/
  name : String
  /-- The node that the dialogue starts at. -/
  node : Option String := none
  deriving DecidableEq

end Script

structure Script where
  speakers : List Script.Speaker := []
  nodes : List Script.Node := []
  choices : List Script.Choice := []
  triggers : List Script.Trigger := []

namespace Script

def Trigger.trimmed (trigger : Trigger) : Trigger :=
  { trigger with name := Text.trim trigger.name }

/-- The triggers with trimmed names, by increasing name; those of equal names
keep their order. -/
def sortTriggers (triggers : List Trigger) : List Trigger :=
  (triggers.map Trigger.trimmed).mergeSort fun left right => left.name ≤ right.name

end Script

end Colloquy
