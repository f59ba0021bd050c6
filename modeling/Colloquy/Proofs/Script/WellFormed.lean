import Colloquy.Proofs.Condition.Tree
import Colloquy.Script.Validation

/-!
# Well-formed scripts

What a script must be like to have a graph, said entry by entry and without
reference to the checks: identifiers are distinct, references name entries of
the right kind, conditions can be evaluated, effects can be made and are
accepted by every store, and triggers have distinct names that show.
-/

namespace Colloquy.Script

open Colloquy.Flag (Kind)

def IsOperator (c : Char) : Prop :=
  c = '>' ∨ c = '<' ∨ c = '=' ∨ c = '!'

/-- A control character, or one that does not show or looks like a common blank. -/
def IsHidden (c : Char) : Prop :=
  c.toNat ≤ 0x1F ∨
    c.toNat ∈ [0x7F, 0xA0, 0xAD, 0x180E, 0x200B, 0x200C, 0x200D, 0x202F, 0x2060, 0xFEFF]

/-- The payloads that each kind of flag takes. A presence flag takes any. -/
inductive Fits : Kind → Payload → Prop
  | bool (payload : Payload) : Fits .bool payload
  | int (value : Int32) : Fits .int (.int value)
  | float (value : Number.Single) : Fits .float (.float value)
  | string (value : String) : Fits .string (.text value)

structure Effect.WellFormed (effect : Effect) : Prop where
  named : Text.trim effect.key ≠ ""
  plain : ∀ c ∈ (Text.trim effect.key).toList, ¬ IsOperator c
  fits : Fits effect.kind effect.value

structure Node.WellFormed (script : Script) (node : Node) : Prop where
  speaker : ∀ name, node.speaker = some name →
    ∃ entry ∈ script.speakers, entry.id = name
  choices : ∀ name ∈ node.choices, ∃ entry ∈ script.choices, entry.id = name

structure Choice.WellFormed (script : Script) (choice : Choice) : Prop where
  target : ∀ name, choice.target = some name → ∃ entry ∈ script.nodes, entry.id = name
  visible : ∀ tree, choice.visible = some tree → tree.Sound
  unlocked : ∀ tree, choice.unlocked = some tree → tree.Sound
  effects : ∀ effect ∈ choice.effects, effect.WellFormed

structure Trigger.WellFormed (script : Script) (trigger : Trigger) : Prop where
  named : Text.trim trigger.name ≠ ""
  shown : ∀ c ∈ (Text.trim trigger.name).toList, ¬ IsHidden c
  node : ∃ name, trigger.node = some name ∧ ∃ entry ∈ script.nodes, entry.id = name

structure WellFormed (script : Script) : Prop where
  speakerIds : (script.speakers.map (·.id)).Nodup
  nodeIds : (script.nodes.map (·.id)).Nodup
  choiceIds : (script.choices.map (·.id)).Nodup
  nodes : ∀ node ∈ script.nodes, node.WellFormed script
  choices : ∀ choice ∈ script.choices, choice.WellFormed script
  triggers : ∀ trigger ∈ script.triggers, trigger.WellFormed script
  triggerNames : (script.triggers.map fun trigger => Text.trim trigger.name).Nodup

end Colloquy.Script
