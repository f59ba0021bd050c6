import Colloquy.Ron.Decode
import Colloquy.Script.Basic

/-!
# Script documents

The written form of a script: a RON record of lists of records. Conditions are
written as nested variants. Most fields have defaults.
-/

namespace Colloquy.Script

open Colloquy.Ron
  (Value Extensions Decoder text? list? option? record? required? defaulted?)

def readKind? : Decoder Flag.Kind
  | .name "Bool" => some .bool
  | .name "Int" => some .int
  | .name "Float" => some .float
  | .name "String" => some .string
  | _ => none

def readOperation? : Decoder Operation
  | .name "Set" => some .set
  | .name "Add" => some .add
  | _ => none

def readPayload? : Decoder Payload
  | .absent => some .none
  | .tuple (some "Int") [value] => (Ron.integer? value).map .int
  | .tuple (some "Float") [value] => (Ron.float? value).map .float
  | .tuple (some "Text") [value] => (text? value).map .text
  | _ => none

mutual

def readCondition? : Value → Option Condition
  | .tuple (some "value") [.text leaf] => some (.flag leaf)
  | .tuple (some "and") [.list parts] => (readConditions? parts).map .all
  | .tuple (some "or") [.list parts] => (readConditions? parts).map .any
  | .tuple (some "not") [.list parts] => (readConditions? parts).map .negation
  | _ => none

def readConditions? : List Value → Option (List Condition)
  | [] => some []
  | head :: tail => do some ((← readCondition? head) :: (← readConditions? tail))

end

/-- The nesting budget left for a field of an entry of a script. -/
def fieldBudget : Nat := Ron.nestingLimit - 6

def optionalText?
    (extensions : Extensions) (entries : List (String × Value)) (key : String) :
    Option (Option String) :=
  defaulted? entries key none (option? extensions fieldBudget text?)

def readSpeaker? (extensions : Extensions) : Decoder Speaker := fun value => do
  let entries ← record? extensions "SpeakerDef"
    ["id", "name", "portrait", "table"] value
  some {
    id := ← required? entries "id" text?
    name := ← required? entries "name" text?
    portrait := ← defaulted? entries "portrait" "" text?
    table := ← optionalText? extensions entries "table" }

def readNode? (extensions : Extensions) : Decoder Node := fun value => do
  let entries ← record? extensions "NodeDef"
    ["id", "speaker", "text", "table", "choices"] value
  some {
    id := ← required? entries "id" text?
    speaker := ← optionalText? extensions entries "speaker"
    text := ← required? entries "text" text?
    table := ← optionalText? extensions entries "table"
    choices := ← defaulted? entries "choices" [] (list? text?) }

def readEffect? (extensions : Extensions) : Decoder Effect := fun value => do
  let entries ← record? extensions "EffectDef" ["flag_type", "op", "key", "value"] value
  some {
    kind := ← required? entries "flag_type" readKind?
    operation := ← defaulted? entries "op" .set readOperation?
    key := ← required? entries "key" text?
    value := ← defaulted? entries "value" .none readPayload? }

def readChoice? (extensions : Extensions) : Decoder Choice := fun value => do
  let entries ← record? extensions "ChoiceDef"
    ["id", "prompt", "table", "target", "visible", "unlocked", "effects"] value
  some {
    id := ← required? entries "id" text?
    prompt := ← defaulted? entries "prompt" "" text?
    table := ← optionalText? extensions entries "table"
    target := ← optionalText? extensions entries "target"
    visible := ← defaulted? entries "visible" none
      (option? extensions fieldBudget readCondition?)
    unlocked := ← defaulted? entries "unlocked" none
      (option? extensions fieldBudget readCondition?)
    effects := ← defaulted? entries "effects" [] (list? (readEffect? extensions)) }

def readTrigger? (extensions : Extensions) : Decoder Trigger := fun value => do
  let entries ← record? extensions "TriggerDef" ["trigger", "node"] value
  some {
    name := ← required? entries "trigger" text?
    node := ← optionalText? extensions entries "node" }

def readScript? (extensions : Extensions) : Decoder Script := fun value => do
  let entries ← record? extensions "DialogueDef"
    ["speakers", "nodes", "choices", "triggers"] value
  some {
    speakers := ← defaulted? entries "speakers" [] (list? (readSpeaker? extensions))
    nodes := ← defaulted? entries "nodes" [] (list? (readNode? extensions))
    choices := ← defaulted? entries "choices" [] (list? (readChoice? extensions))
    triggers := ← defaulted? entries "triggers" [] (list? (readTrigger? extensions)) }

def ofDocument (text : String) : Except Ron.Fault Script :=
  Ron.decode readScript? text

end Colloquy.Script
