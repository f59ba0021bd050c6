import Colloquy.Flag.Store
import Colloquy.Script.Basic

/-!
# Effects

Typed changes of single flags, made from the loosely typed ones of a script. An
effect whose payload does not fit its namespace cannot be made. Applying an
effect is refused, by `none`, exactly when the store refuses the name.
-/

namespace Colloquy

open Colloquy.Flag (Store)
open Colloquy.Number (Single)

inductive Effect where
  | setBool (key : String)
  | setInt (key : String) (value : Int32)
  | addInt (key : String) (delta : Int32)
  | setFloat (key : String) (value : Single)
  | addFloat (key : String) (delta : Single)
  | setString (key : String) (value : String)
  deriving DecidableEq

namespace Effect

/-- Why an effect cannot be made: its payload does not fit. -/
structure Misfit where
  kind : Flag.Kind
  key : String
  value : Script.Payload
  deriving DecidableEq

def Misfit.message (misfit : Misfit) : String :=
  misfit.kind.title ++ " effect on '" ++ misfit.key ++ "' cannot carry " ++
    misfit.value.diagnostic

/-- The typed form of an authored effect, with a trimmed name. Presence flags
ignore operation and payload, text flags the operation. -/
def ofScript (effect : Script.Effect) : Except Misfit Effect :=
  let key := Text.trim effect.key
  match effect.kind, effect.operation, effect.value with
  | .bool, _, _ => .ok (.setBool key)
  | .int, .set, .int value => .ok (.setInt key value)
  | .int, .add, .int delta => .ok (.addInt key delta)
  | .float, .set, .float value => .ok (.setFloat key value)
  | .float, .add, .float delta => .ok (.addFloat key delta)
  | .string, _, .text value => .ok (.setString key value)
  | kind, _, value => .error ⟨kind, key, value⟩

/-- The typed forms of several effects, or the first misfit. -/
def ofScripts : List Script.Effect → Except Misfit (List Effect)
  | [] => .ok []
  | head :: tail => do
    let first ← ofScript head
    let others ← ofScripts tail
    return first :: others

def tryApply (store : Store) : Effect → Option Store
  | .setBool key => store.setBool? key
  | .setInt key value => store.setInt? key value
  | .addInt key delta => store.addInt? key delta
  | .setFloat key value => store.setFloat? key value
  | .addFloat key delta => store.addFloat? key delta
  | .setString key value => store.setString? key value

/-- The store after an effect; a refused one changes nothing. -/
def apply (store : Store) (effect : Effect) : Store :=
  (effect.tryApply store).getD store

def applyAll (effects : List Effect) (store : Store) : Store :=
  effects.foldl apply store

/-- The form in which a host logs an effect. No command shows it. -/
def text : Effect → String
  | .setBool key => "SetBool(\"" ++ key ++ "\")"
  | .setInt key value =>
      "SetInt(\"" ++ key ++ "\", " ++ Number.showInt value.toInt ++ ")"
  | .addInt key delta =>
      "AddInt(\"" ++ key ++ "\", " ++ Number.showInt delta.toInt ++ ")"
  | .setFloat key value => "SetFloat(\"" ++ key ++ "\", " ++ value.text ++ ")"
  | .addFloat key delta => "AddFloat(\"" ++ key ++ "\", " ++ delta.text ++ ")"
  | .setString key value => "SetString(\"" ++ key ++ "\", \"" ++ value ++ "\")"

end Effect

end Colloquy
