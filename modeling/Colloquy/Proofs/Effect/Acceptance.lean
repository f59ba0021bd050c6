import Colloquy.Proofs.Effect.Independence
import Colloquy.Proofs.Flag.Reachable
import Colloquy.Proofs.Graph.Positions

/-!
# Acceptance of authored effects

Validation looks at the trimmed key of an authored effect, its typed form keeps
the trimmed key, and a store trims that key and looks at it again. All three
judge alike, so that no store refuses an effect of a graph that was built,
whatever the effects before it did.
-/

namespace Colloquy

open Colloquy.Flag (IsKey Store Target isName)

/-- The flag that an authored effect is meant for. -/
def Script.Effect.target (authored : Script.Effect) : Target :=
  ⟨authored.kind, Text.trim authored.key⟩

namespace Effect

section Bound

variable {target : Target}

/-- No effect takes the value of a target away. -/
theorem isSome_value?_apply
    {store : Store}
    (isBound : (store.value? target).isSome)
    (effect : Effect) :
    ((effect.apply store).value? target).isSome := by
  by_cases isTarget : effect.target = target
  · subst isTarget
    by_cases free : isName effect.key = true
    · obtain ⟨value, -, applied⟩ := exists_apply_eq_bindAt free store
      rw [applied, Store.value?_bindAt_self]
      rfl
    · rw [apply_of_not_isName (Bool.eq_false_of_not_eq_true free)]
      exact isBound
  · rw [value?_apply_of_ne isTarget]
    exact isBound

private theorem isSome_value?_applyAll
    {store : Store}
    (isBound : (store.value? target).isSome)
    (effects : List Effect) :
    ((applyAll effects store).value? target).isSome := by
  induction effects generalizing store with
  | nil =>
      exact isBound
  | cons head tail inductionHypothesis =>
      exact inductionHypothesis (isSome_value?_apply isBound head)

end Bound

section Typed

variable {authored : Script.Effect} {effect : Effect}

private theorem target_of_ofScript (made : ofScript authored = .ok effect) :
    effect.target = authored.target := by
  unfold ofScript at made
  split at made
  all_goals cases made
  all_goals simp_all [Effect.target, Effect.kind, Effect.key, Script.Effect.target]

private theorem isKey_target (wellFormed : authored.WellFormed) :
    IsKey authored.target.name where
  trimmed := Text.trim_trim authored.key
  free := Script.isName_iff.2 wellFormed.plain

/-- Every store accepts the typed form of a well-formed effect, and binds the
flag that is meant. -/
theorem exists_tryApply_eq_of_ofScript
    (wellFormed : authored.WellFormed)
    (made : ofScript authored = .ok effect)
    (store : Store) :
    ∃ value, effect.tryApply store = some (store.bindAt authored.target value) := by
  have sameTarget := target_of_ofScript made
  have sameKey : Text.trim effect.key = authored.target.name :=
    congrArg Target.name sameTarget
  have free : isName effect.key = true := by
    rw [← Flag.isName_trim, sameKey]
    exact (isKey_target wellFormed).free
  rw [← sameTarget]
  obtain ⟨value, -, accepted⟩ := exists_tryApply_eq_bindAt free store
  exact ⟨value, accepted⟩

private theorem isSome_value?_apply_of_ofScript
    (wellFormed : authored.WellFormed)
    (made : ofScript authored = .ok effect)
    (store : Store) :
    ((effect.apply store).value? authored.target).isSome := by
  obtain ⟨value, accepted⟩ := exists_tryApply_eq_of_ofScript wellFormed made store
  rw [apply, accepted, Option.getD_some, Store.value?_bindAt_self]
  rfl

end Typed

/-- Authored effects and their typed forms, one for one. -/
abbrev TypedAs : List Script.Effect → List Effect → Prop :=
  List.Forall₂ fun authored effect => ofScript authored = .ok effect

/-- What comes of typed effects of authored ones, applied to a store one after
another. -/
structure NeverRefused
    (authored : List Script.Effect) (effects : List Effect) (store : Store) :
    Prop where
  /-- When its turn comes, an effect is not refused. What it writes, and all
  that it writes, is a value under a proper key in the namespace of its authored
  kind. -/
  accepted :
    ∀ before effect after, effects = before ++ effect :: after →
      ∃ origin, authored[before.length]? = some origin ∧
        IsKey origin.target.name ∧ origin.target.name ≠ "" ∧
        ∃ value, effect.tryApply (applyAll before store) =
          some ((applyAll before store).bindAt origin.target value)
  /-- At the end every flag that is meant has a value. -/
  bound :
    ∀ origin ∈ authored, ∃ value,
      (applyAll effects store).value? origin.target = some value

section Lists

variable {authored : List Script.Effect} {effects : List Effect}

private theorem TypedAs.exists_origin
    {before after : List Effect} {effect : Effect}
    (typed : TypedAs authored (before ++ effect :: after)) :
    ∃ origin, authored[before.length]? = some origin ∧
      ofScript origin = .ok effect := by
  have remaining := List.forall₂_drop_append _ before _ typed
  obtain ⟨origin, rest, made, -, split⟩ := List.forall₂_cons_right_iff.1 remaining
  refine ⟨origin, ?_, made⟩
  rw [← List.head?_drop, split, List.head?_cons]

/-- What is bound by one effect stays bound under the later ones. -/
private theorem TypedAs.isSome_value?_applyAll
    (typed : TypedAs authored effects)
    (wellFormed : ∀ origin ∈ authored, origin.WellFormed)
    {origin : Script.Effect}
    (member : origin ∈ authored)
    (store : Store) :
    ((applyAll effects store).value? origin.target).isSome := by
  induction typed generalizing store with
  | nil =>
      cases member
  | @cons head effect authored effects made _ inductionHypothesis =>
      obtain ⟨headWellFormed, tailWellFormed⟩ := List.forall_mem_cons.1 wellFormed
      rcases List.mem_cons.1 member with rfl | later
      · exact Effect.isSome_value?_applyAll
          (isSome_value?_apply_of_ofScript headWellFormed made store) effects
      · exact inductionHypothesis tailWellFormed later (effect.apply store)

private theorem TypedAs.neverRefused
    (typed : TypedAs authored effects)
    (wellFormed : ∀ origin ∈ authored, origin.WellFormed)
    (store : Store) :
    NeverRefused authored effects store where
  accepted := by
    rintro before effect after rfl
    obtain ⟨origin, here, made⟩ := typed.exists_origin
    have originWellFormed := wellFormed origin (List.mem_of_getElem? here)
    exact ⟨origin, here, isKey_target originWellFormed, originWellFormed.named,
      exists_tryApply_eq_of_ofScript originWellFormed made (applyAll before store)⟩
  bound := by
    intro origin member
    exact Option.isSome_iff_exists.1
      (typed.isSome_value?_applyAll wellFormed member store)

end Lists

end Effect

/-! ## Built graphs -/

namespace Graph

/-- No store refuses an effect of a choice of a graph that was built from a script. -/
theorem authored_effects_are_never_refused
    {script : Script} {graph : Graph}
    (built : ofScript script = .ok graph)
    (store : Store) :
    List.Forall₂
      (fun entry choice => Effect.NeverRefused entry.effects choice.effects store)
      script.choices graph.choices := by
  obtain ⟨wellFormed, rfl⟩ := eq_image_of_ofScript_eq_ok built
  apply forall₂_map
  intro entry member
  have effectsWellFormed := (wellFormed.choices entry member).effects
  have typed : Effect.TypedAs entry.effects (choiceImage script entry).effects :=
    forall₂_of_ofScripts (ofScripts_eq_typedEffects effectsWellFormed)
  exact typed.neverRefused effectsWellFormed store

/-- A choice with effects of all kinds: operations and payloads that are
ignored, padded keys, and one name in two namespaces. -/
def smithyScript : Script where
  nodes := [{ id := "anvil", text := "Sparks fly.", choices := ["forge"] }]
  choices := [
    { id := "forge"
      target := some "anvil"
      effects := [
        { kind := .bool, operation := .add, key := " blade\t", value := .int 9 },
        { kind := .int, key := "heat", value := .int 2147483647 },
        { kind := .int, operation := .add, key := " heat ", value := .int 1 },
        { kind := .float, operation := .add, key := "heat",
          value := .float (.infinite true) },
        { kind := .string, operation := .add, key := "the smith",
          value := .text " tired " }] }]
  triggers := [{ name := "smithy", node := some "anvil" }]

def smithyGraph : Graph where
  nodes := [{ symbol := "anvil", text := "Sparks fly.", choices := [⟨0⟩] }]
  choices := [
    { symbol := "forge"
      target := some ⟨0⟩
      effects := [
        .setBool "blade", .setInt "heat" 2147483647, .addInt "heat" 1,
        .addFloat "heat" (.infinite true), .setString "the smith" " tired "] }]
  triggers := (TriggerMap.ofEntries [("smithy", some ⟨0⟩)]).prepare

/-- A store before the forging, with the name that is added to bound as a text. -/
def coldForge : Store where
  strings := Flag.Bindings.empty.insert "heat" "low"

theorem effects_of_smithy_are_never_refused :
    ofScript smithyScript = .ok smithyGraph ∧
      List.Forall₂
        (fun entry choice => Effect.NeverRefused entry.effects choice.effects coldForge)
        smithyScript.choices smithyGraph.choices := by
  have built : ofScript smithyScript = .ok smithyGraph := rfl
  exact ⟨built, authored_effects_are_never_refused built coldForge⟩

end Graph

end Colloquy
