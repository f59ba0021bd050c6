import Colloquy.Graph.Build
import Colloquy.Proofs.Script.WellFormed

/-!
# Resolving names

The image of a script is the graph in which each name is replaced by its
position among the identifiers. Building enters speakers, nodes and choices one
after another, attaches the choices to the nodes and enters the triggers; of a
well-formed script each of these phases succeeds and leaves the corresponding
part of the image.
-/

namespace Colloquy.Graph

open Colloquy.Flag (Bindings)

section Image

variable (script : Script)

def speakerId (name : String) : SpeakerId := ⟨(script.speakers.map (·.id)).idxOf name⟩

def nodeId (name : String) : NodeId := ⟨(script.nodes.map (·.id)).idxOf name⟩

def choiceId (name : String) : ChoiceId := ⟨(script.choices.map (·.id)).idxOf name⟩

def speakerImage (entry : Script.Speaker) : Speaker where
  symbol := entry.id
  name := entry.name
  portrait := entry.portrait
  table := entry.table

def bareNode (entry : Script.Node) : Node where
  symbol := entry.id
  speaker := entry.speaker.map (speakerId script)
  text := entry.text
  table := entry.table

def nodeImage (entry : Script.Node) : Node :=
  { bareNode script entry with choices := entry.choices.map (choiceId script) }

def typedEffects (effects : List Script.Effect) : List Effect :=
  effects.filterMap fun effect => (Effect.ofScript effect).toOption

def choiceImage (entry : Script.Choice) : Choice where
  symbol := entry.id
  prompt := entry.prompt
  table := entry.table
  target := entry.target.map (nodeId script)
  visible := entry.visible
  unlocked := entry.unlocked
  effects := typedEffects entry.effects

def triggerImage (entry : Script.Trigger) : String × Option NodeId :=
  (Text.trim entry.name, entry.node.map (nodeId script))

/-- The script with names replaced by positions. -/
def image : Graph where
  speakers := script.speakers.map speakerImage
  nodes := script.nodes.map (nodeImage script)
  choices := script.choices.map (choiceImage script)
  triggers := (TriggerMap.ofEntries (script.triggers.map (triggerImage script))).prepare

end Image

/-- The table holds the position of each of the names. -/
def Tabulates
    {α : Type} (make : Nat → α) (table : Bindings α) (names : List String) : Prop :=
  ∀ name ∈ names, table.find? name = some (make (names.idxOf name))

theorem tabulates_empty {α : Type} (make : Nat → α) : Tabulates make .empty [] := by
  intro name member
  cases member

/-- A table is extended by a new name at the next position. -/
theorem Tabulates.insert
    {α : Type} {make : Nat → α} {table : Bindings α} {names : List String}
    (tabulates : Tabulates make table names)
    {added : String}
    (fresh : added ∉ names) :
    Tabulates make (table.insert added (make names.length)) (names ++ [added]) := by
  intro name member
  by_cases equal : name = added
  · rw [equal, Bindings.find?_insert_self, List.idxOf_append, if_neg fresh,
      List.idxOf_cons_self, Nat.zero_add]
  · have earlier : name ∈ names := by
      simpa [equal] using member
    rw [Bindings.find?_insert_of_ne table _ equal, tabulates name earlier,
      List.idxOf_append, if_pos earlier]

/-- Entering one more entry at the next position extends a table of entries. -/
theorem Tabulates.insert_next
    {α β : Type} {make : Nat → α} {table : Bindings α} {identify : β → String}
    {entries : List β}
    (tabulates : Tabulates make table (entries.map identify))
    {added : β} {position : Nat}
    (fresh : identify added ∉ entries.map identify)
    (next : position = entries.length) :
    Tabulates make (table.insert (identify added) (make position))
      ((entries ++ [added]).map identify) := by
  have extended := tabulates.insert fresh
  rw [List.length_map, ← next] at extended
  rw [List.map_append]
  exact extended

/-- If each step succeeds and carries what holds of the entries before it over
to one entry more, then the whole fold succeeds. -/
theorem foldlM_ok_of_steps
    {ε σ α : Type} {step : σ → α → Except ε σ} {entries : List α}
    (Holds : List α → σ → Prop)
    (each : ∀ before entry after state, entries = before ++ entry :: after →
      Holds before state →
        ∃ next, step state entry = .ok next ∧ Holds (before ++ [entry]) next)
    {initial : σ}
    (start : Holds [] initial) :
    ∃ final, entries.foldlM step initial = .ok final ∧ Holds entries final := by
  have general :
      ∀ after before state, entries = before ++ after → Holds before state →
        ∃ final, after.foldlM step state = .ok final ∧ Holds entries final := by
    intro after
    induction after with
    | nil =>
        intro before state split holds
        refine ⟨state, rfl, ?_⟩
        rw [split, List.append_nil]
        exact holds
    | cons entry rest inductionHypothesis =>
        intro before state split holds
        obtain ⟨next, stepped, nextHolds⟩ := each before entry rest state split holds
        obtain ⟨final, folded, finalHolds⟩ :=
          inductionHypothesis (before ++ [entry]) next (by simp [split]) nextHolds
        refine ⟨final, ?_, finalHolds⟩
        rw [List.foldlM_cons, stepped]
        exact folded
  exact general entries [] initial rfl start

theorem not_mem_map_of_nodup
    {α : Type} {identify : α → String} {entries before after : List α} {entry : α}
    (nodup : (entries.map identify).Nodup)
    (split : entries = before ++ entry :: after) :
    identify entry ∉ before.map identify := by
  rw [split, List.map_append, List.map_cons] at nodup
  intro member
  exact (List.nodup_append.1 nodup).2.2 _ member _ List.mem_cons_self rfl

/-- Among distinct names that of an entry is found where the entry stands. -/
theorem idxOf_map_of_nodup
    {α : Type} {identify : α → String} {entries before after : List α} {entry : α}
    (nodup : (entries.map identify).Nodup)
    (split : entries = before ++ entry :: after) :
    (entries.map identify).idxOf (identify entry) = before.length := by
  have fresh := not_mem_map_of_nodup nodup split
  rw [split, List.map_append, List.map_cons, List.idxOf_append, if_neg fresh,
    List.idxOf_cons_self, Nat.zero_add, List.length_map]

private theorem Tabulates.find?_position
    {α : Type} {make : Nat → α} {table : Bindings α} {β : Type} {identify : β → String}
    {entries : List β}
    (tabulates : Tabulates make table (entries.map identify))
    {name : String}
    (known : ∃ entry ∈ entries, identify entry = name) :
    table.find? name = some (make ((entries.map identify).idxOf name)) :=
  tabulates name (List.mem_map.2 known)

theorem resolve?_eq_map
    {α : Type} {find : String → Except BuildError α} {position : String → α}
    {optional : Option String}
    (each : ∀ name, optional = some name → find name = .ok (position name)) :
    resolve? find optional = .ok (optional.map position) := by
  cases optional with
  | none =>
      rfl
  | some name =>
      rw [resolve?, each name rfl]
      rfl

section Symbols

variable {script : Script} {symbols : Symbols} {name : String}

theorem Symbols.speaker_eq
    (tabulates : Tabulates SpeakerId.mk symbols.speakers (script.speakers.map (·.id)))
    (known : ∃ entry ∈ script.speakers, entry.id = name) :
    symbols.speaker name = .ok (speakerId script name) := by
  rw [Symbols.speaker, tabulates.find?_position known]
  rfl

theorem Symbols.node_eq
    (tabulates : Tabulates NodeId.mk symbols.nodes (script.nodes.map (·.id)))
    (known : ∃ entry ∈ script.nodes, entry.id = name) :
    symbols.node name = .ok (nodeId script name) := by
  rw [Symbols.node, tabulates.find?_position known]
  rfl

theorem Symbols.choice_eq
    (tabulates : Tabulates ChoiceId.mk symbols.choices (script.choices.map (·.id)))
    (known : ∃ entry ∈ script.choices, entry.id = name) :
    symbols.choice name = .ok (choiceId script name) := by
  rw [Symbols.choice, tabulates.find?_position known]
  rfl

end Symbols

/-! ## Effects -/

private theorem exists_ofScript_of_fits
    {effect : Script.Effect}
    (fits : Script.Fits effect.kind effect.value) :
    ∃ typed, Effect.ofScript effect = .ok typed := by
  obtain ⟨kind, operation, key, value⟩ := effect
  cases fits with
  | bool payload =>
      exact ⟨_, rfl⟩
  | int value =>
      cases operation <;> exact ⟨_, rfl⟩
  | float value =>
      cases operation <;> exact ⟨_, rfl⟩
  | string value =>
      exact ⟨_, rfl⟩

/-- Well-formed effects can all be typed. -/
theorem ofScripts_eq_typedEffects
    {effects : List Script.Effect}
    (wellFormed : ∀ effect ∈ effects, effect.WellFormed) :
    Effect.ofScripts effects = .ok (typedEffects effects) := by
  induction effects with
  | nil =>
      rfl
  | cons head tail inductionHypothesis =>
      obtain ⟨headWellFormed, tailWellFormed⟩ := List.forall_mem_cons.1 wellFormed
      obtain ⟨typed, made⟩ := exists_ofScript_of_fits headWellFormed.fits
      have typedCons : typedEffects (head :: tail) = typed :: typedEffects tail := by
        simp [typedEffects, made, Except.toOption]
      rw [Effect.ofScripts, made, inductionHypothesis tailWellFormed, typedCons]
      rfl

end Colloquy.Graph
