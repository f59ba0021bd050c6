import Colloquy.Proofs.Graph.Closed
import Colloquy.Proofs.Outcome
import Colloquy.Proofs.Text.Blank
import Mathlib.Data.List.Forall2
import Mathlib.Data.List.Nodup

/-!
# Names and positions

The graph of a script is the script with its names replaced by positions. This
is said here entry by entry, without reference to how the graph is built: which
position stands for a name, what each entry of the graph takes over from the
script, and what the look-ups by name answer.
-/

namespace Colloquy.Graph

/-- An identifier stands at a position and nowhere else. -/
structure PositionOf (ids : List String) (name : String) (index : Nat) : Prop where
  found : ids[index]? = some name
  only : ∀ other, ids[other]? = some name → other = index

private theorem positionOf_of_getElem?
    {ids : List String} {name : String} {index : Nat}
    (nodup : ids.Nodup)
    (found : ids[index]? = some name) :
    PositionOf ids name index where
  found := found
  only := by
    intro other otherFound
    have bound : other < ids.length := (List.getElem?_eq_some_iff.1 otherFound).1
    exact (List.getElem?_inj bound nodup).1 (otherFound.trans found.symm)

private theorem positionOf_idxOf
    {ids : List String} {name : String}
    (nodup : ids.Nodup)
    (member : name ∈ ids) :
    PositionOf ids name (ids.idxOf name) := by
  apply positionOf_of_getElem? nodup
  have bound : ids.idxOf name < ids.length := List.idxOf_lt_length_of_mem member
  rw [List.getElem?_eq_getElem bound, List.getElem_idxOf bound]

private theorem findIdx?_eq_some_iff_positionOf
    {ids : List String} {name : String} {index : Nat}
    (nodup : ids.Nodup) :
    ids.findIdx? (· = name) = some index ↔ PositionOf ids name index := by
  rw [List.findIdx?_eq_some_iff_getElem]
  constructor
  · rintro ⟨bound, here, _⟩
    apply positionOf_of_getElem? nodup
    rw [List.getElem?_eq_getElem bound, of_decide_eq_true here]
  · intro position
    obtain ⟨bound, here⟩ := List.getElem?_eq_some_iff.1 position.found
    refine ⟨bound, decide_eq_true here, ?_⟩
    intro earlier before there
    have earlierBound : earlier < ids.length := Nat.lt_trans before bound
    have same : earlier = index := by
      apply position.only
      rw [List.getElem?_eq_getElem earlierBound, of_decide_eq_true there]
    exact absurd before (by simp [same])

/-- Of entries with distinct identifiers one has a given identifier. -/
theorem filter_eq_singleton
    {α : Type} {identify : α → String} {entries : List α} {entry : α}
    (nodup : (entries.map identify).Nodup)
    (member : entry ∈ entries) :
    entries.filter (fun other => identify other = identify entry) = [entry] := by
  induction entries with
  | nil =>
      cases member
  | cons head tail inductionHypothesis =>
      obtain ⟨fresh, tailNodup⟩ := List.nodup_cons.1 nodup
      rcases List.mem_cons.1 member with here | later
      · subst here
        have noOther :
            tail.filter (fun other => identify other = identify entry) = [] := by
          rw [List.filter_eq_nil_iff]
          intro other otherMember same
          apply fresh
          rw [← of_decide_eq_true same]
          exact List.mem_map_of_mem otherMember
        rw [List.filter_cons_of_pos (by simp), noOther]
      · have different : identify head ≠ identify entry := by
          intro same
          apply fresh
          rw [same]
          exact List.mem_map_of_mem later
        rw [List.filter_cons_of_neg (by simpa using different)]
        exact inductionHypothesis tailNodup later

section Entries

variable (script : Script)

structure RepresentsSpeaker (entry : Script.Speaker) (speaker : Speaker) : Prop where
  symbol : speaker.symbol = entry.id
  name : speaker.name = entry.name
  portrait : speaker.portrait = entry.portrait
  table : speaker.table = entry.table

structure RepresentsNode (entry : Script.Node) (node : Node) : Prop where
  symbol : node.symbol = entry.id
  text : node.text = entry.text
  table : node.table = entry.table
  speaker :
    Option.Rel (fun name id => PositionOf script.speakerIds name id.index)
      entry.speaker node.speaker
  /-- The choices in the order of the script, each as often as it is named there. -/
  choices :
    List.Forall₂ (fun name id => PositionOf script.choiceIds name id.index)
      entry.choices node.choices

structure RepresentsChoice (entry : Script.Choice) (choice : Choice) : Prop where
  symbol : choice.symbol = entry.id
  prompt : choice.prompt = entry.prompt
  table : choice.table = entry.table
  target :
    Option.Rel (fun name id => PositionOf script.nodeIds name id.index)
      entry.target choice.target
  visible : choice.visible = entry.visible
  unlocked : choice.unlocked = entry.unlocked
  effects :
    List.Forall₂ (fun authored typed => Effect.ofScript authored = .ok typed)
      entry.effects choice.effects

structure RepresentsTrigger
    (entry : Script.Trigger) (start : String × Option NodeId) : Prop where
  name : start.1 = Text.trim entry.name
  node :
    Option.Rel
      (fun name id => PositionOf script.nodeIds name id.index) entry.node start.2

/-- The triggers that a name calls. Blanks around names do not count. -/
def triggersCalled (name : String) : List Script.Trigger :=
  script.triggers.filter fun trigger => Text.trim trigger.name = Text.trim name

/-- The graph is the script with names replaced by positions. -/
structure Represents (graph : Graph) : Prop where
  speakers : List.Forall₂ RepresentsSpeaker script.speakers graph.speakers
  nodes : List.Forall₂ (RepresentsNode script) script.nodes graph.nodes
  choices : List.Forall₂ (RepresentsChoice script) script.choices graph.choices
  triggers : List.Forall₂
    (RepresentsTrigger script) script.triggers graph.triggers.entries
  findNode :
    ∀ name index, graph.findNode? name = some ⟨index⟩ ↔
      PositionOf script.nodeIds name index
  /-- A name that some trigger has calls no other trigger, and starts at the
  node of that one. -/
  start :
    ∀ trigger ∈ script.triggers, ∀ name, Text.trim trigger.name = Text.trim name →
      triggersCalled script name = [trigger] ∧
        ∃ node index, trigger.node = some node ∧ PositionOf script.nodeIds node index ∧
          graph.start? name = some ⟨index⟩
  noStart : ∀ name, triggersCalled script name = [] → graph.start? name = none

end Entries

private theorem optionRel_map
    {α β : Type} {Related : α → β → Prop} {convert : α → β} {optional : Option α}
    (each : ∀ value, optional = some value → Related value (convert value)) :
    Option.Rel Related optional (optional.map convert) := by
  cases optional with
  | none =>
      exact .none
  | some value =>
      exact .some (each value rfl)

theorem forall₂_map
    {α β : Type} {Related : α → β → Prop} {convert : α → β} {entries : List α}
    (each : ∀ entry ∈ entries, Related entry (convert entry)) :
    List.Forall₂ Related entries (entries.map convert) :=
  List.forall₂_map_right_iff.2 (List.forall₂_same.2 each)

theorem forall₂_of_ofScripts
    {effects : List Script.Effect} {typed : List Effect}
    (made : Effect.ofScripts effects = .ok typed) :
    List.Forall₂
      (fun authored typed => Effect.ofScript authored = .ok typed) effects typed := by
  induction effects generalizing typed with
  | nil =>
      cases made
      exact .nil
  | cons head tail inductionHypothesis =>
      simp only [Effect.ofScripts, bind_eq_ok_iff] at made
      obtain ⟨first, headMade, others, tailMade, result⟩ := made
      cases result
      exact .cons headMade (inductionHypothesis tailMade)

section Image

variable {script : Script} (wellFormed : Script.WellFormed script)
include wellFormed

private theorem positionOf_speakerId
    {name : String}
    (known : ∃ entry ∈ script.speakers, entry.id = name) :
    PositionOf script.speakerIds name (speakerId script name).index :=
  positionOf_idxOf wellFormed.speakerIds (List.mem_map.2 known)

private theorem positionOf_nodeId
    {name : String}
    (known : ∃ entry ∈ script.nodes, entry.id = name) :
    PositionOf script.nodeIds name (nodeId script name).index :=
  positionOf_idxOf wellFormed.nodeIds (List.mem_map.2 known)

private theorem positionOf_choiceId
    {name : String}
    (known : ∃ entry ∈ script.choices, entry.id = name) :
    PositionOf script.choiceIds name (choiceId script name).index :=
  positionOf_idxOf wellFormed.choiceIds (List.mem_map.2 known)

private theorem representsNode_nodeImage
    {entry : Script.Node}
    (member : entry ∈ script.nodes) :
    RepresentsNode script entry (nodeImage script entry) where
  symbol := rfl
  text := rfl
  table := rfl
  speaker := by
    apply optionRel_map
    intro name named
    exact positionOf_speakerId wellFormed
      ((wellFormed.nodes entry member).speaker name named)
  choices := by
    apply forall₂_map
    intro name named
    exact positionOf_choiceId wellFormed
      ((wellFormed.nodes entry member).choices name named)

private theorem representsChoice_choiceImage
    {entry : Script.Choice}
    (member : entry ∈ script.choices) :
    RepresentsChoice script entry (choiceImage script entry) where
  symbol := rfl
  prompt := rfl
  table := rfl
  target := by
    apply optionRel_map
    intro name named
    exact positionOf_nodeId wellFormed
      ((wellFormed.choices entry member).target name named)
  visible := rfl
  unlocked := rfl
  effects :=
    forall₂_of_ofScripts
      (ofScripts_eq_typedEffects (wellFormed.choices entry member).effects)

private theorem representsTrigger_triggerImage
    {entry : Script.Trigger}
    (member : entry ∈ script.triggers) :
    RepresentsTrigger script entry (triggerImage script entry) where
  name := rfl
  node := by
    apply optionRel_map
    intro name named
    obtain ⟨start, startNamed, known⟩ := (wellFormed.triggers entry member).node
    have same : start = name := Option.some.inj (startNamed.symm.trans named)
    rw [← same]
    exact positionOf_nodeId wellFormed known

private theorem findNode?_image (name : String) (index : Nat) :
    (image script).findNode? name = some ⟨index⟩ ↔
      PositionOf script.nodeIds name index := by
  have search :
      (image script).findNode? name = (script.nodeIds.findIdx? (· = name)).map .mk := by
    simp only [findNode?, image, Script.nodeIds, List.findIdx?_map]
    rfl
  have nodup : script.nodeIds.Nodup := wellFormed.nodeIds
  rw [search, ← findIdx?_eq_some_iff_positionOf nodup]
  simp

/-- The start node is that of the first trigger called; a blank name calls none.
The table skips blank names; no trigger of a well-formed script has one, so the
trimmed names decide alone. -/
theorem start?_image_eq_findSome? (name : String) :
    (image script).start? name =
      (triggersCalled script name).findSome? fun trigger =>
        trigger.node.map (nodeId script) := by
  rw [start?_image, List.findSome?_map, triggersCalled, ← List.head?_filterMap,
    ← List.head?_filterMap, List.filterMap_filter]
  refine congrArg List.head? (List.filterMap_congr fun trigger member => ?_)
  have named : Text.trim trigger.name ≠ "" := (wellFormed.triggers trigger member).named
  by_cases same : Text.trim trigger.name = Text.trim name
  · rw [same] at named
    simp [startUnder, triggerImage, same, named]
  · simp [startUnder, triggerImage, same]

private theorem triggersCalled_eq_singleton
    {trigger : Script.Trigger} {name : String}
    (member : trigger ∈ script.triggers)
    (same : Text.trim trigger.name = Text.trim name) :
    triggersCalled script name = [trigger] := by
  rw [triggersCalled, ← same]
  exact filter_eq_singleton wellFormed.triggerNames member

theorem start?_image_of_trigger
    {trigger : Script.Trigger} {name : String}
    (member : trigger ∈ script.triggers)
    (same : Text.trim trigger.name = Text.trim name) :
    ∃ node index, trigger.node = some node ∧ PositionOf script.nodeIds node index ∧
      (image script).start? name = some ⟨index⟩ := by
  obtain ⟨node, named, known⟩ := (wellFormed.triggers trigger member).node
  refine ⟨node, (nodeId script node).index, named, positionOf_nodeId wellFormed known,
    ?_⟩
  rw [start?_image_eq_findSome? wellFormed,
    triggersCalled_eq_singleton wellFormed member same]
  simp [named]

/-- The image of a well-formed script represents it. -/
private theorem represents_image : Represents script (image script) where
  speakers := forall₂_map fun _ _ => ⟨rfl, rfl, rfl, rfl⟩
  nodes := forall₂_map fun _ => representsNode_nodeImage wellFormed
  choices := forall₂_map fun _ => representsChoice_choiceImage wellFormed
  triggers := forall₂_map fun _ => representsTrigger_triggerImage wellFormed
  findNode := findNode?_image wellFormed
  start := by
    intro trigger member name same
    exact ⟨triggersCalled_eq_singleton wellFormed member same,
      start?_image_of_trigger wellFormed member same⟩
  noStart := by
    intro name noneCalled
    rw [start?_image_eq_findSome? wellFormed, noneCalled]
    rfl

end Image

/-! ## Graphs of scripts -/

/-- A graph that was built is the script with names replaced by positions. -/
theorem built_graph_represents_script
    (script : Script) (graph : Graph)
    (built : ofScript script = .ok graph) :
    Represents script graph := by
  obtain ⟨wellFormed, rfl⟩ := eq_image_of_ofScript_eq_ok built
  exact represents_image wellFormed

/-- A way back, a choice that is named twice, padded names, and a negation with
an ignored part. -/
def tavernScript : Script where
  speakers := [
    { id := "patron", name := "A patron", table := some "names" },
    { id := "host", name := "The host", portrait := "host.png" }]
  nodes := [
    { id := "bar", speaker := some "host", text := "Thirsty?",
      choices := ["ale", "leave", "ale"] },
    { id := "served", text := "Cheers.", choices := ["again"] }]
  choices := [
    { id := "again", target := some "bar" },
    { id := "leave", prompt := "Leave",
      visible := some (.negation [.flag "locked", .flag "late"]) },
    { id := "ale"
      prompt := "An ale"
      target := some "served"
      effects :=
        [{ kind := .int, operation := .add, key := " ales ", value := .int 1 }] }]
  triggers :=
    [{ name := " cellar", node := some "served" },
      { name := "bar\t", node := some "bar" }]

def tavernGraph : Graph where
  speakers := [
    { symbol := "patron", name := "A patron", table := some "names" },
    { symbol := "host", name := "The host", portrait := "host.png" }]
  nodes := [
    { symbol := "bar", speaker := some ⟨1⟩, text := "Thirsty?",
      choices := [⟨2⟩, ⟨1⟩, ⟨2⟩] },
    { symbol := "served", text := "Cheers.", choices := [⟨0⟩] }]
  choices := [
    { symbol := "again", target := some ⟨0⟩ },
    { symbol := "leave"
      prompt := "Leave"
      visible := some (.negation [.flag "locked", .flag "late"]) },
    { symbol := "ale"
      prompt := "An ale"
      target := some ⟨1⟩
      effects := [.addInt "ales" 1] }]
  triggers := (TriggerMap.ofEntries [("cellar", some ⟨1⟩), ("bar", some ⟨0⟩)]).prepare

theorem tavernGraph_represents_tavernScript :
    ofScript tavernScript = .ok tavernGraph ∧ Represents tavernScript tavernGraph := by
  have built : ofScript tavernScript = .ok tavernGraph := rfl
  exact ⟨built, built_graph_represents_script tavernScript tavernGraph built⟩

end Colloquy.Graph
