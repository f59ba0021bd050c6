import Colloquy.Proofs.Graph.Assembly
import Colloquy.Proofs.Graph.Triggers

/-!
# Closed graphs

A graph is closed if no position in it dangles and all of its conditions can be
evaluated. Graphs that were built from scripts are closed.
-/

namespace Colloquy.Graph

structure Closed (graph : Graph) : Prop where
  starts : ∀ trigger id, graph.start? trigger = some id →
    ∃ node, graph.node? id = some node
  choices : ∀ node ∈ graph.nodes, ∀ id ∈ node.choices, ∃ choice,
    graph.choice? id = some choice
  targets : ∀ choice ∈ graph.choices, ∀ id, choice.target = some id →
    ∃ node, graph.node? id = some node
  visible : ∀ choice ∈ graph.choices, ∀ tree, choice.visible = some tree → tree.Sound
  unlocked : ∀ choice ∈ graph.choices, ∀ tree, choice.unlocked = some tree → tree.Sound

section Image

variable {script : Script}

private theorem exists_getElem?_map_idxOf
    {α β : Type} {identify : α → String} {convert : α → β} {entries : List α}
    {name : String}
    (known : ∃ entry ∈ entries, identify entry = name) :
    ∃ image, (entries.map convert)[(entries.map identify).idxOf name]? =
      some image := by
  have bound : (entries.map identify).idxOf name < (entries.map convert).length := by
    rw [List.length_map, ← List.length_map (f := identify)]
    exact List.idxOf_lt_length_of_mem (List.mem_map.2 known)
  exact ⟨_, List.getElem?_eq_getElem bound⟩

private theorem exists_node?_image
    {name : String}
    (known : ∃ entry ∈ script.nodes, entry.id = name) :
    ∃ node, (image script).node? (nodeId script name) = some node :=
  exists_getElem?_map_idxOf known

private theorem exists_choice?_image
    {name : String}
    (known : ∃ entry ∈ script.choices, entry.id = name) :
    ∃ choice, (image script).choice? (choiceId script name) = some choice :=
  exists_getElem?_map_idxOf known

/-- A trigger starts where the first entry does that starts anywhere under its
trimmed name. -/
theorem start?_image (trigger : String) :
    (image script).start? trigger =
      (script.triggers.map (triggerImage script)).findSome?
        (startUnder (Text.trim trigger)) :=
  find?_triggerTable (script.triggers.map (triggerImage script)) (Text.trim trigger)

private theorem closed_image (wellFormed : Script.WellFormed script) :
    Closed (image script) where
  starts := by
    intro trigger id starts
    rw [start?_image] at starts
    obtain ⟨entry, member, given⟩ := List.exists_of_findSome?_eq_some starts
    obtain ⟨authored, authoredMember, rfl⟩ := List.mem_map.1 member
    obtain ⟨name, named, known⟩ := (wellFormed.triggers authored authoredMember).node
    have position : id = nodeId script name := by
      simp only [startUnder, triggerImage, named, Option.map_some] at given
      split at given
      · exact (Option.some.inj given).symm
      · cases given
    rw [position]
    exact exists_node?_image known
  choices := by
    intro node member id idMember
    obtain ⟨authored, authoredMember, rfl⟩ := List.mem_map.1 member
    obtain ⟨name, nameMember, rfl⟩ := List.mem_map.1 idMember
    exact exists_choice?_image
      ((wellFormed.nodes authored authoredMember).choices name nameMember)
  targets := by
    intro choice member id target
    obtain ⟨authored, authoredMember, rfl⟩ := List.mem_map.1 member
    obtain ⟨name, named, rfl⟩ := Option.map_eq_some_iff.1 target
    exact exists_node?_image
      ((wellFormed.choices authored authoredMember).target name named)
  visible := by
    intro choice member
    obtain ⟨authored, authoredMember, rfl⟩ := List.mem_map.1 member
    exact (wellFormed.choices authored authoredMember).visible
  unlocked := by
    intro choice member
    obtain ⟨authored, authoredMember, rfl⟩ := List.mem_map.1 member
    exact (wellFormed.choices authored authoredMember).unlocked

end Image

/-- In a graph that was built no reference dangles. -/
theorem closed_of_ofScript_eq_ok
    {script : Script} {graph : Graph}
    (built : ofScript script = .ok graph) :
    Closed graph := by
  obtain ⟨wellFormed, rfl⟩ := eq_image_of_ofScript_eq_ok built
  exact closed_image wellFormed

end Colloquy.Graph
