import Colloquy.Proofs.Graph.Resolution
import Colloquy.Proofs.Script.Validation

/-!
# Assembling graphs

Each phase of a build is described by what the draft holds after some of the
entries were entered. Put together, the phases turn a well-formed script into
its image.
-/

namespace Colloquy.Graph

variable {script : Script}

/-- What a draft holds after these speakers, nodes and choices were entered. -/
structure Entered
    (script : Script) (speakers : List Script.Speaker) (nodes : List Script.Node)
    (choices : List Script.Choice) (draft : Draft) : Prop where
  graphSpeakers : draft.graph.speakers = speakers.map speakerImage
  graphNodes : draft.graph.nodes = nodes.map (bareNode script)
  graphChoices : draft.graph.choices = choices.map (choiceImage script)
  graphTriggers : draft.graph.triggers = {}
  speakerTable : Tabulates SpeakerId.mk draft.symbols.speakers (speakers.map (·.id))
  nodeTable : Tabulates NodeId.mk draft.symbols.nodes (nodes.map (·.id))
  choiceTable : Tabulates ChoiceId.mk draft.symbols.choices (choices.map (·.id))

private theorem entered_nothing (script : Script) : Entered script [] [] [] {} where
  graphSpeakers := rfl
  graphNodes := rfl
  graphChoices := rfl
  graphTriggers := rfl
  speakerTable := tabulates_empty SpeakerId.mk
  nodeTable := tabulates_empty NodeId.mk
  choiceTable := tabulates_empty ChoiceId.mk

section Steps

variable {speakers : List Script.Speaker} {nodes : List Script.Node}
  {choices : List Script.Choice} {draft : Draft}

/-- Entering a speaker of a new name extends what is entered by it. -/
theorem Entered.enterSpeaker
    (entered : Entered script speakers nodes choices draft)
    {entry : Script.Speaker}
    (fresh : entry.id ∉ speakers.map (·.id)) :
    Entered script (speakers ++ [entry]) nodes choices (draft.enterSpeaker entry) where
  graphSpeakers := by
    rw [List.map_append, ← entered.graphSpeakers]
    rfl
  graphNodes := entered.graphNodes
  graphChoices := entered.graphChoices
  graphTriggers := entered.graphTriggers
  speakerTable :=
    entered.speakerTable.insert_next fresh
      (by rw [entered.graphSpeakers, List.length_map])
  nodeTable := entered.nodeTable
  choiceTable := entered.choiceTable

/-- A well-formed node of a new name can be entered. -/
theorem Entered.enterNode
    (entered : Entered script script.speakers nodes choices draft)
    {entry : Script.Node}
    (wellFormed : entry.WellFormed script)
    (fresh : entry.id ∉ nodes.map (·.id)) :
    ∃ next, draft.enterNode entry = .ok next ∧
      Entered script script.speakers (nodes ++ [entry]) choices next := by
  have resolved :
      resolve? draft.symbols.speaker entry.speaker =
        .ok (entry.speaker.map (speakerId script)) :=
    resolve?_eq_map fun name named =>
      Symbols.speaker_eq entered.speakerTable (wellFormed.speaker name named)
  refine ⟨_, by rw [Draft.enterNode, resolved]; rfl, ?_⟩
  exact {
    graphSpeakers := entered.graphSpeakers
    graphNodes := by
      rw [List.map_append, ← entered.graphNodes]
      rfl
    graphChoices := entered.graphChoices
    graphTriggers := entered.graphTriggers
    speakerTable := entered.speakerTable
    nodeTable :=
      entered.nodeTable.insert_next fresh (by rw [entered.graphNodes, List.length_map])
    choiceTable := entered.choiceTable }

private theorem resolveChoice_eq_image
    {symbols : Symbols}
    (nodeTable : Tabulates NodeId.mk symbols.nodes (script.nodes.map (·.id)))
    {entry : Script.Choice}
    (wellFormed : entry.WellFormed script) :
    resolveChoice symbols entry = .ok (choiceImage script entry) := by
  have target :
      resolve? symbols.node entry.target = .ok (entry.target.map (nodeId script)) :=
    resolve?_eq_map fun name named =>
      Symbols.node_eq nodeTable (wellFormed.target name named)
  have effects : resolveEffects entry.effects = .ok (typedEffects entry.effects) := by
    rw [resolveEffects, ofScripts_eq_typedEffects wellFormed.effects]
    rfl
  rw [resolveChoice, target, effects]
  rfl

/-- A well-formed choice of a new name can be entered. -/
theorem Entered.enterChoice
    (entered : Entered script speakers script.nodes choices draft)
    {entry : Script.Choice}
    (wellFormed : entry.WellFormed script)
    (fresh : entry.id ∉ choices.map (·.id)) :
    ∃ next, draft.enterChoice entry = .ok next ∧
      Entered script speakers script.nodes (choices ++ [entry]) next := by
  have resolved := resolveChoice_eq_image entered.nodeTable wellFormed
  refine ⟨_, by rw [Draft.enterChoice, resolved]; rfl, ?_⟩
  exact {
    graphSpeakers := entered.graphSpeakers
    graphNodes := entered.graphNodes
    graphChoices := by
      rw [List.map_append, ← entered.graphChoices]
      rfl
    graphTriggers := entered.graphTriggers
    speakerTable := entered.speakerTable
    nodeTable := entered.nodeTable
    choiceTable :=
      entered.choiceTable.insert_next fresh
        (by rw [entered.graphChoices, List.length_map]) }

end Steps

section Phases

variable (wellFormed : Script.WellFormed script)
include wellFormed

private theorem entered_speakers :
    Entered script script.speakers [] []
      (script.speakers.foldl Draft.enterSpeaker {}) := by
  have phase :
      ∃ final, script.speakers.foldlM (m := Except BuildError)
          (fun draft entry => pure (draft.enterSpeaker entry)) {} = .ok final ∧
        Entered script script.speakers [] [] final :=
    foldlM_ok_of_steps (fun before draft => Entered script before [] [] draft)
      (fun before entry after draft split entered =>
        ⟨draft.enterSpeaker entry, rfl,
          entered.enterSpeaker (not_mem_map_of_nodup wellFormed.speakerIds split)⟩)
      (entered_nothing script)
  obtain ⟨final, folded, entered⟩ := phase
  rw [List.foldlM_pure] at folded
  cases folded
  exact entered

private theorem entered_nodes
    {draft : Draft}
    (entered : Entered script script.speakers [] [] draft) :
    ∃ final, script.nodes.foldlM Draft.enterNode draft = .ok final ∧
      Entered script script.speakers script.nodes [] final :=
  foldlM_ok_of_steps
    (fun before draft => Entered script script.speakers before [] draft)
    (fun before entry after draft split entered =>
      entered.enterNode (wellFormed.nodes entry (by simp [split]))
        (not_mem_map_of_nodup wellFormed.nodeIds split))
    entered

private theorem entered_choices
    {draft : Draft}
    (entered : Entered script script.speakers script.nodes [] draft) :
    ∃ final, script.choices.foldlM Draft.enterChoice draft = .ok final ∧
      Entered script script.speakers script.nodes script.choices final :=
  foldlM_ok_of_steps
    (fun before draft => Entered script script.speakers script.nodes before draft)
    (fun before entry after draft split entered =>
      entered.enterChoice (wellFormed.choices entry (by simp [split]))
        (not_mem_map_of_nodup wellFormed.choiceIds split))
    entered

end Phases

def Draft.withNodes (draft : Draft) (nodes : List Node) : Draft :=
  { draft with graph := { draft.graph with nodes } }

section Attaching

variable {draft : Draft} (choiceTable : Tabulates ChoiceId.mk draft.symbols.choices
  (script.choices.map (·.id)))
include choiceTable

private theorem attach_eq
    {before after : List Node} {node : Node} {name : String}
    (known : ∃ entry ∈ script.choices, entry.id = name) :
    Draft.attach ⟨before.length⟩ (draft.withNodes (before ++ node :: after)) name =
      .ok (draft.withNodes (before ++
        { node with choices := node.choices ++ [choiceId script name] } :: after)) := by
  have found : draft.symbols.choice name = .ok (choiceId script name) :=
    Symbols.choice_eq choiceTable known
  have attached :
      (draft.withNodes (before ++ node :: after)).graph.attachChoice? ⟨before.length⟩
          (choiceId script name) =
        some (draft.withNodes (before ++
          { node with
            choices := node.choices ++ [choiceId script name] } :: after)).graph := by
    simp [Graph.attachChoice?, Draft.withNodes]
  rw [Draft.attach]
  simp only [Draft.withNodes] at attached ⊢
  rw [found]
  simp only [bind, Except.bind, attached, Option.getD_some]
  rfl

private theorem foldlM_attach_eq
    (before after : List Node) (node : Node) {names : List String}
    (known : ∀ name ∈ names, ∃ entry ∈ script.choices, entry.id = name) :
    names.foldlM (Draft.attach ⟨before.length⟩)
      (draft.withNodes (before ++ node :: after)) =
      .ok (draft.withNodes (before ++
        { node with
          choices := node.choices ++ names.map (choiceId script) } :: after)) := by
  induction names generalizing node with
  | nil =>
      simp [pure, Except.pure]
  | cons head tail inductionHypothesis =>
      obtain ⟨headKnown, tailKnown⟩ := List.forall_mem_cons.1 known
      rw [List.foldlM_cons, attach_eq choiceTable headKnown]
      have attachedTail := inductionHypothesis
        { node with choices := node.choices ++ [choiceId script head] } tailKnown
      simp only [List.append_assoc, List.singleton_append] at attachedTail
      exact attachedTail

private theorem attachChoices_eq
    (nodeTable : Tabulates NodeId.mk draft.symbols.nodes (script.nodes.map (·.id)))
    (nodup : (script.nodes.map (·.id)).Nodup)
    {before after : List Script.Node} {entry : Script.Node}
    (split : script.nodes = before ++ entry :: after)
    (wellFormed : entry.WellFormed script) :
    (draft.withNodes (before.map (nodeImage script) ++
        (entry :: after).map (bareNode script))).attachChoices entry =
      .ok (draft.withNodes ((before ++ [entry]).map (nodeImage script) ++
        after.map (bareNode script))) := by
  have position :
      nodeId script entry.id = ⟨(before.map (nodeImage script)).length⟩ := by
    rw [nodeId, idxOf_map_of_nodup nodup split, List.length_map]
  have found :
      (draft.withNodes (before.map (nodeImage script) ++
          (entry :: after).map (bareNode script))).symbols.node entry.id =
        .ok ⟨(before.map (nodeImage script)).length⟩ := by
    rw [← position]
    exact Symbols.node_eq nodeTable ⟨entry, by simp [split], rfl⟩
  rw [Draft.attachChoices, found, List.map_cons]
  have attached := foldlM_attach_eq choiceTable (before.map (nodeImage script))
    (after.map (bareNode script)) (bareNode script entry) wellFormed.choices
  rw [List.map_append, List.append_assoc]
  exact attached

private theorem foldlM_attachChoices_eq
    (nodeTable : Tabulates NodeId.mk draft.symbols.nodes (script.nodes.map (·.id)))
    (wellFormed : Script.WellFormed script)
    (nodes : draft.graph.nodes = script.nodes.map (bareNode script)) :
    script.nodes.foldlM Draft.attachChoices draft =
      .ok (draft.withNodes (script.nodes.map (nodeImage script))) := by
  have phase :
      ∃ final, script.nodes.foldlM Draft.attachChoices draft = .ok final ∧
        final = draft.withNodes (script.nodes.map (nodeImage script) ++
          (script.nodes.drop script.nodes.length).map (bareNode script)) := by
    refine foldlM_ok_of_steps
      (fun before state => state = draft.withNodes (before.map (nodeImage script) ++
        (script.nodes.drop before.length).map (bareNode script))) ?_ ?_
    · rintro before entry after state split rfl
      have remaining : script.nodes.drop before.length = entry :: after := by
        rw [split, List.drop_left]
      have remainingAfter : script.nodes.drop (before ++ [entry]).length = after := by
        rw [split, List.append_cons before entry after, List.drop_left]
      refine ⟨_, ?_, rfl⟩
      rw [remaining, remainingAfter]
      exact attachChoices_eq choiceTable nodeTable wellFormed.nodeIds split
        (wellFormed.nodes entry (by simp [split]))
    · rw [List.map_nil, List.nil_append, List.length_nil, List.drop_zero, ← nodes]
      rfl
  obtain ⟨final, folded, rfl⟩ := phase
  rw [folded, List.drop_length, List.map_nil, List.append_nil]

end Attaching

def Draft.withTriggers (draft : Draft) (triggers : TriggerMap) : Draft :=
  { draft with graph := { draft.graph with triggers } }

private theorem foldlM_enterTrigger_eq
    (draft : Draft)
    (nodeTable : Tabulates NodeId.mk draft.symbols.nodes (script.nodes.map (·.id)))
    (wellFormed : Script.WellFormed script)
    (triggers : draft.graph.triggers = {}) :
    script.triggers.foldlM Draft.enterTrigger draft =
      .ok (draft.withTriggers (.ofEntries
        (script.triggers.map (triggerImage script)))) := by
  have phase :
      ∃ final, script.triggers.foldlM Draft.enterTrigger draft = .ok final ∧
        final = draft.withTriggers
          (.ofEntries (script.triggers.map (triggerImage script))) := by
    refine foldlM_ok_of_steps (fun before state =>
      state = draft.withTriggers (.ofEntries (before.map (triggerImage script)))) ?_ ?_
    · rintro before entry after state split rfl
      have entryWellFormed := wellFormed.triggers entry (by simp [split])
      have resolved :
          resolve? draft.symbols.node entry.node =
            .ok (entry.node.map (nodeId script)) := by
        refine resolve?_eq_map fun name named => Symbols.node_eq nodeTable ?_
        obtain ⟨start, startNamed, known⟩ := entryWellFormed.node
        rw [named, Option.some.injEq] at startNamed
        rw [startNamed]
        exact known
      refine ⟨_, ?_, rfl⟩
      rw [Draft.enterTrigger]
      simp only [Draft.withTriggers]
      rw [resolved, List.map_append]
      rfl
    · rw [List.map_nil]
      simp only [Draft.withTriggers, TriggerMap.ofEntries]
      rw [← triggers]
  obtain ⟨final, folded, rfl⟩ := phase
  exact folded

/-! ## Whole scripts -/

/-- A well-formed script can be assembled, and the graph is its image. -/
theorem assemble_eq_image
    (wellFormed : Script.WellFormed script) :
    assemble script = .ok (image script) := by
  have speakersEntered := entered_speakers wellFormed
  obtain ⟨nodeDraft, nodeFold, nodesEntered⟩ := entered_nodes wellFormed speakersEntered
  obtain ⟨draft, choiceFold, entered⟩ := entered_choices wellFormed nodesEntered
  have attachFold :=
    foldlM_attachChoices_eq entered.choiceTable entered.nodeTable wellFormed
      entered.graphNodes
  have triggerFold :=
    foldlM_enterTrigger_eq (draft.withNodes (script.nodes.map (nodeImage script)))
      entered.nodeTable wellFormed entered.graphTriggers
  rw [assemble]
  simp only [bind, Except.bind, nodeFold, choiceFold, attachFold, triggerFold]
  simp only [Draft.withTriggers, Draft.withNodes, entered.graphSpeakers,
    entered.graphChoices]
  rfl

/-- A script without fatal findings passes. -/
theorem checkScript_of_clear
    (clear : Script.Clear script.validate) :
    checkScript script = .ok () := by
  rw [checkScript, Script.fatalFindings_eq_nil_iff.2 clear]
  rfl

theorem checkScript_of_not_clear
    (faulty : ¬ Script.Clear script.validate) :
    checkScript script = .error (.invalid script.fatalFindings) := by
  have found : script.fatalFindings ≠ [] :=
    fun nothing => faulty (Script.fatalFindings_eq_nil_iff.1 nothing)
  rw [checkScript, if_neg]
  simpa using found

/-- Of a script without fatal findings the graph is its image. -/
theorem ofScript_of_clear
    (clear : Script.Clear script.validate) :
    ofScript script = .ok (image script) := by
  rw [ofScript, checkScript_of_clear clear,
    assemble_eq_image (Script.WellFormed.of_clear clear)]
  rfl

private theorem ofScript_of_not_clear
    (faulty : ¬ Script.Clear script.validate) :
    ofScript script = .error (.invalid script.fatalFindings) := by
  rw [ofScript, checkScript_of_not_clear faulty]
  rfl

private theorem clear_of_ofScript_eq_ok
    {graph : Graph}
    (built : ofScript script = .ok graph) :
    Script.Clear script.validate := by
  by_cases clear : Script.Clear script.validate
  · exact clear
  · rw [ofScript_of_not_clear clear] at built
    cases built

/-- A script that has a graph is well-formed, and the graph is its image. -/
theorem eq_image_of_ofScript_eq_ok
    {graph : Graph}
    (built : ofScript script = .ok graph) :
    Script.WellFormed script ∧ graph = image script := by
  have clear := clear_of_ofScript_eq_ok built
  rw [ofScript_of_clear clear] at built
  cases built
  exact ⟨Script.WellFormed.of_clear clear, rfl⟩

/-- Whether a script has a graph is up to its findings alone. -/
structure BuildsUnlessFaulty (script : Script) : Prop where
  built_iff :
    (∃ graph, ofScript script = .ok graph) ↔
      ∀ finding ∈ script.validate, finding.isFatal = false
  /-- Once the check is passed, no look-up fails and every effect can be made. -/
  assembled : checkScript script = .ok () → ∃ graph, assemble script = .ok graph
  /-- The error tells all fatal findings at once. -/
  refused :
    ∀ error, ofScript script = .error error →
      error = .invalid (script.validate.filter Script.Finding.isFatal) ∧
        error.chain = [Script.aggregate (script.validate.filter Script.Finding.isFatal)]

/-- A script has a graph exactly if it has no fatal finding, whatever notes
there are on it. What comes after the check never fails, so the only error is
the one that lists the findings. -/
theorem builds_unless_faulty (script : Script) : BuildsUnlessFaulty script where
  built_iff := by
    constructor
    · rintro ⟨graph, built⟩
      exact clear_of_ofScript_eq_ok built
    · intro clear
      exact ⟨image script, ofScript_of_clear clear⟩
  assembled := by
    intro checked
    by_cases clear : Script.Clear script.validate
    · exact ⟨image script, assemble_eq_image (Script.WellFormed.of_clear clear)⟩
    · rw [checkScript_of_not_clear clear] at checked
      cases checked
  refused := by
    intro error failed
    by_cases clear : Script.Clear script.validate
    · rw [ofScript_of_clear clear] at failed
      cases failed
    · rw [ofScript_of_not_clear clear] at failed
      cases failed
      exact ⟨rfl, rfl⟩

end Colloquy.Graph
