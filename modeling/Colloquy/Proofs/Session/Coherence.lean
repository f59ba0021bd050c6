import Colloquy.Proofs.Outcome
import Colloquy.Proofs.Session.Calls

/-!
# Coherence of sessions

The three fields of a session are written by different calls. In every session
that calls lead to they agree: a node is current exactly while a line or an
offer stands, it is a node of the graph, and choices are pending exactly while
an offer stands, in which case they are at least two, are choices of the graph,
and stand in the order of the current node.
-/

namespace Colloquy.Session

open Colloquy.Flag (Store)
open Colloquy.Graph (NodeId ChoiceId)

variable {graph : Graph} {resolver : Resolver} {flags : Store}

/-- Whether there is a choice and its condition for being offered holds. -/
def shows (graph : Graph) (flags : Store) (id : ChoiceId) : Bool :=
  match graph.choice? id with
  | some choice => Condition.evaluate flags.hasFlag choice.visible
  | none => false

theorem choiceAt_eq_ok_iff {id : ChoiceId} {choice : Graph.Choice} :
    choiceAt graph id = .ok choice ↔ graph.choice? id = some choice := by
  cases found : graph.choice? id with
  | none =>
      simp [choiceAt, found]
  | some other =>
      simp [choiceAt, found]

theorem evaluateGate_eq_ok_iff
    {id : ChoiceId} {gate : Option Condition} {value : Bool} :
    evaluateGate flags id gate = .ok value ↔
      Condition.evaluate? flags.hasFlag gate = .ok value := by
  cases evaluated : Condition.evaluate? flags.hasFlag gate with
  | error error =>
      rw [evaluateGate, evaluated]
      constructor
      · intro equal
        cases equal
      · intro equal
        cases equal
  | ok found =>
      rw [evaluateGate, evaluated]
      constructor
      · intro equal
        cases equal
        rfl
      · intro equal
        cases equal
        rfl

/-- The visible ones among choices are those shown, in order. -/
theorem visibleChoices_eq_filter
    {ids visible : List ChoiceId}
    (visibility : visibleChoices graph flags ids = .ok visible) :
    visible = ids.filter (shows graph flags) := by
  induction ids generalizing visible with
  | nil =>
      cases visibility
      rfl
  | cons id rest inductionHypothesis =>
      simp only [visibleChoices, bind_eq_ok_iff, choiceAt_eq_ok_iff,
        evaluateGate_eq_ok_iff] at visibility
      obtain ⟨choice, found, shown, evaluated, others, othersVisible, result⟩ :=
        visibility
      have shownHere : shows graph flags id = shown := by
        simp only [shows, found, Condition.evaluate, evaluated]
      cases result
      rw [List.filter_cons, shownHere, ← inductionHypothesis othersVisible]

private theorem offers_eq_ok
    {ids : List ChoiceId} {shown : List Offer}
    (offering : offers graph resolver flags ids = .ok shown) :
    shown.map (·.choice) = ids ∧
      ∀ id ∈ ids, ∃ choice, graph.choice? id = some choice := by
  induction ids generalizing shown with
  | nil =>
      cases offering
      exact ⟨rfl, by simp⟩
  | cons id rest inductionHypothesis =>
      simp only [offers, bind_eq_ok_iff, choiceAt_eq_ok_iff,
        evaluateGate_eq_ok_iff] at offering
      obtain ⟨choice, found, unlocked, _, others, othersOffered, result⟩ := offering
      obtain ⟨sameIds, restFound⟩ := inductionHypothesis othersOffered
      cases result
      refine ⟨?_, List.forall_mem_cons.2 ⟨⟨choice, found⟩, restFound⟩⟩
      rw [List.map_cons, sameIds]

/-! ## The invariant -/

/-- The sessions that calls lead to, by phase. -/
inductive Coherent (graph : Graph) : Session → Prop
  | idle : Coherent graph { phase := .idle }
  | presenting {id : NodeId} {node : Graph.Node} :
      graph.node? id = some node →
        Coherent graph { phase := .presenting, current := some id }
  | choosing {id : NodeId} {node : Graph.Node} {pending : List Pending} :
      graph.node? id = some node → 2 ≤ pending.length →
        (pending.map (·.choice)).Sublist node.choices →
          (∀ entry ∈ pending, ∃ choice, graph.choice? entry.choice = some choice) →
            Coherent graph { phase := .choosing, current := some id, pending }
  | terminal : Coherent graph { phase := .terminal }

section Coherent

variable {session : Session}

/-- Nothing is pending but while choices are on offer. -/
theorem Coherent.pending_eq_nil
    (coherent : Coherent graph session)
    (notChoosing : session.phase ≠ .choosing) :
    session.pending = [] := by
  cases coherent with
  | idle =>
      rfl
  | presenting =>
      rfl
  | choosing =>
      exact absurd rfl notChoosing
  | terminal =>
      rfl

theorem Coherent.phase_ne_choosing_of_inactive
    (coherent : Coherent graph session)
    (inactive : session.isActive = false) :
    session.phase ≠ .choosing := by
  intro choosing
  cases coherent with
  | choosing =>
      cases inactive
  | _ =>
      cases choosing

theorem Coherent.exists_current_node
    (coherent : Coherent graph session)
    {id : NodeId}
    (current : session.current = some id) :
    ∃ node, graph.node? id = some node := by
  cases coherent with
  | presenting found =>
      cases current
      exact ⟨_, found⟩
  | choosing found =>
      cases current
      exact ⟨_, found⟩
  | _ =>
      cases current

theorem Coherent.exists_pending_choice
    (coherent : Coherent graph session)
    {picked : Pending}
    (member : picked ∈ session.pending) :
    ∃ choice, graph.choice? picked.choice = some choice := by
  cases coherent with
  | choosing _ _ _ exist =>
      exact exist picked member
  | _ =>
      cases member

/-- Presenting another line keeps a session coherent if nothing is pending. -/
theorem coherent_of_line
    {id : NodeId} {node : Graph.Node}
    (noPending : session.pending = [])
    (found : graph.node? id = some node) :
    Coherent graph { session with phase := .presenting, current := some id } := by
  rw [noPending]
  exact .presenting found

/-- Offering the visible choices of the node that is presented makes a coherent
session. -/
theorem coherent_of_offers
    {id : NodeId} {node : Graph.Node} {visible : List ChoiceId} {shown : List Offer}
    (presenting : Presenting graph session id node)
    (visibility : visibleChoices graph flags node.choices = .ok visible)
    (several : 2 ≤ visible.length)
    (offering : offers graph resolver flags visible = .ok shown) :
    Coherent graph
      { session with phase := .choosing, pending := shown.map Offer.pending } := by
  obtain ⟨sameIds, exist⟩ := offers_eq_ok offering
  have pendingIds : (shown.map Offer.pending).map (·.choice) = visible := by
    rw [List.map_map, ← sameIds]
    rfl
  rw [presenting.current]
  refine .choosing presenting.found ?_ ?_ ?_
  · rw [List.length_map, ← List.length_map (f := (·.choice)), sameIds]
    exact several
  · rw [pendingIds, visibleChoices_eq_filter visibility]
    exact List.filter_sublist
  · intro entry member
    refine exist entry.choice ?_
    rw [← pendingIds]
    exact List.mem_map_of_mem member

/-- Each call keeps a session coherent, whatever it comes to. -/
theorem Coherent.of_outcome
    (coherent : Coherent graph session)
    {call : Call} {step : Step Reply}
    (outcome : Outcome graph resolver session flags call step) :
    Coherent graph step.session := by
  cases outcome with
  | refused =>
      exact coherent
  | started inactive _ found =>
      exact coherent_of_line
        (coherent.pending_eq_nil (coherent.phase_ne_choosing_of_inactive inactive))
          found
  | waited =>
      exact coherent
  | ended =>
      exact .terminal
  | endedAfter =>
      exact .terminal
  | followed presenting _ _ found =>
      exact coherent_of_line
        (coherent.pending_eq_nil (by simp [presenting.phase])) found
  | offered presenting visibility several offering =>
      exact coherent_of_offers presenting visibility several offering
  | taken _ _ _ _ found =>
      exact .presenting found
  | takenLast =>
      exact .terminal
  | closed =>
      exact .idle
  | nothingToClose =>
      exact coherent

/-- Every call keeps a session coherent, also one that is refused. -/
theorem Coherent.perform
    (coherent : Coherent graph session)
    (resolver : Resolver) (flags : Store) (call : Call) :
    Coherent graph (perform graph resolver session flags call).session :=
  coherent.of_outcome (outcome_perform call)

end Coherent

end Colloquy.Session
