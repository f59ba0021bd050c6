import Colloquy.Proofs.Session.Agreement
import Colloquy.Proofs.Session.Failures

/-!
# Branching

Advancing goes by the number of visible choices of the node whose line was
presented: without one the dialogue ends, a single one is followed, and several
are offered. This holds over any graph and under any flags under which the
conditions have values. What is offered can be selected later, under other
flags, by what was offered.
-/

namespace Colloquy.Session

open Colloquy.Flag (Store)
open Colloquy.Graph (NodeId ChoiceId)

/-- The choices of a node whose visibility condition holds, in authored order
and as often as the node lists them. -/
def visibleAt (graph : Graph) (flags : Store) (node : Graph.Node) : List ChoiceId :=
  node.choices.filter (shows graph flags)

/-- Whether there is a choice and its condition for being taken holds. -/
def opens (graph : Graph) (flags : Store) (id : ChoiceId) : Bool :=
  match graph.choice? id with
  | some choice => Condition.evaluate flags.hasFlag choice.unlocked
  | none => false

def offerOf
    (graph : Graph) (resolver : Resolver) (flags : Store) (id : ChoiceId) : Offer where
  choice := id
  prompt :=
    match graph.choice? id with
    | some choice => resolver.localize choice.table choice.prompt
    | none => ""
  unlocked := opens graph flags id

section Evaluation

variable {graph : Graph} {resolver : Resolver} {flags : Store}

private theorem evaluate_eq_of_evaluate?_eq_ok
    {lookup : String → Bool} {gate : Option Condition} {value : Bool}
    (evaluated : Condition.evaluate? lookup gate = .ok value) :
    Condition.evaluate lookup gate = value := by
  rw [Condition.evaluate, evaluated]

private theorem exists_evaluation_of_visibleChoices
    {ids visible : List ChoiceId}
    (visibility : visibleChoices graph flags ids = .ok visible) :
    ∀ id ∈ ids, ∃ choice, graph.choice? id = some choice ∧
      Condition.evaluate? flags.hasFlag choice.visible =
        .ok (shows graph flags id) := by
  induction ids generalizing visible with
  | nil =>
      simp
  | cons id rest inductionHypothesis =>
      simp only [visibleChoices, bind_eq_ok_iff, choiceAt_eq_ok_iff,
        evaluateGate_eq_ok_iff] at visibility
      obtain ⟨choice, found, shown, evaluated, others, othersVisible, -⟩ := visibility
      refine List.forall_mem_cons.2
        ⟨⟨choice, found, ?_⟩, inductionHypothesis othersVisible⟩
      simp only [shows, found, evaluate_eq_of_evaluate?_eq_ok evaluated, evaluated]

private theorem exists_evaluation_of_offers
    {ids : List ChoiceId} {shown : List Offer}
    (offering : offers graph resolver flags ids = .ok shown) :
    shown = ids.map (offerOf graph resolver flags) ∧
      ∀ id ∈ ids, ∃ choice, graph.choice? id = some choice ∧
        Condition.evaluate? flags.hasFlag choice.unlocked =
          .ok (opens graph flags id) := by
  induction ids generalizing shown with
  | nil =>
      cases offering
      exact ⟨rfl, by simp⟩
  | cons id rest inductionHypothesis =>
      simp only [offers, bind_eq_ok_iff, choiceAt_eq_ok_iff,
        evaluateGate_eq_ok_iff] at offering
      obtain ⟨choice, found, unlocked, evaluated, others, othersOffered, result⟩ :=
        offering
      obtain ⟨othersShown, othersValued⟩ := inductionHypothesis othersOffered
      have isOpen : opens graph flags id = unlocked := by
        simp only [opens, found, evaluate_eq_of_evaluate?_eq_ok evaluated]
      cases result
      refine ⟨?_, List.forall_mem_cons.2 ⟨⟨choice, found, ?_⟩, othersValued⟩⟩
      · simp only [List.map_cons, offerOf, found, isOpen, othersShown]
      · rw [isOpen, evaluated]

end Evaluation

section Steps

variable (graph : Graph) (resolver : Resolver)

/-- A step that offers choices at the current node and remembers which of them
are open. -/
structure OffersAll (current : Option NodeId) (flags : Store) (ids : List ChoiceId)
    (step : Step Reply) : Prop where
  answer : step.answer = .ok (.moved .choosing)
  session : step.session = {
    phase := .choosing
    current
    pending := ids.map fun id => ⟨id, opens graph flags id⟩ }
  events : step.events = [.choices (ids.map (offerOf graph resolver flags))]
  /-- Each of the conditions has a value. -/
  evaluated : ∀ id ∈ ids, ∃ choice, graph.choice? id = some choice ∧
    Condition.evaluate? flags.hasFlag choice.unlocked = .ok (opens graph flags id)

/-- A step that takes the choice at an index of those that were offered under
flags: the choice was open then, its effects are applied to the present flags,
and its target is reached. -/
structure TakesOffered
    (offeredUnder present : Store) (ids : List ChoiceId) (index : Nat)
    (step : Step Reply) : Prop where
  inRange : index < ids.length
  opened : opens graph offeredUnder ids[index] = true
  takes : ∃ choice, graph.choice? ids[index] = some choice ∧
    step.flags = Effect.applyAll choice.effects present ∧
      Reaches graph resolver choice.target step

/-- What advancing from a node comes to, by its visible choices. -/
structure Branches (session : Session) (flags : Store) (node : Graph.Node)
    (step : Step Reply) : Prop where
  /-- Each choice exists and its visibility condition has a value. -/
  evaluated : ∀ id ∈ node.choices, ∃ choice, graph.choice? id = some choice ∧
    Condition.evaluate? flags.hasFlag choice.visible = .ok (shows graph flags id)
  flags_eq : step.flags = flags
  ends : visibleAt graph flags node = [] → Reaches graph resolver none step
  /-- A single choice is followed whether it is open or not, and its effects are
  left out. -/
  follows : ∀ only, visibleAt graph flags node = [only] →
    ∃ choice, graph.choice? only = some choice ∧
      Reaches graph resolver choice.target step
  offers : 2 ≤ (visibleAt graph flags node).length →
    OffersAll graph resolver session.current flags (visibleAt graph flags node) step
  /-- Selections from the offer, with whatever flags. -/
  selects : 2 ≤ (visibleAt graph flags node).length →
    ∀ index later reply,
      (perform graph resolver step.session later (.select index)).answer = .ok reply →
        TakesOffered graph resolver flags later (visibleAt graph flags node) index
          (perform graph resolver step.session later (.select index))

end Steps

section Branching

variable {graph : Graph} {resolver : Resolver} {session : Session} {flags : Store}

private theorem takesOffered_of_select
    {ids : List ChoiceId} {offeredUnder : Store}
    (onOffer : session.pending = ids.map fun id => ⟨id, opens graph offeredUnder id⟩)
    {index : Nat} {reply : Reply}
    (answered : (perform graph resolver session flags (.select index)).answer =
      .ok reply) :
    TakesOffered graph resolver offeredUnder flags ids index
      (perform graph resolver session flags (.select index)) := by
  obtain ⟨entry, choice, offered, unlocked, choiceFound, applied, reaches⟩ :=
    reaches_of_select answered
  have found := offered.found
  rw [onOffer, List.getElem?_map, Option.map_eq_some_iff] at found
  obtain ⟨id, isOffered, rfl⟩ := found
  obtain ⟨inRange, rfl⟩ := List.getElem?_eq_some_iff.1 isOffered
  exact ⟨inRange, unlocked, choice, choiceFound, applied, reaches⟩

/-! ## Advancing -/

section Cases

variable {node : Graph.Node} {visible : List ChoiceId} {step : Step Reply}

private theorem visibleAt_eq_of_visibleChoices
    (visibility : visibleChoices graph flags node.choices = .ok visible) :
    visibleAt graph flags node = visible :=
  (visibleChoices_eq_filter visibility).symm

private theorem branches_of_none
    (visibility : visibleChoices graph flags node.choices = .ok [])
    (flagsKept : step.flags = flags)
    (reaches : Reaches graph resolver none step) :
    Branches graph resolver session flags node step := by
  have noneVisible := visibleAt_eq_of_visibleChoices visibility
  have notSeveral : ¬ 2 ≤ (visibleAt graph flags node).length := by
    simp [noneVisible]
  exact {
    evaluated := exists_evaluation_of_visibleChoices visibility
    flags_eq := flagsKept
    ends := fun _ => reaches
    follows := fun only isOnly => by
      rw [noneVisible] at isOnly
      cases isOnly
    offers := fun several => absurd several notSeveral
    selects := fun several => absurd several notSeveral }

private theorem branches_of_one
    {only : ChoiceId}
    (visibility : visibleChoices graph flags node.choices = .ok [only])
    (flagsKept : step.flags = flags)
    (reaches : Reaches graph resolver ((graph.choice? only).bind (·.target)) step) :
    Branches graph resolver session flags node step := by
  have oneVisible := visibleAt_eq_of_visibleChoices visibility
  have evaluated := exists_evaluation_of_visibleChoices visibility
  have notSeveral : ¬ 2 ≤ (visibleAt graph flags node).length := by
    simp [oneVisible]
  have isVisible : only ∈ visibleAt graph flags node := by
    rw [oneVisible]
    exact List.mem_singleton_self only
  obtain ⟨choice, found, _⟩ := evaluated only (List.mem_filter.1 isVisible).1
  rw [found] at reaches
  exact {
    evaluated
    flags_eq := flagsKept
    ends := fun isNone => by
      rw [oneVisible] at isNone
      cases isNone
    follows := fun other isOnly => by
      rw [oneVisible] at isOnly
      cases isOnly
      exact ⟨choice, found, reaches⟩
    offers := fun several => absurd several notSeveral
    selects := fun several => absurd several notSeveral }

private theorem branches_of_several
    (visibility : visibleChoices graph flags node.choices = .ok visible)
    (several : 2 ≤ visible.length)
    (flagsKept : step.flags = flags)
    (offersAll : OffersAll graph resolver session.current flags visible step) :
    Branches graph resolver session flags node step := by
  have severalVisible := visibleAt_eq_of_visibleChoices visibility
  have onOffer : step.session.pending =
      (visibleAt graph flags node).map fun id => ⟨id, opens graph flags id⟩ := by
    rw [offersAll.session, severalVisible]
  exact {
    evaluated := exists_evaluation_of_visibleChoices visibility
    flags_eq := flagsKept
    ends := fun isNone => by
      rw [severalVisible] at isNone
      rw [isNone] at several
      cases several
    follows := fun only isOnly => by
      rw [severalVisible] at isOnly
      rw [isOnly, List.length_singleton] at several
      omega
    offers := fun _ => by
      rw [severalVisible]
      exact offersAll
    selects :=
      fun _ index later reply answered => takesOffered_of_select onOffer answered }

end Cases

theorem Presenting.node_eq
    {id other : NodeId} {node otherNode : Graph.Node}
    (presenting : Presenting graph session id node)
    (again : Presenting graph session other otherNode) :
    otherNode = node := by
  have sameId : some other = some id := again.current.symm.trans presenting.current
  have sameNode := again.found
  rw [Option.some.inj sameId, presenting.found] at sameNode
  exact (Option.some.inj sameNode).symm

/-- Nothing is pending while a line is presented, so moving on from it leaves
nothing behind. -/
theorem branches_of_outcome
    (noPending : session.pending = [])
    {id : NodeId} {node : Graph.Node}
    (presenting : Presenting graph session id node)
    {step : Step Reply} {reply : Reply}
    (outcome : Outcome graph resolver session flags .advance step)
    (answered : step.answer = .ok reply) :
    Branches graph resolver session flags node step := by
  cases outcome with
  | refused =>
      cases answered
  | waited choosing =>
      rw [presenting.phase] at choosing
      cases choosing
  | ended again visibility =>
      rw [presenting.node_eq again] at visibility
      exact branches_of_none visibility rfl ⟨by simp, fun _ => ⟨rfl, rfl, rfl⟩⟩
  | endedAfter again visibility target =>
      rw [presenting.node_eq again] at visibility
      refine branches_of_one visibility rfl ?_
      rw [target]
      exact ⟨by simp, fun _ => ⟨rfl, rfl, rfl⟩⟩
  | followed again visibility target found =>
      rw [presenting.node_eq again] at visibility
      refine branches_of_one visibility rfl ?_
      rw [target]
      refine ⟨fun next isTarget => ?_, by simp⟩
      cases isTarget
      exact ⟨_, found, rfl, by rw [noPending], rfl⟩
  | offered again visibility several offering =>
      rw [presenting.node_eq again] at visibility
      obtain ⟨isShown, valued⟩ := exists_evaluation_of_offers offering
      refine branches_of_several visibility several rfl
        ⟨rfl, ?_, by rw [isShown], valued⟩
      rw [isShown, List.map_map]
      rfl

/-- The rule of none, one and many: after any calls over any graph, advancing
from the line of a node, if it is answered, ends the dialogue, follows the only
visible choice or offers the visible ones, and selections from that offer go by
it, whatever flags they are made with. -/
theorem branches_of_advance
    (graph : Graph) (resolver : Resolver) (calls : List (Call × Store)) (flags : Store)
    {id : NodeId} {node : Graph.Node}
    (presenting : Presenting graph (after graph resolver {} calls) id node)
    {reply : Reply}
    (answered :
      (perform graph resolver (after graph resolver {} calls) flags .advance).answer =
        .ok reply) :
    Branches graph resolver (after graph resolver {} calls) flags node
      (perform graph resolver (after graph resolver {} calls) flags .advance) := by
  have coherent : Coherent graph (after graph resolver {} calls) :=
    Coherent.idle.after resolver calls
  have noPending : (after graph resolver {} calls).pending = [] :=
    coherent.pending_eq_nil (by simp [presenting.phase])
  exact branches_of_outcome noPending presenting (outcome_perform .advance) answered

end Branching

def atDoor : Session :=
  after (Graph.image doorScript) Localizer.passThrough {} [(.start "door", .empty)]

/-- Without a key both ways are offered at the door, of which only the second
can be taken. -/
theorem branches_at_locked_door :
    ∃ node step, Presenting (Graph.image doorScript) atDoor ⟨0⟩ node ∧
      step = perform
        (Graph.image doorScript) Localizer.passThrough atDoor .empty .advance ∧
        Branches
          (Graph.image doorScript) Localizer.passThrough atDoor .empty node step ∧
          step.session.pending = [⟨⟨0⟩, false⟩, ⟨⟨1⟩, true⟩] := by
  have presenting : ∃ node, Presenting (Graph.image doorScript) atDoor ⟨0⟩ node :=
    ⟨_, rfl, rfl, rfl⟩
  obtain ⟨node, presenting⟩ := presenting
  have answered : (perform (Graph.image doorScript) Localizer.passThrough atDoor .empty
      .advance).answer = .ok (.moved .choosing) := rfl
  exact ⟨node, _, presenting, rfl,
    branches_of_advance (Graph.image doorScript) Localizer.passThrough
      [(.start "door", .empty)] .empty presenting answered, rfl⟩

end Colloquy.Session
