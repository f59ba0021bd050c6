import Colloquy.Proofs.Condition.Value
import Colloquy.Proofs.Graph.Closed
import Colloquy.Proofs.Session.Coherence

/-!
# Offers and selections

In a closed graph, what a node has to offer is a function of the flags: the
choices that are shown, in authored order, each with whether it is open. A
session remembers that list when it makes an offer, and selections are taken or
refused by what is remembered.
-/

namespace Colloquy.Session

open Colloquy.Flag (Store)
open Colloquy.Graph (NodeId ChoiceId Closed)

/-- Whether a condition of a choice holds under flags. A missing one does. -/
def gateHolds (flags : Store) : Option Condition → Bool
  | none => true
  | some tree => tree.plainValue flags.hasFlag

def isShown (graph : Graph) (flags : Store) (id : ChoiceId) : Bool :=
  (graph.choice? id).any fun choice => gateHolds flags choice.visible

def isOpen (graph : Graph) (flags : Store) (id : ChoiceId) : Bool :=
  (graph.choice? id).any fun choice => gateHolds flags choice.unlocked

def marked (graph : Graph) (flags : Store) (ids : List ChoiceId) : List Pending :=
  ids.map fun id => ⟨id, isOpen graph flags id⟩

/-- What a node has to offer under flags: the choices that may be shown, in
authored order, each with whether it may be taken. -/
def offerAt (graph : Graph) (flags : Store) (node : Graph.Node) : List Pending :=
  marked graph flags (node.choices.filter (isShown graph flags))

section Evaluation

variable {graph : Graph} {resolver : Resolver} {flags : Store}

private theorem evaluate?_eq_gateHolds
    {gate : Option Condition}
    (sound : ∀ tree, gate = some tree → tree.Sound) :
    Condition.evaluate? flags.hasFlag gate = .ok (gateHolds flags gate) := by
  cases gate with
  | none =>
      rfl
  | some tree =>
      obtain ⟨value, outcome⟩ := (sound tree rfl).exists_value flags.hasFlag
      rw [gateHolds, Condition.plainValue_eq_of_outcome outcome]
      exact outcome

private theorem visibleChoices_eq_ok
    (closed : Closed graph)
    {ids : List ChoiceId}
    (exist : ∀ id ∈ ids, ∃ choice, graph.choice? id = some choice) :
    visibleChoices graph flags ids = .ok (ids.filter (isShown graph flags)) := by
  induction ids with
  | nil =>
      rfl
  | cons id rest inductionHypothesis =>
      obtain ⟨⟨choice, found⟩, restExist⟩ := List.forall_mem_cons.1 exist
      have evaluated :
          Condition.evaluate? flags.hasFlag choice.visible =
            .ok (gateHolds flags choice.visible) :=
        evaluate?_eq_gateHolds (closed.visible choice (List.mem_of_getElem? found))
      simp only [visibleChoices, bind_eq_ok_iff, choiceAt_eq_ok_iff,
        evaluateGate_eq_ok_iff]
      refine ⟨choice, found, _, evaluated, _, inductionHypothesis restExist, ?_⟩
      simp [List.filter_cons, isShown, found, pure, Except.pure]

/-- Showing choices of a closed graph marks them, whatever their prompts become. -/
theorem exists_offers_eq_ok
    (closed : Closed graph) (resolver : Resolver)
    {ids : List ChoiceId}
    (exist : ∀ id ∈ ids, ∃ choice, graph.choice? id = some choice) :
    ∃ shown, offers graph resolver flags ids = .ok shown ∧
      shown.map Offer.pending = marked graph flags ids := by
  induction ids with
  | nil =>
      exact ⟨[], rfl, rfl⟩
  | cons id rest inductionHypothesis =>
      obtain ⟨⟨choice, found⟩, restExist⟩ := List.forall_mem_cons.1 exist
      obtain ⟨others, othersOffered, othersMarked⟩ := inductionHypothesis restExist
      have evaluated :
          Condition.evaluate? flags.hasFlag choice.unlocked =
            .ok (gateHolds flags choice.unlocked) :=
        evaluate?_eq_gateHolds (closed.unlocked choice (List.mem_of_getElem? found))
      refine ⟨⟨id, resolver.localize choice.table choice.prompt,
        gateHolds flags choice.unlocked⟩ :: others, ?_, ?_⟩
      · simp only [offers, bind_eq_ok_iff, choiceAt_eq_ok_iff, evaluateGate_eq_ok_iff]
        exact ⟨choice, found, _, evaluated, others, othersOffered, rfl⟩
      · rw [List.map_cons, othersMarked]
        simp [marked, Offer.pending, isOpen, found]

/-- What a node of a closed graph has to offer is what an evaluation of its
choices comes to. -/
theorem exists_evaluation_eq_offerAt
    (closed : Closed graph) (resolver : Resolver) (flags : Store)
    {id : NodeId} {node : Graph.Node}
    (found : graph.node? id = some node) :
    ∃ visible shown, visibleChoices graph flags node.choices = .ok visible ∧
      offers graph resolver flags visible = .ok shown ∧
        shown.map Offer.pending = offerAt graph flags node := by
  have exist := closed.choices node (List.mem_of_getElem? found)
  have visibleExist : ∀ id ∈ node.choices.filter (isShown graph flags),
      ∃ choice, graph.choice? id = some choice :=
    fun id member => exist id (List.mem_filter.1 member).1
  obtain ⟨shown, offered, isMarked⟩ := exists_offers_eq_ok closed resolver visibleExist
  exact ⟨_, shown, visibleChoices_eq_ok closed exist, offered, isMarked⟩

/-- An offer has an entry for each choice that is shown, and says whether it is open. -/
theorem mem_offerAt_iff {node : Graph.Node} {entry : Pending} :
    entry ∈ offerAt graph flags node ↔
      entry.choice ∈ node.choices ∧ isShown graph flags entry.choice = true ∧
        entry.unlocked = isOpen graph flags entry.choice := by
  obtain ⟨id, unlocked⟩ := entry
  simp only [offerAt, marked, List.mem_map, List.mem_filter, Pending.mk.injEq]
  constructor
  · rintro ⟨other, ⟨member, shown⟩, rfl, rfl⟩
    exact ⟨member, shown, rfl⟩
  · rintro ⟨member, shown, rfl⟩
    exact ⟨id, ⟨member, shown⟩, rfl, rfl⟩

end Evaluation

section Choosing

variable {graph : Graph} {resolver : Resolver} {session : Session} {flags : Store}

/-- A step that offers the visible choices of the node whose line was presented. -/
structure MakesOffer
    (graph : Graph) (resolver : Resolver) (session : Session) (flags : Store)
    (node : Graph.Node) (shown : List Offer) (step : Step Reply) : Prop where
  presenting : ∃ id, Presenting graph session id node
  evaluated : ∃ visible, visibleChoices graph flags node.choices = .ok visible ∧
    offers graph resolver flags visible = .ok shown
  session_eq : step.session =
    { session with phase := .choosing, pending := shown.map Offer.pending }
  flags_eq : step.flags = flags
  events_eq : step.events = [.choices shown]

/-- An offer stands after a call either because it stood before and nothing came
of the call, or because the call made it. -/
theorem choosing_of_outcome
    {call : Call} {step : Step Reply}
    (outcome : Outcome graph resolver session flags call step)
    (choosing : step.session.phase = .choosing) :
    (step.session = session ∧ step.flags = flags ∧ step.events = []) ∨
      ∃ node shown, MakesOffer graph resolver session flags node shown step := by
  cases outcome with
  | refused =>
      exact .inl ⟨rfl, rfl, rfl⟩
  | waited =>
      exact .inl ⟨rfl, rfl, rfl⟩
  | nothingToClose =>
      exact .inl ⟨rfl, rfl, rfl⟩
  | offered presenting visibility several offering =>
      exact .inr ⟨_, _, {
        presenting := ⟨_, presenting⟩
        evaluated := ⟨_, visibility, offering⟩
        session_eq := rfl
        flags_eq := rfl
        events_eq := rfl }⟩
  | _ =>
      cases choosing

/-- What is pending is the offer of the node at the current flags. -/
theorem MakesOffer.pending_eq
    (closed : Closed graph)
    {node : Graph.Node} {shown : List Offer} {step : Step Reply}
    (makesOffer : MakesOffer graph resolver session flags node shown step) :
    step.session.pending = offerAt graph flags node := by
  obtain ⟨id, presenting⟩ := makesOffer.presenting
  obtain ⟨visible, visibility, offering⟩ := makesOffer.evaluated
  obtain ⟨visibleAgain, shownAgain, visibilityAgain, offeringAgain, isOffer⟩ :=
    exists_evaluation_eq_offerAt closed resolver flags presenting.found
  rw [visibility] at visibilityAgain
  cases visibilityAgain
  rw [offering] at offeringAgain
  cases offeringAgain
  rw [makesOffer.session_eq, isOffer]

end Choosing

/-- While an offer stands, it is what the current node has to offer under the flags. -/
def Standing (graph : Graph) (session : Session) (flags : Store) : Prop :=
  session.phase = .choosing →
    ∃ id node, session.current = some id ∧ graph.node? id = some node ∧
      session.pending = offerAt graph flags node

section Standing

variable {graph : Graph} {resolver : Resolver} {session : Session} {flags : Store}

theorem Standing.not_choosing
    (standing : Standing graph session flags)
    (inactive : session.isActive = false) :
    session.phase ≠ .choosing := by
  intro choosing
  obtain ⟨id, node, current, _⟩ := standing choosing
  simp [isActive, current] at inactive

/-- A call makes the offer for the flags that it was given, or leaves offer and
flags alone, or does away with the offer. -/
theorem Standing.of_outcome
    (closed : Closed graph)
    (standing : Standing graph session flags)
    {call : Call} {step : Step Reply}
    (outcome : Outcome graph resolver session flags call step) :
    Standing graph step.session step.flags := by
  intro choosing
  rcases choosing_of_outcome outcome choosing with
    ⟨sameSession, sameFlags, _⟩ | ⟨node, shown, makesOffer⟩
  · rw [sameSession] at choosing ⊢
    rw [sameFlags]
    exact standing choosing
  · obtain ⟨id, presenting⟩ := makesOffer.presenting
    refine ⟨id, node, ?_, presenting.found, ?_⟩
    · rw [makesOffer.session_eq]
      exact presenting.current
    · rw [makesOffer.flags_eq]
      exact makesOffer.pending_eq closed

end Standing

/-! ## Selecting from an offer -/

section Selecting

variable {graph : Graph} {resolver : Resolver} {session : Session} {flags : Store}

/-- A step that takes a choice: it applies the effects, and moves to the target
or ends. -/
structure Takes
    (graph : Graph) (resolver : Resolver) (flags : Store) (choice : Graph.Choice)
    (step : Step Reply) : Prop where
  answer : ∃ phase, step.answer = .ok (.moved phase)
  flags : step.flags = Effect.applyAll choice.effects flags
  moves : ∀ next, choice.target = some next → ∃ node, graph.node? next = some node ∧
    step.session = { phase := .presenting, current := some next } ∧
      step.events = [lineEvent graph resolver next node]
  ends : choice.target = none →
    step.session = { phase := .terminal } ∧ step.events = [.ended]

theorem Reaches.takes
    {choice : Graph.Choice} {step : Step Reply}
    (reaches : Reaches graph resolver choice.target step)
    (applied : step.flags = Effect.applyAll choice.effects flags) :
    Takes graph resolver flags choice step where
  answer := by
    cases target : choice.target with
    | none =>
        exact ⟨_, (reaches.ends target).1⟩
    | some next =>
        obtain ⟨node, found, answer, moved⟩ := reaches.moves next target
        exact ⟨_, answer⟩
  flags := applied
  moves := by
    intro next target
    obtain ⟨node, found, answer, moved⟩ := reaches.moves next target
    exact ⟨node, found, moved⟩
  ends := fun target => (reaches.ends target).2

/-- An open entry of an offer can be taken. Coherence rules out that its choice
is missing, and closedness that its target is. -/
theorem takes_of_unlocked
    (closed : Closed graph)
    (coherent : Coherent graph session)
    (resolver : Resolver) (flags : Store)
    {index : Nat} {entry : Pending}
    (offered : Offers session index entry)
    (unlocked : entry.unlocked = true) :
    ∃ choice, graph.choice? entry.choice = some choice ∧
      Takes graph resolver flags choice
        (perform graph resolver session flags (.select index)) := by
  have sameEntry : ∀ {other}, Offers session index other → other = entry :=
    fun other => by
    have both := other.found.symm.trans offered.found
    exact Option.some.inj both
  cases answered : (perform graph resolver session flags (.select index)).answer with
  | ok reply =>
      obtain ⟨other, choice, isOffered, _, choiceFound, applied, reaches⟩ :=
        reaches_of_select answered
      rw [sameEntry isOffered] at choiceFound
      exact ⟨choice, choiceFound, reaches.takes applied⟩
  | error error =>
      cases (refuses_of_answer_eq_error answered).1 with
      | noChoicesPending _ notChoosing =>
          exact absurd offered.phase notChoosing
      | outOfRange _ missing =>
          rw [offered.found] at missing
          cases missing
      | locked other locked =>
          rw [sameEntry other, unlocked] at locked
          cases locked
      | choiceMissing other _ missing =>
          obtain ⟨choice, found⟩ :=
            coherent.exists_pending_choice (List.mem_of_getElem? other.found)
          rw [missing] at found
          cases found
      | targetMissing _ _ choiceFound target missing =>
          obtain ⟨node, found⟩ :=
            closed.targets _ (List.mem_of_getElem? choiceFound) _ target
          rw [missing] at found
          cases found

/-- A selection that is not of an open entry is refused, and nothing else comes
of it. -/
theorem refused_of_not_unlocked
    {index : Nat}
    (notOpen : ∀ entry, session.pending[index]? = some entry → entry.unlocked = false) :
    ∃ issue, perform graph resolver session flags (.select index) =
      { answer := .error (.invalidSelection index issue), session, flags } := by
  have outcome : Outcome graph resolver session flags (.select index)
      (perform graph resolver session flags (.select index)) :=
    outcome_perform (.select index)
  have notUnlocked : ∀ {entry}, Offers session index entry → entry.unlocked ≠ true :=
    fun offered => by simp [notOpen _ offered.found]
  generalize perform graph resolver session flags (.select index) = step at outcome ⊢
  cases outcome with
  | refused refuses =>
      cases refuses with
      | choiceMissing offered unlocked =>
          exact absurd unlocked (notUnlocked offered)
      | targetMissing offered unlocked =>
          exact absurd unlocked (notUnlocked offered)
      | _ =>
          exact ⟨_, rfl⟩
  | taken offered unlocked =>
      exact absurd unlocked (notUnlocked offered)
  | takenLast offered unlocked =>
      exact absurd unlocked (notUnlocked offered)

end Selecting

end Colloquy.Session
