import Colloquy.Session

/-!
# Calls on a session

The four calls as one step function, runs of calls, and what one call can come
to: an inversion of the step function that names each way in which a call
succeeds, with what it does to the session, the flags and the presentation, and
each way in which it is refused. Laws of sessions are case analyses over these
outcomes.
-/

namespace Colloquy.Session

open Colloquy.Flag (Store)
open Colloquy.Graph (NodeId ChoiceId)

inductive Call where
  | start (trigger : String)
  | advance
  | select (index : Nat)
  | close
  deriving DecidableEq, Repr

inductive Reply where
  | started (node : NodeId)
  | moved (phase : Phase)
  | closed (wasOpen : Bool)
  deriving DecidableEq, Repr

def Step.map {α β : Type} (convert : α → β) (step : Step α) : Step β where
  answer := step.answer.map convert
  session := step.session
  flags := step.flags
  events := step.events

def perform (graph : Graph) (resolver : Resolver) (session : Session) (flags : Store) :
    Call → Step Reply
  | .start trigger => (start graph resolver session flags trigger).map .started
  | .advance => (advance graph resolver session flags).map .moved
  | .select index => (select graph resolver session flags index).map .moved
  | .close => (close session flags).map .closed

/-- A session, the flags of its host, and the events presented so far. -/
structure Stage where
  session : Session := {}
  flags : Store := .empty
  presented : List Event := []

/-- One call with the flags of the stage: the answer and the stage after it. -/
def Stage.call (graph : Graph) (resolver : Resolver) (stage : Stage) (call : Call) :
    Except Error Reply × Stage :=
  let step := perform graph resolver stage.session stage.flags call
  (step.answer, {
    session := step.session
    flags := step.flags
    presented := stage.presented ++ step.events })

/-- Calls one after another. With each of them the host hands in flags of its own. -/
def run (graph : Graph) (resolver : Resolver) (session : Session) :
    List (Call × Store) → List (Step Reply)
  | [] => []
  | (call, flags) :: rest =>
    let step := perform graph resolver session flags call
    step :: run graph resolver step.session rest

/-- What holds of a session, is kept by each call and makes each call good,
makes a run good. -/
theorem forall_mem_run
    {graph : Graph} {resolver : Resolver} {Good : Step Reply → Prop}
    (Holds : Session → Prop)
    (each : ∀ session flags call, Holds session →
      Holds (perform graph resolver session flags call).session ∧
        Good (perform graph resolver session flags call))
    {session : Session}
    (holds : Holds session)
    (calls : List (Call × Store)) :
    ∀ step ∈ run graph resolver session calls, Good step := by
  induction calls generalizing session with
  | nil =>
      intro step member
      cases member
  | cons head tail inductionHypothesis =>
      obtain ⟨call, flags⟩ := head
      obtain ⟨kept, good⟩ := each session flags call holds
      intro step member
      rcases List.mem_cons.1 member with equal | later
      · rw [equal]
        exact good
      · exact inductionHypothesis kept step later

section Outcomes

variable (graph : Graph) (resolver : Resolver) (session : Session) (flags : Store)

/-- The node that is current while its line is presented. -/
structure Presenting (id : NodeId) (node : Graph.Node) : Prop where
  phase : session.phase = .presenting
  current : session.current = some id
  found : graph.node? id = some node

/-- The choice on offer at an index. -/
structure Offers (index : Nat) (picked : Pending) : Prop where
  phase : session.phase = .choosing
  found : session.pending[index]? = some picked

inductive Refuses : Call → Error → Prop
  | alreadyActive (trigger : String) :
      session.isActive = true → Refuses (.start trigger) .alreadyActive
  | unknownTrigger {trigger : String} :
      graph.start? trigger = none → Refuses (.start trigger) (.unknownTrigger trigger)
  | startMissing {trigger : String} {id : NodeId} :
      graph.start? trigger = some id → graph.node? id = none →
        Refuses (.start trigger) (.missingNode id)
  | notActive :
      session.phase ≠ .choosing →
        (session.phase = .presenting → session.current = none) →
        Refuses .advance .notActive
  | currentMissing {id : NodeId} :
      session.phase = .presenting → session.current = some id → graph.node? id = none →
        Refuses .advance (.missingNode id)
  | visibility {id : NodeId} {node : Graph.Node} {error : Error} :
      Presenting graph session id node →
        visibleChoices graph flags node.choices = .error error →
        Refuses .advance error
  | nextMissing {id next : NodeId} {node : Graph.Node} {only : ChoiceId} :
      Presenting graph session id node →
        visibleChoices graph flags node.choices = .ok [only] →
        (graph.choice? only).bind (·.target) = some next → graph.node? next = none →
          Refuses .advance (.missingNode next)
  | offering {id : NodeId} {node : Graph.Node} {visible : List ChoiceId}
      {error : Error} :
      Presenting graph session id node →
        visibleChoices graph flags node.choices = .ok visible →
        offers graph resolver flags visible = .error error → Refuses .advance error
  | noChoicesPending (index : Nat) :
      session.phase ≠ .choosing →
        Refuses (.select index) (.invalidSelection index .noChoicesPending)
  | outOfRange {index : Nat} :
      session.phase = .choosing → session.pending[index]? = none →
        Refuses (.select index)
          (.invalidSelection index (.outOfRange session.pending.length))
  | locked {index : Nat} {picked : Pending} :
      Offers session index picked → picked.unlocked = false →
        Refuses (.select index) (.invalidSelection index .locked)
  | choiceMissing {index : Nat} {picked : Pending} :
      Offers session index picked → picked.unlocked = true →
        graph.choice? picked.choice = none →
          Refuses (.select index) (.missingChoice picked.choice)
  | targetMissing {index : Nat} {picked : Pending} {choice : Graph.Choice}
      {target : NodeId} :
      Offers session index picked → picked.unlocked = true →
        graph.choice? picked.choice = some choice → choice.target = some target →
          graph.node? target = none → Refuses (.select index) (.missingNode target)

/-- What a call comes to: the step that it makes. -/
inductive Outcome : Call → Step Reply → Prop
  | refused {call : Call} {error : Error} :
      Refuses graph resolver session flags call error →
        Outcome call { answer := .error error, session, flags }
  | started {trigger : String} {id : NodeId} {node : Graph.Node} :
      session.isActive = false → graph.start? trigger = some id →
        graph.node? id = some node →
        Outcome (.start trigger) {
          answer := .ok (.started id)
          session := { session with phase := .presenting, current := some id }
          flags
          events := [lineEvent graph resolver id node] }
  | waited :
      session.phase = .choosing →
        Outcome .advance { answer := .ok (.moved .choosing), session, flags }
  | ended {id : NodeId} {node : Graph.Node} :
      Presenting graph session id node →
        visibleChoices graph flags node.choices = .ok [] →
        Outcome .advance ((finish flags).map .moved)
  | endedAfter {id : NodeId} {node : Graph.Node} {only : ChoiceId} :
      Presenting graph session id node →
        visibleChoices graph flags node.choices = .ok [only] →
        (graph.choice? only).bind (·.target) = none →
          Outcome .advance ((finish flags).map .moved)
  | followed {id next : NodeId} {node nextNode : Graph.Node} {only : ChoiceId} :
      Presenting graph session id node →
        visibleChoices graph flags node.choices = .ok [only] →
        (graph.choice? only).bind (·.target) = some next →
          graph.node? next = some nextNode →
          Outcome .advance {
            answer := .ok (.moved .presenting)
            session := { session with phase := .presenting, current := some next }
            flags
            events := [lineEvent graph resolver next nextNode] }
  | offered {id : NodeId} {node : Graph.Node} {visible : List ChoiceId}
      {shown : List Offer} :
      Presenting graph session id node →
        visibleChoices graph flags node.choices = .ok visible →
        2 ≤ visible.length → offers graph resolver flags visible = .ok shown →
          Outcome .advance {
            answer := .ok (.moved .choosing)
            session :=
              { session with phase := .choosing, pending := shown.map Offer.pending }
            flags
            events := [.choices shown] }
  | taken {index : Nat} {picked : Pending} {choice : Graph.Choice} {next : NodeId}
      {nextNode : Graph.Node} :
      Offers session index picked → picked.unlocked = true →
        graph.choice? picked.choice = some choice → choice.target = some next →
          graph.node? next = some nextNode →
            Outcome (.select index) {
              answer := .ok (.moved .presenting)
              session := { phase := .presenting, current := some next }
              flags := Effect.applyAll choice.effects flags
              events := [lineEvent graph resolver next nextNode] }
  | takenLast {index : Nat} {picked : Pending} {choice : Graph.Choice} :
      Offers session index picked → picked.unlocked = true →
        graph.choice? picked.choice = some choice → choice.target = none →
          Outcome (.select index)
            ((finish (Effect.applyAll choice.effects flags)).map .moved)
  | closed :
      session.isActive = true →
        Outcome .close
          { answer := .ok (.closed true), session := {}, flags, events := [.ended] }
  | nothingToClose :
      session.isActive = false →
        Outcome .close { answer := .ok (.closed false), session, flags }

end Outcomes

/-! ## Inversion of the step function -/

section Inversion

variable {graph : Graph} {resolver : Resolver} {session : Session} {flags : Store}

theorem outcome_start (trigger : String) :
    Outcome graph resolver session flags (.start trigger)
      (perform graph resolver session flags (.start trigger)) := by
  by_cases active : session.isActive = true
  · simp only [perform, start, active, if_true]
    exact .refused (.alreadyActive trigger active)
  · have inactive : session.isActive = false := Bool.eq_false_iff.2 active
    simp only [perform, start, inactive, Bool.false_eq_true, if_false]
    cases starts : graph.start? trigger with
    | none =>
        exact .refused (.unknownTrigger starts)
    | some id =>
        simp only [present]
        cases found : graph.node? id with
        | none =>
            exact .refused (.startMissing starts found)
        | some node =>
            exact .started inactive starts found

/-- Leaving a node that is presented, whether it has choices or not. -/
theorem outcome_leave
    {id : NodeId} {node : Graph.Node}
    (presenting : Presenting graph session id node) :
    Outcome graph resolver session flags .advance
      ((leave graph resolver session flags node).map .moved) := by
  unfold leave
  cases visibility : visibleChoices graph flags node.choices with
  | error error =>
      exact .refused (.visibility presenting visibility)
  | ok visible =>
      match visible with
      | [] =>
          exact .ended presenting visibility
      | [only] =>
          simp only [proceed]
          cases target : (graph.choice? only).bind (·.target) with
          | none =>
              exact .endedAfter presenting visibility target
          | some next =>
              simp only [present]
              cases found : graph.node? next with
              | none =>
                  exact .refused (.nextMissing presenting visibility target found)
              | some nextNode =>
                  exact .followed presenting visibility target found
      | first :: second :: rest =>
          simp only [offer]
          cases offering : offers graph resolver flags (first :: second :: rest) with
          | error error =>
              exact .refused (.offering presenting visibility offering)
          | ok shown =>
              exact .offered presenting visibility (by simp) offering

private theorem outcome_advance :
    Outcome graph resolver session flags .advance
      (perform graph resolver session flags .advance) := by
  obtain ⟨phase, current, pending⟩ := session
  cases phase with
  | idle =>
      exact .refused (.notActive (by simp) (by simp))
  | terminal =>
      exact .refused (.notActive (by simp) (by simp))
  | choosing =>
      exact .waited rfl
  | presenting =>
      cases current with
      | none =>
          exact .refused (.notActive (by simp) fun _ => rfl)
      | some id =>
          simp only [perform, advance]
          cases found : graph.node? id with
          | none =>
              exact .refused (.currentMissing rfl rfl found)
          | some node =>
              have presenting :
                  Presenting graph ⟨.presenting, some id, pending⟩ id node :=
                ⟨rfl, rfl, found⟩
              cases terminal : node.isTerminal with
              | false =>
                  simp only [terminal, Bool.false_eq_true, if_false]
                  exact outcome_leave presenting
              | true =>
                  have noneVisible :
                      visibleChoices graph flags node.choices = .ok [] := by
                    rw [List.isEmpty_iff.1 terminal]
                    rfl
                  simp only [terminal, if_true]
                  exact .ended presenting noneVisible

/-- Taking a choice on offer that is not locked. -/
theorem outcome_take
    {index : Nat} {picked : Pending}
    (offered : Offers session index picked)
    (unlocked : picked.unlocked = true) :
    Outcome graph resolver session flags (.select index)
      ((take graph resolver session flags picked.choice).map .moved) := by
  unfold take
  cases choiceFound : graph.choice? picked.choice with
  | none =>
      exact .refused (.choiceMissing offered unlocked choiceFound)
  | some choice =>
      cases target : choice.target with
      | none =>
          simp only [target, Option.filter_none, proceed]
          exact .takenLast offered unlocked choiceFound target
      | some next =>
          cases found : graph.node? next with
          | none =>
              simp only [target, Option.filter, found, Option.isNone_none, if_true]
              exact .refused (.targetMissing offered unlocked choiceFound target found)
          | some nextNode =>
              simp only [target, Option.filter, found, Option.isNone_some,
                Bool.false_eq_true, if_false, proceed, present]
              exact .taken offered unlocked choiceFound target found

private theorem outcome_select (index : Nat) :
    Outcome graph resolver session flags (.select index)
      (perform graph resolver session flags (.select index)) := by
  by_cases choosing : session.phase = .choosing
  · simp only [perform, select, choosing, ne_eq, not_true_eq_false, if_false]
    cases found : session.pending[index]? with
    | none =>
        exact .refused (.outOfRange choosing found)
    | some picked =>
        have offered : Offers session index picked := ⟨choosing, found⟩
        cases unlocked : picked.unlocked with
        | false =>
            simp only [unlocked, Bool.false_eq_true, if_false]
            exact .refused (.locked offered unlocked)
        | true =>
            simp only [unlocked, if_true]
            exact outcome_take offered unlocked
  · simp only [perform, select, choosing, ne_eq, not_false_eq_true, if_true]
    exact .refused (.noChoicesPending index choosing)

private theorem outcome_close :
    Outcome graph resolver session flags .close
      (perform graph resolver session flags .close) := by
  by_cases active : session.isActive = true
  · simp only [perform, close, active, if_true]
    exact .closed active
  · have inactive : session.isActive = false := Bool.eq_false_iff.2 active
    simp only [perform, close, inactive, Bool.false_eq_true, if_false]
    exact .nothingToClose inactive

/-- Each call comes to one of the outcomes for it. -/
theorem outcome_perform (call : Call) :
    Outcome graph resolver session flags call
      (perform graph resolver session flags call) := by
  cases call with
  | start trigger =>
      exact outcome_start trigger
  | advance =>
      exact outcome_advance
  | select index =>
      exact outcome_select index
  | close =>
      exact outcome_close

/-- A call that answers with an error was refused, and nothing else came of it. -/
theorem refuses_of_answer_eq_error
    {call : Call} {error : Error}
    (refused : (perform graph resolver session flags call).answer = .error error) :
    Refuses graph resolver session flags call error ∧
      perform graph resolver session flags call =
        { answer := .error error, session, flags } := by
  have outcome : Outcome graph resolver session flags call
      (perform graph resolver session flags call) :=
    outcome_perform call
  generalize perform graph resolver session flags call = step at outcome refused ⊢
  cases outcome with
  | refused refuses =>
      cases refused
      exact ⟨refuses, rfl⟩
  | _ =>
      cases refused

end Inversion

section Selecting

variable {graph : Graph} {resolver : Resolver} {session : Session} {flags : Store}

/-- A step that presents the line of a target, or ends the dialogue without one. -/
structure Reaches (graph : Graph) (resolver : Resolver) (target : Option NodeId)
    (step : Step Reply) : Prop where
  moves : ∀ next, target = some next → ∃ node, graph.node? next = some node ∧
    step.answer = .ok (.moved .presenting) ∧
      step.session = { phase := .presenting, current := some next } ∧
        step.events = [lineEvent graph resolver next node]
  ends : target = none →
    step.answer = .ok (.moved .terminal) ∧ step.session = { phase := .terminal } ∧
      step.events = [.ended]

/-- A selection that is answered takes an open entry of the offer. -/
theorem reaches_of_select
    {index : Nat} {reply : Reply}
    (answered : (perform graph resolver session flags (.select index)).answer =
      .ok reply) :
    ∃ entry choice, Offers session index entry ∧ entry.unlocked = true ∧
      graph.choice? entry.choice = some choice ∧
        (perform graph resolver session flags (.select index)).flags =
          Effect.applyAll choice.effects flags ∧
        Reaches graph resolver choice.target
          (perform graph resolver session flags (.select index)) := by
  have outcome : Outcome graph resolver session flags (.select index)
      (perform graph resolver session flags (.select index)) :=
    outcome_perform (.select index)
  generalize perform graph resolver session flags (.select index) = step
    at outcome answered ⊢
  cases outcome with
  | refused =>
      cases answered
  | taken offered unlocked choiceFound target found =>
      refine ⟨_, _, offered, unlocked, choiceFound, rfl, ?_, ?_⟩
      · intro next isTarget
        rw [target] at isTarget
        cases isTarget
        exact ⟨_, found, rfl, rfl, rfl⟩
      · intro noTarget
        rw [target] at noTarget
        cases noTarget
  | takenLast offered unlocked choiceFound target =>
      refine ⟨_, _, offered, unlocked, choiceFound, rfl, ?_, fun _ => ⟨rfl, rfl, rfl⟩⟩
      intro next isTarget
      rw [target] at isTarget
      cases isTarget

end Selecting

end Colloquy.Session
