import Colloquy.Proofs.Session.Coherence

/-!
# Effects of calls

A call changes the flags in one way only: by the effects of the choice that it
takes. Sessions without a current node are brought to one by a start alone.
-/

namespace Colloquy.Session

open Colloquy.Flag (Store)
open Colloquy.Graph (NodeId ChoiceId)

/-- The choice that a call takes with a step: that of the index, if the step
succeeds. -/
def takenBy (session : Session) (call : Call) (step : Step Reply) : Option ChoiceId :=
  match call, step.answer with
  | .select index, .ok _ => session.pending[index]?.map (·.choice)
  | _, _ => none

/-- The choice that a call takes, if it takes one. -/
def taken? (graph : Graph) (resolver : Resolver) (session : Session) (flags : Store)
    (call : Call) : Option ChoiceId :=
  takenBy session call (perform graph resolver session flags call)

/-- The effects of the choice at a position; none if there is no choice. -/
def effectsAt (graph : Graph) (id : ChoiceId) : List Effect :=
  ((graph.choice? id).map (·.effects)).getD []

section

variable {graph : Graph} {resolver : Resolver} {session : Session} {flags : Store}

theorem applyAll_append (first second : List Effect) (flags : Store) :
    Effect.applyAll (first ++ second) flags =
      Effect.applyAll second (Effect.applyAll first flags) :=
  List.foldl_append

/-- A refused call takes no choice. -/
theorem takenBy_of_answer_eq_error
    {call : Call} {step : Step Reply} {error : Error}
    (refused : step.answer = .error error) :
    takenBy session call step = none := by
  cases call with
  | _ =>
      simp [takenBy, refused]

theorem takenBy_select
    {index : Nat} {picked : Pending} {step : Step Reply} {reply : Reply}
    (offered : Offers session index picked)
    (answered : step.answer = .ok reply) :
    takenBy session (.select index) step = some picked.choice := by
  simp [takenBy, answered, offered.found]

theorem effectsAt_of_choice?_eq_some
    {id : ChoiceId} {choice : Graph.Choice}
    (found : graph.choice? id = some choice) :
    effectsAt graph id = choice.effects := by
  simp [effectsAt, found]

private theorem flags_of_outcome
    {call : Call} {step : Step Reply}
    (outcome : Outcome graph resolver session flags call step) :
    step.flags =
      Effect.applyAll
        ((takenBy session call step).toList.flatMap (effectsAt graph)) flags := by
  cases outcome with
  | refused =>
      rw [takenBy_of_answer_eq_error rfl]
      rfl
  | taken offered unlocked choiceFound target found =>
      rw [takenBy_select offered rfl]
      simp [effectsAt_of_choice?_eq_some choiceFound]
  | takenLast offered unlocked choiceFound target =>
      rw [takenBy_select offered rfl]
      simp [effectsAt_of_choice?_eq_some choiceFound, Step.map, finish]
  | _ =>
      rfl

/-- The flags after a call: the effects of the choice taken, applied to the
flags before it. -/
theorem flags_perform (call : Call) :
    (perform graph resolver session flags call).flags =
      Effect.applyAll
        ((taken? graph resolver session flags call).toList.flatMap (effectsAt graph))
          flags :=
  flags_of_outcome (outcome_perform call)

/-- Where no choice is taken the flags stay as they are. -/
theorem flags_perform_of_taken?_eq_none
    {call : Call}
    (noneTaken : taken? graph resolver session flags call = none) :
    (perform graph resolver session flags call).flags = flags := by
  rw [flags_perform, noneTaken]
  rfl

private theorem takenBy_eq_none_of_not_choosing
    (notChoosing : session.phase ≠ .choosing)
    {call : Call} {step : Step Reply}
    (outcome : Outcome graph resolver session flags call step) :
    takenBy session call step = none := by
  cases outcome with
  | refused =>
      exact takenBy_of_answer_eq_error rfl
  | taken offered =>
      exact absurd offered.phase notChoosing
  | takenLast offered =>
      exact absurd offered.phase notChoosing
  | _ =>
      rfl

/-- A call while no dialogue is open leaves the flags as they are. -/
theorem flags_perform_of_inactive
    (coherent : Coherent graph session)
    (inactive : session.isActive = false)
    (call : Call) :
    (perform graph resolver session flags call).flags = flags := by
  have noneTaken : taken? graph resolver session flags call = none :=
    takenBy_eq_none_of_not_choosing (coherent.phase_ne_choosing_of_inactive inactive)
      (outcome_perform call)
  exact flags_perform_of_taken?_eq_none noneTaken

/-- Only a start brings a session without a current node to one. -/
theorem exists_start_of_isActive
    (coherent : Coherent graph session)
    (inactive : session.isActive = false)
    {call : Call}
    (active : (perform graph resolver session flags call).session.isActive = true) :
    ∃ trigger, call = .start trigger := by
  have outcome : Outcome graph resolver session flags call
      (perform graph resolver session flags call) :=
    outcome_perform call
  have notChoosing : session.phase ≠ .choosing :=
    coherent.phase_ne_choosing_of_inactive inactive
  have noCurrent : ∀ id, session.current ≠ some id := fun id current => by
    simp [isActive, current] at inactive
  generalize perform graph resolver session flags call = step at outcome active
  cases outcome with
  | started =>
      exact ⟨_, rfl⟩
  | refused =>
      simp [inactive] at active
  | waited choosing =>
      exact absurd choosing notChoosing
  | nothingToClose =>
      simp [inactive] at active
  | followed presenting =>
      exact absurd presenting.current (noCurrent _)
  | offered presenting =>
      exact absurd presenting.current (noCurrent _)
  | taken offered =>
      exact absurd offered.phase notChoosing
  | _ =>
      cases active

end

end Colloquy.Session
