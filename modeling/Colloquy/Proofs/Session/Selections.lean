import Colloquy.Proofs.Session.Effects

/-!
# Effects of whole runs

When calls share one store, the flags at the end are those at the start changed
by the effects of the choices that were selected, each time they were selected
and in that order. Nothing else that is called has a part in it: not the choices
that are followed because no other is visible, not refused selections, not
closing.
-/

namespace Colloquy.Session

open Colloquy.Flag (Store)
open Colloquy.Graph (NodeId ChoiceId)

namespace Stage

/-- The stage after calls that all work on its flags. -/
def afterCalls
    (graph : Graph) (resolver : Resolver) (stage : Stage) (calls : List Call) : Stage :=
  calls.foldl (fun stage call => (stage.call graph resolver call).2) stage

/-- The choices that calls take, one for each selection that succeeds, in order. -/
def selections (graph : Graph) (resolver : Resolver) (stage : Stage) :
    List Call → List ChoiceId
  | [] => []
  | call :: rest =>
    (taken? graph resolver stage.session stage.flags call).toList ++
      selections graph resolver (stage.call graph resolver call).2 rest

variable {graph : Graph} {resolver : Resolver} {stage : Stage}

private theorem selections_concat (calls : List Call) (call : Call) :
    stage.selections graph resolver (calls ++ [call]) =
      stage.selections graph resolver calls ++
        (taken? graph resolver (stage.afterCalls graph resolver calls).session
          (stage.afterCalls graph resolver calls).flags call).toList := by
  induction calls generalizing stage with
  | nil =>
      simp [selections, afterCalls]
  | cons head tail inductionHypothesis =>
      simp only [List.cons_append, selections, inductionHypothesis, List.append_assoc]
      rfl

private theorem flags_afterCalls (calls : List Call) :
    (stage.afterCalls graph resolver calls).flags =
      Effect.applyAll
        ((stage.selections graph resolver calls).flatMap (effectsAt graph))
        stage.flags := by
  induction calls generalizing stage with
  | nil =>
      rfl
  | cons head tail inductionHypothesis =>
      have afterHead :
          (stage.call graph resolver head).2.flags =
            Effect.applyAll
              ((taken? graph resolver stage.session stage.flags head).toList.flatMap
                (effectsAt graph)) stage.flags :=
        flags_perform head
      rw [selections, List.flatMap_append, applyAll_append, ← afterHead]
      exact inductionHypothesis

end Stage

section Calls

variable {graph : Graph} {resolver : Resolver} {session : Session} {flags : Store}

/-- A selection that succeeds takes a choice of the graph that is on offer and open. -/
theorem taken?_select
    {index : Nat} {reply : Reply}
    (answered : (perform graph resolver session flags (.select index)).answer =
      .ok reply) :
    ∃ picked choice, session.pending[index]? = some picked ∧ picked.unlocked = true ∧
      graph.choice? picked.choice = some choice ∧
        taken? graph resolver session flags (.select index) = some picked.choice := by
  obtain ⟨picked, choice, offered, unlocked, choiceFound, _⟩ :=
    reaches_of_select answered
  exact ⟨picked, choice, offered.found, unlocked, choiceFound,
    takenBy_select offered answered⟩

private theorem taken?_eq_none
    {call : Call}
    (notSelected :
      ∀ index, call = .select index →
        ∃ error, (perform graph resolver session flags call).answer = .error error) :
    taken? graph resolver session flags call = none := by
  cases call with
  | select index =>
      obtain ⟨error, refused⟩ := notSelected index rfl
      exact takenBy_of_answer_eq_error refused
  | _ =>
      rfl

end Calls

/-- What the flags have come to after calls, which selections that is owed to,
and what the next call adds to them. -/
structure FlagsFollowSelections (graph : Graph) (resolver : Resolver) (start : Stage)
    (calls : List Call) : Prop where
  flags_eq :
    (start.afterCalls graph resolver calls).flags =
      Effect.applyAll
        ((start.selections graph resolver calls).flatMap (effectsAt graph))
        start.flags
  /-- A selection that succeeds counts once, after those before it. -/
  selected :
    ∀ index reply,
      ((start.afterCalls graph resolver calls).call graph resolver (.select index)).1 =
          .ok reply →
        ∃ picked choice,
          (start.afterCalls graph resolver calls).session.pending[index]? =
            some picked ∧
            picked.unlocked = true ∧ graph.choice? picked.choice = some choice ∧
              effectsAt graph picked.choice = choice.effects ∧
                start.selections graph resolver (calls ++ [.select index]) =
                  start.selections graph resolver calls ++ [picked.choice]
  /-- A call that is no selection, or a refused one, counts for nothing. -/
  notSelected :
    ∀ call,
      (∀ index, call = .select index →
        ∃ error, ((start.afterCalls graph resolver calls).call graph resolver call).1 =
          .error error) →
        start.selections graph resolver (calls ++ [call]) =
            start.selections graph resolver calls ∧
          ((start.afterCalls graph resolver calls).call graph resolver call).2.flags =
            (start.afterCalls graph resolver calls).flags

/-- Over any graph, from any session and store, flags change by the effects of
what is selected, each time and in order, and by nothing else. -/
theorem flags_follow_selections
    (graph : Graph) (resolver : Resolver) (start : Stage) (calls : List Call) :
    FlagsFollowSelections graph resolver start calls where
  flags_eq := Stage.flags_afterCalls calls
  selected := by
    intro index reply answered
    obtain ⟨picked, choice, onOffer, unlocked, found, taken⟩ := taken?_select answered
    refine ⟨picked, choice, onOffer, unlocked, found,
      effectsAt_of_choice?_eq_some found, ?_⟩
    rw [Stage.selections_concat, taken]
    rfl
  notSelected := by
    intro call notSelected
    have noneTaken := taken?_eq_none notSelected
    constructor
    · rw [Stage.selections_concat, noneTaken]
      exact List.append_nil _
    · exact flags_perform_of_taken?_eq_none noneTaken

end Colloquy.Session
