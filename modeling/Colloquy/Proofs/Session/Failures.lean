import Colloquy.Proofs.Session.Offering

/-!
# Failing calls

A refused call leaves the session, the flags and the presentation as they were.
Over a graph that was built from a script, a call is only ever refused because
of what was asked: never because a position dangles or a condition has no value.
-/

namespace Colloquy.Session

open Colloquy.Flag (Store)
open Colloquy.Graph (NodeId ChoiceId Closed)

/-- A refused call changes nothing, even if the graph has gaps that are only
found on the way. -/
theorem refused_call_changes_nothing
    (graph : Graph) (resolver : Resolver) (stage : Stage) (call : Call) (error : Error)
    (refused : (stage.call graph resolver call).1 = .error error) :
    (stage.call graph resolver call).2 = stage := by
  have outcome : Outcome graph resolver stage.session stage.flags call
      (perform graph resolver stage.session stage.flags call) :=
    outcome_perform call
  simp only [Stage.call] at refused ⊢
  generalize perform graph resolver stage.session stage.flags call = step
    at outcome refused ⊢
  cases outcome with
  | refused =>
      simp
  | _ =>
      cases refused

/-- Two ways out of a cellar, the first of which leads to a node that is not there. -/
def cellarGraph : Graph where
  nodes := [{ symbol := "cellar", text := "It is dark.", choices := [⟨0⟩, ⟨1⟩] }]
  choices := [
    { symbol := "down", target := some ⟨7⟩, effects := [.setBool "descended"] },
    { symbol := "up" }]
  triggers := .ofEntries [("cellar", some ⟨0⟩)]

def cellarEntered : Stage :=
  (({} : Stage).call cellarGraph Localizer.passThrough (.start "cellar")).2

def cellarOffered : Stage :=
  (cellarEntered.call cellarGraph Localizer.passThrough .advance).2

/-- The way down is refused before its effect is applied. -/
theorem missing_target_changes_nothing :
    (cellarOffered.call cellarGraph Localizer.passThrough (.select 0)).1 =
        .error (.missingNode ⟨7⟩) ∧
      (cellarOffered.call cellarGraph Localizer.passThrough (.select 0)).2 =
        cellarOffered := by
  have refused :
      (cellarOffered.call cellarGraph Localizer.passThrough (.select 0)).1 =
        .error (.missingNode ⟨7⟩) := by
    rfl
  refine ⟨refused, ?_⟩
  exact refused_call_changes_nothing cellarGraph Localizer.passThrough cellarOffered
    (.select 0)
    (.missingNode ⟨7⟩) refused

/-- Errors that only a faulty graph gives rise to. -/
def Error.IsStructural : Error → Prop
  | .condition _ _ => True
  | .missingNode _ => True
  | .missingChoice _ => True
  | _ => False

section Closed

variable {graph : Graph} {resolver : Resolver} {session : Session} {flags : Store}

private theorem not_structural_of_refuses
    (closed : Closed graph)
    (coherent : Coherent graph session)
    {call : Call} {error : Error}
    (refuses : Refuses graph resolver session flags call error) :
    ¬ error.IsStructural := by
  intro structural
  cases refuses with
  | startMissing starts missing =>
      obtain ⟨node, found⟩ := closed.starts _ _ starts
      rw [missing] at found
      cases found
  | currentMissing _ current missing =>
      obtain ⟨node, found⟩ := coherent.exists_current_node current
      rw [missing] at found
      cases found
  | visibility presenting failed =>
      obtain ⟨visible, _, visibility, _⟩ :=
        exists_evaluation_eq_offerAt closed resolver flags presenting.found
      rw [failed] at visibility
      cases visibility
  | nextMissing _ _ target missing =>
      obtain ⟨choice, choiceFound, choiceTarget⟩ := Option.bind_eq_some_iff.1 target
      obtain ⟨node, found⟩ :=
        closed.targets choice (List.mem_of_getElem? choiceFound) _ choiceTarget
      rw [missing] at found
      cases found
  | offering presenting visibility failed =>
      obtain ⟨visible, shown, visibilityAgain, offering, _⟩ :=
        exists_evaluation_eq_offerAt closed resolver flags presenting.found
      rw [visibility] at visibilityAgain
      cases visibilityAgain
      rw [failed] at offering
      cases offering
  | choiceMissing offered _ missing =>
      obtain ⟨choice, found⟩ :=
        coherent.exists_pending_choice (List.mem_of_getElem? offered.found)
      rw [missing] at found
      cases found
  | targetMissing _ _ choiceFound target missing =>
      obtain ⟨node, found⟩ :=
        closed.targets _ (List.mem_of_getElem? choiceFound) _ target
      rw [missing] at found
      cases found
  | _ =>
      cases structural

/-- In a closed graph a coherent session is only refused because of what is
asked of it. -/
theorem not_structural_of_answer
    (closed : Closed graph)
    (coherent : Coherent graph session)
    {call : Call} {error : Error}
    (refused : (perform graph resolver session flags call).answer = .error error) :
    ¬ error.IsStructural :=
  not_structural_of_refuses closed coherent (refuses_of_answer_eq_error refused).1

end Closed

/-- Over a graph built from a script no run of calls meets a missing node, a
missing choice or a condition without a value, whatever flags the host hands
in. -/
theorem no_structural_error_over_built_graph
    (script : Script) (graph : Graph) (built : Graph.ofScript script = .ok graph)
    (resolver : Resolver) (calls : List (Call × Store)) :
    ∀ step ∈ run graph resolver {} calls,
      ∀ error, step.answer = .error error → ¬ error.IsStructural := by
  have closed := Graph.closed_of_ofScript_eq_ok built
  refine forall_mem_run (Coherent graph) ?_ .idle calls
  intro session flags call coherent
  refine ⟨coherent.perform resolver flags call, ?_⟩
  intro error refused
  exact not_structural_of_answer closed coherent refused

/-- A door with two ways, the first of which takes a key. -/
def doorScript : Script where
  speakers := [{ id := "guard", name := "Guard" }]
  nodes := [
    { id := "door", speaker := some "guard", text := "Who goes there?",
      choices := ["in", "off"] },
    { id := "hall", text := "You are in." }]
  choices := [
    { id := "in"
      target := some "hall"
      visible := some (.any [.flag "met", .negation [.flag "banned"]])
      unlocked := some (.flag "key") },
    { id := "off" }]
  triggers := [{ name := " door ", node := some "door" }]

def doorCalls : List (Call × Store) :=
  [(.start "door", .empty), (.advance, .empty), (.select 0, .empty)]

def lockedDoor : Step Reply where
  answer := .error (.invalidSelection 0 .locked)
  session :=
    { phase := .choosing, current := some ⟨0⟩, pending := [⟨⟨0⟩, false⟩, ⟨⟨1⟩, true⟩] }
  flags := .empty

/-- At the door the first way is refused without a key, and that is no fault of
the graph. -/
theorem locked_door_is_not_structural :
    Graph.ofScript doorScript = .ok (Graph.image doorScript) ∧
      lockedDoor ∈ run (Graph.image doorScript) Localizer.passThrough {} doorCalls ∧
        lockedDoor.answer = .error (.invalidSelection 0 .locked) ∧
          ¬ (Error.invalidSelection 0 .locked).IsStructural := by
  have built : Graph.ofScript doorScript = .ok (Graph.image doorScript) := rfl
  have member :
      lockedDoor ∈ run (Graph.image doorScript) Localizer.passThrough {} doorCalls :=
    List.mem_cons_of_mem _ (List.mem_cons_of_mem _ List.mem_cons_self)
  refine ⟨built, member, rfl, ?_⟩
  exact no_structural_error_over_built_graph doorScript (Graph.image doorScript) built
    Localizer.passThrough doorCalls lockedDoor member (.invalidSelection 0 .locked) rfl

end Colloquy.Session
