import Colloquy.Proofs.Session.Agreement
import Colloquy.Proofs.Session.Failures
import Mathlib.Data.List.Forall2

/-!
# Finished sessions

A session whose dialogue is over has kept nothing of it: no node is current and
nothing is pending, however the dialogue ended. Whatever is called afterwards,
it answers and tells what a new session would. Only its phase says that it is
not new, and it no longer does once a dialogue is started.
-/

namespace Colloquy.Session

open Colloquy.Flag (Store)
open Colloquy.Graph (NodeId)

/-- The sessions in which no dialogue is open. -/
inductive Resting : Session → Prop
  | idle : Resting { phase := .idle }
  | terminal : Resting { phase := .terminal }

private theorem Coherent.resting_of_inactive
    {graph : Graph} {session : Session}
    (coherent : Coherent graph session)
    (inactive : session.isActive = false) :
    Resting session := by
  cases coherent with
  | idle =>
      exact .idle
  | terminal =>
      exact .terminal
  | presenting =>
      cases inactive
  | choosing =>
      cases inactive

section Resting

variable {session : Session}

private theorem Resting.current_eq_none (rests : Resting session) :
    session.current = none := by
  cases rests with
  | _ =>
      rfl

theorem Resting.pending_eq_nil (rests : Resting session) : session.pending = [] := by
  cases rests with
  | _ =>
      rfl

/-- A call that leaves each session at rest as it is, and opens no dialogue in any. -/
def LeavesResting
    (graph : Graph) (resolver : Resolver) (flags : Store) (call : Call) : Prop :=
  ∃ answer, (∀ id, answer ≠ .ok (.started id)) ∧
    ∀ session, Resting session →
      perform graph resolver session flags call = { answer, session, flags }

/-- A start is refused by each session at rest, or brings all of them to the
same line. -/
theorem start_of_resting
    (graph : Graph) (resolver : Resolver) (flags : Store) (trigger : String) :
    LeavesResting graph resolver flags (.start trigger) ∨
      ∃ step, ∀ session, Resting session →
        perform graph resolver session flags (.start trigger) = step := by
  cases starts : graph.start? trigger with
  | none =>
      refine .inl ⟨.error (.unknownTrigger trigger), by simp, fun session rests => ?_⟩
      simp [perform, start, isActive, rests.current_eq_none, starts, Step.map,
        Except.map]
  | some id =>
      cases found : graph.node? id with
      | none =>
          refine .inl ⟨.error (.missingNode id), by simp, fun session rests => ?_⟩
          simp [perform, start, isActive, rests.current_eq_none, starts, present, found,
            Step.map, Except.map]
      | some node =>
          refine .inr ⟨{
            answer := .ok (.started id)
            session := { phase := .presenting, current := some id }
            flags
            events := [lineEvent graph resolver id node] }, fun session rests => ?_⟩
          simp [perform, start, isActive, rests.current_eq_none, starts, present, found,
            Step.map, Except.map, rests.pending_eq_nil]

private theorem perform_of_resting
    (graph : Graph) (resolver : Resolver) (flags : Store) (call : Call) :
    LeavesResting graph resolver flags call ∨
      ∃ step, ∀ session, Resting session →
        perform graph resolver session flags call = step := by
  cases call with
  | start trigger =>
      exact start_of_resting graph resolver flags trigger
  | advance =>
      refine .inl ⟨.error .notActive, by simp, fun session rests => ?_⟩
      cases rests with
      | _ =>
          rfl
  | select index =>
      refine .inl ⟨.error (.invalidSelection index .noChoicesPending), by simp,
        fun session rests => ?_⟩
      cases rests with
      | _ =>
          rfl
  | close =>
      refine .inl ⟨.ok (.closed false), by simp, fun session rests => ?_⟩
      cases rests with
      | _ =>
          rfl

end Resting

/-- Two steps that differ in nothing but the phase of the session after them. -/
structure SameButPhase (left right : Step Reply) : Prop where
  answer : left.answer = right.answer
  flags : left.flags = right.flags
  events : left.events = right.events
  current : left.session.current = right.session.current
  pending : left.session.pending = right.session.pending

theorem SameButPhase.refl (step : Step Reply) : SameButPhase step step :=
  ⟨rfl, rfl, rfl, rfl, rfl⟩

/-- Steps of two runs that differ in nothing but phases, and in nothing at all
from a start that succeeds. -/
structure SameUntilStart (left right : List (Step Reply)) : Prop where
  steps : List.Forall₂ SameButPhase left right
  sinceStart :
    ∀ (position : Nat) (step : Step Reply) (id : NodeId), left[position]? = some step →
      step.answer = .ok (.started id) → left.drop position = right.drop position

theorem SameUntilStart.refl (steps : List (Step Reply)) :
    SameUntilStart steps steps where
  steps := List.forall₂_same.2 fun step _ => .refl step
  sinceStart _ _ _ _ _ := rfl

/-- Runs that begin alike without a start are the same if their rests are. -/
theorem SameUntilStart.cons
    {first second : Step Reply} {left right : List (Step Reply)}
    (same : SameButPhase first second)
    (noStart : ∀ id, first.answer ≠ .ok (.started id))
    (later : SameUntilStart left right) :
    SameUntilStart (first :: left) (second :: right) where
  steps := .cons same later.steps
  sinceStart := by
    intro position step id found started
    cases position with
    | zero =>
        rw [List.getElem?_cons_zero, Option.some.injEq] at found
        rw [found] at noStart
        exact absurd started (noStart id)
    | succ position =>
        exact later.sinceStart position step id found started

private theorem sameUntilStart_of_resting
    {graph : Graph} {left right : Session}
    (restsLeft : Resting left)
    (restsRight : Resting right)
    (resolver : Resolver) (calls : List (Call × Store)) :
    SameUntilStart (run graph resolver left calls)
      (run graph resolver right calls) := by
  induction calls with
  | nil =>
      exact .refl []
  | cons head tail inductionHypothesis =>
      obtain ⟨call, flags⟩ := head
      rw [run, run]
      rcases perform_of_resting graph resolver flags call with
        ⟨answer, noStart, leaves⟩ | ⟨step, comesTo⟩
      · rw [leaves left restsLeft, leaves right restsRight]
        refine .cons ⟨rfl, rfl, rfl, ?_, ?_⟩ noStart inductionHypothesis
        · exact restsLeft.current_eq_none.trans restsRight.current_eq_none.symm
        · exact restsLeft.pending_eq_nil.trans restsRight.pending_eq_nil.symm
      · rw [comesTo left restsLeft, comesTo right restsRight]
        exact .refl _

/-! ## Finished sessions are like new -/

/-- A session that shows nothing, and from which calls cannot tell that it is
not new. -/
structure LikeNew (graph : Graph) (resolver : Resolver) (session : Session)
    (calls : List (Call × Store)) : Prop where
  current : session.current = ({} : Session).current
  pending : session.pending = ({} : Session).pending
  run : SameUntilStart (run graph resolver session calls) (run graph resolver {} calls)

/-- Over any graph, whatever was called before, a session without a current node
goes on like a new one, whatever is called with whatever flags. -/
theorem finished_session_is_like_new
    (graph : Graph) (resolver : Resolver) (earlier : List (Call × Store))
    (finished : (after graph resolver {} earlier).current = none)
    (calls : List (Call × Store)) :
    LikeNew graph resolver (after graph resolver {} earlier) calls := by
  have coherent : Coherent graph (after graph resolver {} earlier) :=
    Coherent.idle.after resolver earlier
  have inactive : (after graph resolver {} earlier).isActive = false := by
    simp [isActive, finished]
  have rests : Resting (after graph resolver {} earlier) :=
    coherent.resting_of_inactive inactive
  exact {
    current := finished
    pending := rests.pending_eq_nil
    run := sameUntilStart_of_resting rests .idle resolver calls }

/-- The way up out of the cellar is taken, which ends the dialogue at an offer. -/
def cellarLeft : List (Call × Store) :=
  [(.start "cellar", .empty), (.advance, .empty), (.select 1, .empty)]

/-- After the cellar was left, an old number selects nothing, and the cellar can
be entered again. -/
theorem left_cellar_is_like_new :
    (after cellarGraph Localizer.passThrough {} cellarLeft).current = none ∧
      (after cellarGraph Localizer.passThrough {} cellarLeft).phase = .terminal ∧
        LikeNew cellarGraph Localizer.passThrough
          (after cellarGraph Localizer.passThrough {} cellarLeft)
          [(.select 1, .empty), (.close, .empty), (.start "cellar", .empty),
            (.advance, .empty)] := by
  have finished :
      (after cellarGraph Localizer.passThrough {} cellarLeft).current = none := by
    decide
  have terminal :
      (after cellarGraph Localizer.passThrough {} cellarLeft).phase = .terminal := by
    decide
  refine ⟨finished, terminal, ?_⟩
  exact finished_session_is_like_new cellarGraph Localizer.passThrough cellarLeft
    finished
    [(.select 1, .empty), (.close, .empty), (.start "cellar", .empty),
      (.advance, .empty)]

end Colloquy.Session
