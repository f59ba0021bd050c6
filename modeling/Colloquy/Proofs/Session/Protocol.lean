import Colloquy.Proofs.Session.Agreement
import Mathlib.Computability.Language
import Mathlib.Order.CompletePartialOrder
import Mathlib.Tactic.GCongr

/-!
# The order of events

What a presentation is told by a session, over any graph and whatever is called:
conversations one after another, each of which opens with a line, follows every
offer by a line or by its end, and ends. What was told last says in which phase
the session is.
-/

namespace Colloquy.Session

open Colloquy.Flag (Store)
open Colloquy.Graph (NodeId ChoiceId)
open scoped Computability

/-- What an event tells, its contents left out. -/
inductive Event.Kind where
  | line
  | choices
  | ended
  deriving DecidableEq, Repr

def Event.kind : Event → Event.Kind
  | .line .. => .line
  | .choices _ => .choices
  | .ended => .ended

/-- A line, and then any number of lines and of offers with a line after them. -/
def openConversation : Language Event.Kind :=
  {[.line]} * ({[.line]} + {[.choices, .line]})∗

/-- A whole conversation. It may end at an offer. -/
def conversation : Language Event.Kind :=
  openConversation * (1 + {[.choices]}) * {[.ended]}

/-- What may have been told when a session is in a phase. -/
def toldBy : Phase → Language Event.Kind
  | .idle => conversation∗
  | .presenting => conversation∗ * openConversation
  | .choosing => conversation∗ * openConversation * {[.choices]}
  | .terminal => conversation∗

private theorem singleton_mul_singleton (first second : List Event.Kind) :
    ({first} * {second} : Language Event.Kind) = {first ++ second} :=
  Set.image2_singleton

private theorem line_le_openConversation :
    ({[.line]} : Language Event.Kind) ≤ openConversation := by
  calc
    {[.line]} = ({[.line]} : Language Event.Kind) * 1 := (mul_one _).symm
    _ ≤ openConversation := by
      rw [openConversation]
      gcongr
      exact one_le_kstar

private theorem openConversation_mul_turn_le :
    openConversation * ({[.line]} + {[.choices, .line]}) ≤ openConversation := by
  rw [openConversation, mul_assoc]
  gcongr
  exact kstar_mul_le_kstar

private theorem conversations_mul_line_le :
    conversation∗ * {[.line]} ≤ toldBy .presenting := by
  rw [toldBy]
  gcongr
  exact line_le_openConversation

private theorem presenting_mul_line_le :
    toldBy .presenting * {[.line]} ≤ toldBy .presenting := by
  have turn : openConversation * {[.line]} ≤ openConversation := by
    refine le_trans ?_ openConversation_mul_turn_le
    gcongr
    exact le_self_add
  rw [toldBy, mul_assoc]
  gcongr

private theorem choosing_mul_line_le :
    toldBy .choosing * {[.line]} ≤ toldBy .presenting := by
  have turn : openConversation * {[.choices, .line]} ≤ openConversation := by
    refine le_trans ?_ openConversation_mul_turn_le
    gcongr
    exact le_add_self
  rw [toldBy, toldBy, mul_assoc, singleton_mul_singleton, mul_assoc]
  gcongr
  exact turn

section Ending

variable {atOffer : Language Event.Kind}

/-- A conversation may end right after a line and at an offer. -/
theorem openConversation_mul_ended_le
    (allowed : atOffer ≤ 1 + {[.choices]}) :
    openConversation * atOffer * {[.ended]} ≤ conversation := by
  rw [conversation]
  gcongr

private theorem conversations_mul_ended_le
    (allowed : atOffer ≤ 1 + {[.choices]}) :
    conversation∗ * openConversation * atOffer * {[.ended]} ≤ conversation∗ := by
  calc
    conversation∗ * openConversation * atOffer * {[.ended]} =
        conversation∗ * (openConversation * atOffer * {[.ended]}) := by
      simp only [mul_assoc]
    _ ≤ conversation∗ * conversation := by
      gcongr
      exact openConversation_mul_ended_le allowed
    _ ≤ conversation∗ := kstar_mul_le_kstar

private theorem presenting_mul_ended_le :
    toldBy .presenting * {[.ended]} ≤ conversation∗ := by
  have allowed : (1 : Language Event.Kind) ≤ 1 + {[.choices]} := le_self_add
  have ended := conversations_mul_ended_le allowed
  rw [mul_one] at ended
  exact ended

private theorem choosing_mul_ended_le : toldBy .choosing * {[.ended]} ≤ conversation∗ :=
  conversations_mul_ended_le le_add_self

/-- What was told splits into finished conversations and the beginning of another. -/
private theorem exists_front_of_conversation
    (allowed : atOffer ≤ 1 + {[.choices]})
    {word : List Event.Kind}
    (member : word ∈ conversation∗ * openConversation * atOffer) :
    ∃ finished unfinished, word = finished ++ unfinished ∧ finished ∈ conversation∗ ∧
      ∃ rest, rest ≠ [] ∧ unfinished ++ rest ∈ conversation := by
  rw [mul_assoc] at member
  obtain ⟨finished, finishedMember, unfinished, openMember, rfl⟩ :=
    Language.mem_mul.1 member
  have whole : unfinished ++ [.ended] ∈ conversation :=
    openConversation_mul_ended_le allowed (Language.append_mem_mul openMember rfl)
  exact ⟨finished, unfinished, rfl, finishedMember, [.ended], by simp, whole⟩

/-- What was told in any phase are whole conversations and the front of one more. -/
theorem exists_conversations_of_mem_toldBy
    {phase : Phase} {word : List Event.Kind}
    (told : word ∈ toldBy phase) :
    ∃ finished unfinished, word = finished ++ unfinished ∧ finished ∈ conversation∗ ∧
      ∃ rest, rest ≠ [] ∧ unfinished ++ rest ∈ conversation := by
  have shortest : [.line, .ended] ∈ conversation := by
    have line : [.line] ∈ openConversation * 1 := by
      rw [mul_one]
      exact line_le_openConversation rfl
    exact openConversation_mul_ended_le le_self_add (Language.append_mem_mul line rfl)
  have onlyWhole :
      word ∈ conversation∗ →
        ∃ finished unfinished, word = finished ++ unfinished ∧
          finished ∈ conversation∗ ∧
          ∃ rest, rest ≠ [] ∧ unfinished ++ rest ∈ conversation :=
    fun whole => ⟨word, [], by simp, whole, [.line, .ended], by simp, shortest⟩
  cases phase with
  | idle =>
      exact onlyWhole told
  | presenting =>
      rw [toldBy, ← mul_one openConversation, ← mul_assoc] at told
      exact exists_front_of_conversation le_self_add told
  | choosing =>
      exact exists_front_of_conversation le_add_self told
  | terminal =>
      exact onlyWhole told

end Ending

section Last

variable {language : Language Event.Kind} {word : List Event.Kind} {kind : Event.Kind}

private theorem getLast?_of_mem_mul_singleton
    (member : word ∈ language * {[kind]}) :
    word.getLast? = some kind := by
  obtain ⟨earlier, _, last, lastMember, rfl⟩ := Language.mem_mul.1 member
  have lastIs : last = [kind] := lastMember
  rw [lastIs, List.getLast?_concat]

private theorem getLast?_of_mem_kstar
    (each : ∀ part ∈ language, part.getLast? = some kind)
    (member : word ∈ language∗) :
    word = [] ∨ word.getLast? = some kind := by
  rw [← one_add_kstar_mul] at member
  rcases member with empty | more
  · exact Or.inl empty
  · obtain ⟨earlier, _, last, lastMember, rfl⟩ := Language.mem_mul.1 more
    right
    rw [List.getLast?_append, each last lastMember]
    rfl

private theorem getLast?_of_mem_conversations
    (member : word ∈ conversation∗) :
    word = [] ∨ word.getLast? = some .ended :=
  getLast?_of_mem_kstar (fun _ => getLast?_of_mem_mul_singleton) member

private theorem getLast?_of_mem_openConversation
    (member : word ∈ openConversation) :
    word.getLast? = some .line := by
  obtain ⟨first, firstMember, turns, turnsMember, rfl⟩ := Language.mem_mul.1 member
  have firstIs : first = [.line] := firstMember
  have eachTurn :
      ∀ turn ∈ ({[.line]} + {[.choices, .line]} : Language Event.Kind),
        turn.getLast? = some .line := by
    intro turn turnMember
    rcases turnMember with isLine | isAnswer
    · rw [show turn = [.line] from isLine]
      rfl
    · rw [show turn = [.choices, .line] from isAnswer]
      rfl
  rcases getLast?_of_mem_kstar eachTurn turnsMember with none | last
  · rw [none, firstIs]
    rfl
  · rw [List.getLast?_append, last]
    rfl

/-- The last event and the phase tell each other. -/
structure LastTells (phase : Phase) (word : List Event.Kind) : Prop where
  presenting_iff : phase = .presenting ↔ word.getLast? = some .line
  choosing_iff : phase = .choosing ↔ word.getLast? = some .choices
  resting_iff : phase = .idle ∨ phase = .terminal ↔
    word = [] ∨ word.getLast? = some .ended

private theorem lastTells_of_mem_conversations
    {phase : Phase}
    (resting : phase = .idle ∨ phase = .terminal)
    (told : word ∈ conversation∗) :
    LastTells phase word := by
  have notPresenting : phase ≠ .presenting := by
    rcases resting with rfl | rfl <;> simp
  have notChoosing : phase ≠ .choosing := by
    rcases resting with rfl | rfl <;> simp
  rcases getLast?_of_mem_conversations told with rfl | last
  · exact ⟨by simp [notPresenting], by simp [notChoosing], by simp [resting]⟩
  · exact ⟨by simp [notPresenting, last], by simp [notChoosing, last],
      by simp [resting, last]⟩

/-- The last event tells the phase that a session is in. -/
private theorem lastTells_of_mem_toldBy
    {phase : Phase}
    (told : word ∈ toldBy phase) :
    LastTells phase word := by
  cases phase with
  | idle =>
      exact lastTells_of_mem_conversations (Or.inl rfl) told
  | presenting =>
      obtain ⟨finished, _, current, currentMember, rfl⟩ := Language.mem_mul.1 told
      have last : (finished ++ current).getLast? = some .line := by
        rw [List.getLast?_append, getLast?_of_mem_openConversation currentMember]
        rfl
      have nonempty : finished ++ current ≠ [] := by
        intro empty
        rw [empty] at last
        cases last
      exact ⟨by simp [last], by simp [last], by simp only [nonempty, last]; simp⟩
  | choosing =>
      have last : word.getLast? = some .choices := getLast?_of_mem_mul_singleton told
      have nonempty : word ≠ [] := by
        rintro rfl
        cases last
      exact ⟨by simp [last], by simp [last], by simp [nonempty, last]⟩
  | terminal =>
      exact lastTells_of_mem_conversations (Or.inr rfl) told

end Last

/-- What a session has told in the course of calls. -/
def told (graph : Graph) (resolver : Resolver) (session : Session)
    (calls : List (Call × Store)) : List Event.Kind :=
  ((run graph resolver session calls).flatMap (·.events)).map Event.kind

section Calls

variable {graph : Graph} {resolver : Resolver} {session : Session} {flags : Store}

private theorem mem_conversations_of_inactive
    (coherent : Coherent graph session)
    (inactive : session.isActive = false)
    {word : List Event.Kind}
    (toldBefore : word ∈ toldBy session.phase) :
    word ∈ conversation∗ := by
  cases coherent with
  | idle =>
      exact toldBefore
  | terminal =>
      exact toldBefore
  | _ =>
      cases inactive

private theorem phase_of_isActive
    (coherent : Coherent graph session)
    (active : session.isActive = true) :
    session.phase = .presenting ∨ session.phase = .choosing :=
  coherent.current_isSome_iff.1 active

/-- Whatever a call comes to, it goes on with what was told as the phases demand. -/
theorem mem_toldBy_of_outcome
    (coherent : Coherent graph session)
    {call : Call} {step : Step Reply}
    (outcome : Outcome graph resolver session flags call step)
    {word : List Event.Kind}
    (toldBefore : word ∈ toldBy session.phase) :
    word ++ step.events.map Event.kind ∈ toldBy step.session.phase := by
  have goesOn :
      ∀ {phase : Phase} {kinds : List Event.Kind},
        toldBy session.phase * {kinds} ≤ toldBy phase → word ++ kinds ∈ toldBy phase :=
    fun inclusion => inclusion (Language.append_mem_mul toldBefore rfl)
  cases outcome with
  | refused =>
      rw [List.map_nil, List.append_nil]
      exact toldBefore
  | started inactive =>
      have finished := mem_conversations_of_inactive coherent inactive toldBefore
      exact conversations_mul_line_le (Language.append_mem_mul finished rfl)
  | waited =>
      rw [List.map_nil, List.append_nil]
      exact toldBefore
  | ended presenting =>
      rw [presenting.phase] at goesOn
      exact goesOn presenting_mul_ended_le
  | endedAfter presenting =>
      rw [presenting.phase] at goesOn
      exact goesOn presenting_mul_ended_le
  | followed presenting =>
      rw [presenting.phase] at goesOn
      exact goesOn presenting_mul_line_le
  | offered presenting =>
      rw [presenting.phase] at goesOn
      exact goesOn le_rfl
  | taken offered =>
      rw [offered.phase] at goesOn
      exact goesOn choosing_mul_line_le
  | takenLast offered =>
      rw [offered.phase] at goesOn
      exact goesOn choosing_mul_ended_le
  | closed active =>
      rcases phase_of_isActive coherent active with presenting | choosing
      · rw [presenting] at goesOn
        exact goesOn presenting_mul_ended_le
      · rw [choosing] at goesOn
        exact goesOn choosing_mul_ended_le
  | nothingToClose =>
      rw [List.map_nil, List.append_nil]
      exact toldBefore

/-- What is told over any calls is what the last phase allows, since each call
goes on as the phase before it demands. -/
private theorem mem_toldBy_after_calls
    (coherent : Coherent graph session)
    {word : List Event.Kind}
    (toldBefore : word ∈ toldBy session.phase)
    (calls : List (Call × Store)) :
    word ++ told graph resolver session calls ∈
      toldBy (after graph resolver session calls).phase := by
  induction calls generalizing session word with
  | nil =>
      rw [told, run, List.flatMap_nil, List.map_nil, List.append_nil]
      exact toldBefore
  | cons head tail inductionHypothesis =>
      obtain ⟨call, flags⟩ := head
      have outcome : Outcome graph resolver session flags call
          (perform graph resolver session flags call) :=
        outcome_perform call
      have toldNow := mem_toldBy_of_outcome coherent outcome toldBefore
      have toldLater :=
        inductionHypothesis (coherent.perform resolver flags call) toldNow
      rw [told, run, List.flatMap_cons, List.map_append, ← List.append_assoc]
      exact toldLater

/-- The calls that succeed and have nothing to tell. -/
inductive Silent (session : Session) : Call → Prop
  | waiting : session.phase = .choosing → Silent session .advance
  | nothingOpen : session.isActive = false → Silent session .close

private theorem perform_of_silent
    {call : Call}
    (silent : Silent session call) :
    (∃ reply, (perform graph resolver session flags call).answer = .ok reply) ∧
      (perform graph resolver session flags call).events = [] := by
  cases silent with
  | waiting choosing =>
      have waited : advance graph resolver session flags =
          { answer := .ok .choosing, session, flags } := by
        simp only [advance, choosing]
      rw [perform, waited]
      exact ⟨⟨_, rfl⟩, rfl⟩
  | nothingOpen inactive =>
      have nothingClosed :
          close session flags = { answer := .ok false, session, flags } := by
        simp only [close, inactive, Bool.false_eq_true, if_false]
      rw [perform, nothingClosed]
      exact ⟨⟨_, rfl⟩, rfl⟩

/-- How many events a call adds to what is told. -/
structure AddsOneEvent
    (session : Session) (call : Call) (step : Step Reply) : Prop where
  one : ∀ reply, step.answer = .ok reply → ¬ Silent session call →
    ∃ event, step.events = [event]
  silent : Silent session call → (∃ reply, step.answer = .ok reply) ∧ step.events = []
  refused : ∀ error, step.answer = .error error → step.events = []

private theorem exists_event_of_outcome
    {call : Call} {step : Step Reply}
    (outcome : Outcome graph resolver session flags call step)
    (telling : ¬ Silent session call)
    {reply : Reply}
    (answered : step.answer = .ok reply) :
    ∃ event, step.events = [event] := by
  cases outcome with
  | refused =>
      cases answered
  | waited choosing =>
      exact absurd (.waiting choosing) telling
  | nothingToClose inactive =>
      exact absurd (.nothingOpen inactive) telling
  | _ =>
      exact ⟨_, rfl⟩

/-- Each answered call adds one event, silent ones apart. -/
private theorem addsOneEvent_perform (call : Call) :
    AddsOneEvent session call (perform graph resolver session flags call) where
  one := by
    intro reply answered telling
    exact exists_event_of_outcome (outcome_perform call) telling answered
  silent := perform_of_silent
  refused := by
    intro error refused
    rw [(refuses_of_answer_eq_error refused).2]

end Calls

/-! ## The protocol -/

/-- What a new session tells in the course of calls, and what the next call adds
to it. -/
structure FollowsProtocol
    (graph : Graph) (resolver : Resolver) (calls : List (Call × Store)) :
    Prop where
  /-- Whole conversations come one after another, and at most one is unfinished. -/
  conversations :
    ∃ finished unfinished, told graph resolver {} calls = finished ++ unfinished ∧
      finished ∈ conversation∗ ∧ ∃ rest, rest ≠ [] ∧ unfinished ++ rest ∈ conversation
  phase : LastTells (after graph resolver {} calls).phase (told graph resolver {} calls)
  next :
    ∀ call flags,
      AddsOneEvent (after graph resolver {} calls) call
        (perform graph resolver (after graph resolver {} calls) flags call)

/-- Over any graph, whatever is called with whatever flags, a session tells
conversations in order and its phase is the one that the last event says. -/
theorem session_follows_protocol
    (graph : Graph) (resolver : Resolver) (calls : List (Call × Store)) :
    FollowsProtocol graph resolver calls := by
  have nothingTold : [] ∈ toldBy ({} : Session).phase :=
    Language.nil_mem_kstar conversation
  have toldNow :
      told graph resolver {} calls ∈ toldBy (after graph resolver {} calls).phase :=
    mem_toldBy_after_calls .idle nothingTold calls
  exact {
    conversations := exists_conversations_of_mem_toldBy toldNow
    phase := lastTells_of_mem_toldBy toldNow
    next := fun call _ => addsOneEvent_perform call }

end Colloquy.Session
