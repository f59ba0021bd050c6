import Colloquy.Proofs.Session.Calls

/-!
# Sessions in lockstep

A session asks the flags for nothing but the conditions of choices, and the
resolver for nothing but texts to show. Two sessions with flags that answer
these conditions alike therefore do the same at each call, and tell the same but
for the texts. Both what may differ between the flags and what may differ
between the texts are parameters here.
-/

namespace Colloquy.Session

open Colloquy.Flag (Store)
open Colloquy.Graph (NodeId ChoiceId)

def Offer.mapPrompt (change : String → String) (offer : Offer) : Offer :=
  { offer with prompt := change offer.prompt }

/-- An event with other localized texts: the name of the speaker, the line, and
the prompts. -/
def Event.mapTexts (change : String → String) : Event → Event
  | .line node speaker portrait text =>
      .line node (change speaker) portrait (change text)
  | .choices offers => .choices (offers.map (Offer.mapPrompt change))
  | .ended => .ended

theorem map_mapTexts_id (events : List Event) :
    events.map (Event.mapTexts id) = events := by
  have unchanged : ∀ event : Event, event.mapTexts id = event := by
    intro event
    cases event with
    | line node speaker portrait text =>
        rfl
    | choices offers =>
        exact congrArg Event.choices (List.map_id offers)
    | ended =>
        rfl
  have same : Event.mapTexts id = id := funext unchanged
  rw [same, List.map_id]

/-- What is remembered of offers does not rest on their prompts. -/
theorem map_pending_mapPrompt (change : String → String) (offers : List Offer) :
    (offers.map (Offer.mapPrompt change)).map Offer.pending =
      offers.map Offer.pending := by
  rw [List.map_map]
  rfl

/-- Two steps that may only differ in flags, as far as they are related, and in
texts, as far as a change to them makes them equal. -/
structure Step.Matches
    {α : Type} (change : String → String) (related : Store → Store → Prop)
    (left right : Step α) : Prop where
  answer : left.answer = right.answer
  session : left.session = right.session
  flags : related left.flags right.flags
  events : left.events.map (Event.mapTexts change) =
    right.events.map (Event.mapTexts change)

/-- Steps that match still do if their answers are converted alike. -/
theorem Step.Matches.map
    {α β : Type} {change : String → String} {related : Store → Store → Prop}
    {left right : Step α}
    (same : left.Matches change related right)
    (convert : α → β) :
    (left.map convert).Matches change related (right.map convert) where
  answer := by
    simp only [Step.map, same.answer]
  session := same.session
  flags := same.flags
  events := same.events

/-- What sessions over a graph can learn is the same for both resolvers, as far
as a change to the texts makes them equal, and for all flags that are
related. -/
structure Indistinct
    (graph : Graph) (first second : Resolver) (change : String → String)
    (related : Store → Store → Prop) : Prop where
  texts :
    ∀ table entry, change (first.localize table entry) =
      change (second.localize table entry)
  visible :
    ∀ choice ∈ graph.choices, ∀ left right, related left right →
      Condition.evaluate? left.hasFlag choice.visible =
        Condition.evaluate? right.hasFlag choice.visible
  unlocked :
    ∀ choice ∈ graph.choices, ∀ left right, related left right →
      Condition.evaluate? left.hasFlag choice.unlocked =
        Condition.evaluate? right.hasFlag choice.unlocked
  effects :
    ∀ choice ∈ graph.choices, ∀ left right, related left right →
      related (Effect.applyAll choice.effects left)
        (Effect.applyAll choice.effects right)

section Parts

variable {graph : Graph} {first second : Resolver} {change : String → String}
  {related : Store → Store → Prop} {left right : Store}

private theorem mem_choices_of_choiceAt
    {id : ChoiceId} {choice : Graph.Choice}
    (found : choiceAt graph id = .ok choice) :
    choice ∈ graph.choices := by
  unfold choiceAt at found
  cases looked : graph.choice? id with
  | none =>
      rw [looked] at found
      cases found
  | some other =>
      rw [looked] at found
      cases found
      exact List.mem_of_getElem? looked

private theorem mapTexts_lineEvent
    (indistinct : Indistinct graph first second change related)
    (id : NodeId) (node : Graph.Node) :
    (lineEvent graph first id node).mapTexts change =
      (lineEvent graph second id node).mapTexts change := by
  unfold lineEvent
  cases node.speaker.bind graph.speaker? with
  | none =>
      simp only [Event.mapTexts, indistinct.texts]
  | some speaker =>
      simp only [Event.mapTexts, indistinct.texts]

private theorem evaluateGate_eq
    {gate : Option Condition}
    (same :
      Condition.evaluate? left.hasFlag gate = Condition.evaluate? right.hasFlag gate)
    (id : ChoiceId) :
    evaluateGate left id gate = evaluateGate right id gate := by
  rw [evaluateGate, evaluateGate, same]

private theorem visibleChoices_eq
    (indistinct : Indistinct graph first second change related)
    (same : related left right)
    (ids : List ChoiceId) :
    visibleChoices graph left ids = visibleChoices graph right ids := by
  induction ids with
  | nil =>
      rfl
  | cons id rest inductionHypothesis =>
      rw [visibleChoices, visibleChoices, inductionHypothesis]
      cases found : choiceAt graph id with
      | error error =>
          simp only [bind, Except.bind]
      | ok choice =>
          have member := mem_choices_of_choiceAt found
          have gate :=
            evaluateGate_eq (indistinct.visible choice member left right same) id
          simp only [bind, Except.bind, gate]

/-- Offers are made alike, and fail alike. -/
theorem offers_cases
    (indistinct : Indistinct graph first second change related)
    (same : related left right)
    (ids : List ChoiceId) :
    (∃ error, offers graph first left ids = .error error ∧
        offers graph second right ids = .error error) ∨
      ∃ shown other, offers graph first left ids = .ok shown ∧
        offers graph second right ids = .ok other ∧
          shown.map (Offer.mapPrompt change) = other.map (Offer.mapPrompt change) := by
  induction ids with
  | nil =>
      exact Or.inr ⟨[], [], rfl, rfl, rfl⟩
  | cons id rest inductionHypothesis =>
      rw [offers, offers]
      cases found : choiceAt graph id with
      | error error =>
          exact Or.inl ⟨error, rfl, rfl⟩
      | ok choice =>
          have member := mem_choices_of_choiceAt found
          have gate :=
            evaluateGate_eq (indistinct.unlocked choice member left right same) id
          simp only [bind, Except.bind, gate]
          cases evaluateGate right id choice.unlocked with
          | error error =>
              exact Or.inl ⟨error, rfl, rfl⟩
          | ok unlocked =>
              rcases inductionHypothesis with
                ⟨error, firstFails, secondFails⟩ |
                  ⟨shown, other, firstShows, secondShows, equal⟩
              · refine Or.inl ⟨error, ?_, ?_⟩
                · simp only [firstFails]
                · simp only [secondFails]
              · simp only [firstShows, secondShows]
                refine Or.inr ⟨_, _, rfl, rfl, ?_⟩
                simp only [List.map_cons, equal, Offer.mapPrompt, indistinct.texts]

end Parts

/-! ## Calls -/

section Calls

variable {graph : Graph} {first second : Resolver} {change : String → String}
  {related : Store → Store → Prop} {left right : Store}

private theorem matches_present
    (indistinct : Indistinct graph first second change related)
    (same : related left right)
    (session : Session) (id : NodeId) :
    (present graph first session left id).Matches change related
      (present graph second session right id) := by
  unfold present
  cases graph.node? id with
  | none =>
      exact ⟨rfl, rfl, same, rfl⟩
  | some node =>
      have line := mapTexts_lineEvent indistinct id node
      exact ⟨rfl, rfl, same, congrArg (fun event => [event]) line⟩

private theorem matches_finish (same : related left right) :
    (finish left).Matches change related (finish right) :=
  ⟨rfl, rfl, same, rfl⟩

private theorem matches_proceed
    (indistinct : Indistinct graph first second change related)
    (same : related left right)
    (session : Session) (target : Option NodeId) :
    (proceed graph first session left target).Matches change related
      (proceed graph second session right target) := by
  cases target with
  | none =>
      exact matches_finish same
  | some id =>
      exact matches_present indistinct same session id

private theorem matches_start
    (indistinct : Indistinct graph first second change related)
    (same : related left right)
    (session : Session) (trigger : String) :
    (start graph first session left trigger).Matches change related
      (start graph second session right trigger) := by
  unfold start
  by_cases active : session.isActive = true
  · rw [if_pos active, if_pos active]
    exact ⟨rfl, rfl, same, rfl⟩
  · rw [if_neg active, if_neg active]
    cases graph.start? trigger with
    | none =>
        exact ⟨rfl, rfl, same, rfl⟩
    | some id =>
        have line := matches_present indistinct same session id
        exact ⟨congrArg (Except.map fun _ => id) line.answer, line.session, line.flags,
          line.events⟩

private theorem matches_offer
    (indistinct : Indistinct graph first second change related)
    (same : related left right)
    (session : Session) (visible : List ChoiceId) :
    (offer graph first session left visible).Matches change related
      (offer graph second session right visible) := by
  unfold offer
  rcases offers_cases indistinct same visible with
    ⟨error, firstFails, secondFails⟩ | ⟨shown, other, firstShows, secondShows, equal⟩
  · rw [firstFails, secondFails]
    exact ⟨rfl, rfl, same, rfl⟩
  · rw [firstShows, secondShows]
    have remembered : shown.map Offer.pending = other.map Offer.pending := by
      rw [← map_pending_mapPrompt change shown, equal, map_pending_mapPrompt]
    refine ⟨rfl, ?_, same, ?_⟩
    · simp only [remembered]
    · simp only [List.map_cons, List.map_nil, Event.mapTexts, equal]

private theorem matches_leave
    (indistinct : Indistinct graph first second change related)
    (same : related left right)
    (session : Session) (node : Graph.Node) :
    (leave graph first session left node).Matches change related
      (leave graph second session right node) := by
  unfold leave
  rw [visibleChoices_eq indistinct same]
  match visibleChoices graph right node.choices with
  | .error error =>
      exact ⟨rfl, rfl, same, rfl⟩
  | .ok [] =>
      exact matches_finish same
  | .ok [only] =>
      exact matches_proceed indistinct same session _
  | .ok (one :: another :: rest) =>
      exact matches_offer indistinct same session _

private theorem matches_advance
    (indistinct : Indistinct graph first second change related)
    (same : related left right)
    (session : Session) :
    (advance graph first session left).Matches change related
      (advance graph second session right) := by
  obtain ⟨phase, current, pending⟩ := session
  cases phase with
  | presenting =>
      cases current with
      | none =>
          exact ⟨rfl, rfl, same, rfl⟩
      | some id =>
          unfold advance
          simp only
          cases graph.node? id with
          | none =>
              exact ⟨rfl, rfl, same, rfl⟩
          | some node =>
              simp only
              by_cases terminal : node.isTerminal = true
              · rw [if_pos terminal, if_pos terminal]
                exact matches_finish same
              · rw [if_neg terminal, if_neg terminal]
                exact matches_leave indistinct same _ node
  | _ =>
      exact ⟨rfl, rfl, same, rfl⟩

private theorem matches_take
    (indistinct : Indistinct graph first second change related)
    (same : related left right)
    (session : Session) (id : ChoiceId) :
    (take graph first session left id).Matches change related
      (take graph second session right id) := by
  unfold take
  cases found : graph.choice? id with
  | none =>
      exact ⟨rfl, rfl, same, rfl⟩
  | some choice =>
      simp only
      cases choice.target.filter fun target => (graph.node? target).isNone with
      | some missing =>
          exact ⟨rfl, rfl, same, rfl⟩
      | none =>
          have changed :=
            indistinct.effects choice (List.mem_of_getElem? found) left right same
          exact matches_proceed indistinct changed _ choice.target

private theorem matches_select
    (indistinct : Indistinct graph first second change related)
    (same : related left right)
    (session : Session) (index : Nat) :
    (select graph first session left index).Matches change related
      (select graph second session right index) := by
  unfold select
  by_cases choosing : session.phase = .choosing
  · rw [if_neg (not_not_intro choosing), if_neg (not_not_intro choosing)]
    cases session.pending[index]? with
    | none =>
        exact ⟨rfl, rfl, same, rfl⟩
    | some picked =>
        simp only
        by_cases unlocked : picked.unlocked = true
        · rw [if_pos unlocked, if_pos unlocked]
          exact matches_take indistinct same session picked.choice
        · rw [if_neg unlocked, if_neg unlocked]
          exact ⟨rfl, rfl, same, rfl⟩
  · rw [if_pos choosing, if_pos choosing]
    exact ⟨rfl, rfl, same, rfl⟩

private theorem matches_close
    (same : related left right)
    (session : Session) :
    (close session left).Matches change related (close session right) := by
  unfold close
  by_cases active : session.isActive = true
  · rw [if_pos active, if_pos active]
    exact ⟨rfl, rfl, same, rfl⟩
  · rw [if_neg active, if_neg active]
    exact ⟨rfl, rfl, same, rfl⟩

/-- Whatever is called, the two steps match, and so can be followed by further
calls in lockstep. -/
theorem matches_perform
    (indistinct : Indistinct graph first second change related)
    (same : related left right)
    (session : Session) (call : Call) :
    (perform graph first session left call).Matches change related
      (perform graph second session right call) := by
  cases call with
  | start trigger =>
      exact (matches_start indistinct same session trigger).map _
  | advance =>
      exact (matches_advance indistinct same session).map _
  | select index =>
      exact (matches_select indistinct same session index).map _
  | close =>
      exact (matches_close same session).map _

end Calls

end Colloquy.Session
