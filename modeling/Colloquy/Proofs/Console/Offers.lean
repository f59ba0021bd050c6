import Colloquy.Proofs.Console.Flags
import Colloquy.Proofs.Session.Failures
import Colloquy.Proofs.Session.Offering
import Colloquy.Proofs.Session.Selections

/-!
# Offers of a console

A session remembers what its conditions came to when it made an offer, and
selections go by that. In a console nothing writes flags while an offer stands,
so what is remembered is what the conditions come to now: hidden and locked
choices are never taken, and open ones are never refused.
-/

namespace Colloquy.Console

open Colloquy.Graph (ChoiceId Closed)
open Colloquy.Session (Coherent Standing isShown isOpen offerAt)
open Colloquy.Storage (Disk)

section Runs

variable {setting : Setting} {console : Console}

/-- Commands that write flags are only carried out while no offer stands. -/
theorem standing_of_course
    (closed : Closed setting.graph)
    (standing : Standing setting.graph console.session console.flags)
    {command : Command} {next : Console}
    (course : Course setting console command next) :
    Standing setting.graph next.session next.flags := by
  have called : ∀ call, Standing setting.graph (console.call setting call).session
      (console.call setting call).flags :=
    fun call => standing.of_outcome closed (Session.outcome_perform call)
  cases course with
  | talked =>
      exact called _
  | talkRefused =>
      exact called _
  | advanced =>
      exact called _
  | selected =>
      exact called _
  | closed =>
      exact called _
  | assigned _ inactive =>
      exact fun choosing => absurd choosing (standing.not_choosing inactive)
  | erased _ _ inactive =>
      exact fun choosing => absurd choosing (standing.not_choosing inactive)
  | restored inactive =>
      exact fun choosing => absurd choosing (standing.not_choosing inactive)
  | _ =>
      exact standing

private theorem standing_after
    (closed : Closed setting.graph)
    (standing : Standing setting.graph console.session console.flags)
    (commands : List Command) :
    Standing setting.graph (after setting console commands).session
      (after setting console commands).flags := by
  induction commands generalizing console with
  | nil =>
      exact standing
  | cons head tail inductionHypothesis =>
      refine inductionHypothesis ?_
      obtain ⟨next, course, sameSession, sameFlags⟩ :
          ∃ next, Course setting console head next ∧
            (console.execute setting head).console.session = next.session ∧
              (console.execute setting head).console.flags = next.flags :=
        exists_course_agreeing head
      rw [sameSession, sameFlags]
      exact standing_of_course closed standing course

end Runs

section Picking

variable {setting : Setting} {console : Console}

private theorem picked?_select_of_unlocked
    (closed : Closed setting.graph)
    (coherent : Coherent setting.graph console.session)
    (choosing : console.session.phase = .choosing)
    {index : Nat} {entry : Session.Pending}
    (found : console.session.pending[index]? = some entry)
    (unlocked : entry.unlocked = true) :
    picked? setting console (.select (index + 1)) = some entry.choice := by
  obtain ⟨choice, _, takes⟩ :=
    Session.takes_of_unlocked closed coherent setting.localizer
    console.flags ⟨choosing, found⟩ unlocked
  obtain ⟨phase, answered⟩ := takes.answer
  exact Session.takenBy_select ⟨choosing, found⟩ answered

/-- What is picked was on offer as open. -/
theorem exists_entry_of_picked?
    {command : Command} {id : ChoiceId}
    (picked : picked? setting console command = some id) :
    ∃ index entry, command = .select (index + 1) ∧
      console.session.pending[index]? = some entry ∧
      entry.unlocked = true ∧ entry.choice = id := by
  unfold picked? at picked
  split at picked
  · rename_i index
    cases answered : (console.call setting (.select index)).answer with
    | error error =>
        have noneTaken : Session.taken? setting.graph setting.localizer console.session
            console.flags (.select index) = none :=
          Session.takenBy_of_answer_eq_error answered
        rw [noneTaken] at picked
        cases picked
    | ok reply =>
        obtain ⟨entry, _, found, unlocked, _, taken⟩ := Session.taken?_select answered
        rw [taken] at picked
        exact ⟨index, entry, rfl, found, unlocked, Option.some.inj picked⟩
  · cases picked

end Picking

/-! ## The law of offers -/

/-- The offer that stands at a node is the one of the flags as they are now. -/
structure OfferIsCurrent
    (setting : Setting) (console : Console) (node : Graph.Node) : Prop where
  current : ∃ id, console.session.current = some id ∧ setting.graph.node? id = some node
  /-- Evaluating the choices of the node again comes to the offer. -/
  evaluated :
    ∃ visible shown,
      Session.visibleChoices setting.graph console.flags node.choices = .ok visible ∧
        Session.offers setting.graph setting.localizer console.flags visible =
          .ok shown ∧
          shown.map Session.Offer.pending = console.session.pending
  pending_eq : console.session.pending = offerAt setting.graph console.flags node
  /-- Nothing hidden and nothing locked is taken. -/
  picked :
    ∀ command id, picked? setting console command = some id →
      id ∈ node.choices ∧ isShown setting.graph console.flags id = true ∧
        isOpen setting.graph console.flags id = true
  /-- What is open is not refused under any number that it is on offer under. -/
  notRefused :
    ∀ (index : Nat) (entry : Session.Pending),
      console.session.pending[index]? = some entry →
      isOpen setting.graph console.flags entry.choice = true →
        picked? setting console (.select (index + 1)) = some entry.choice
  /-- Whatever may be shown and taken is on offer under some number. -/
  available :
    ∀ id ∈ node.choices, isShown setting.graph console.flags id = true →
      isOpen setting.graph console.flags id = true →
        ∃ number, picked? setting console (.select number) = some id

private theorem offerIsCurrent_of_standing
    {setting : Setting} {console : Console}
    (closed : Closed setting.graph)
    (coherent : Coherent setting.graph console.session)
    (standing : Standing setting.graph console.session console.flags)
    (choosing : console.session.phase = .choosing) :
    ∃ node, OfferIsCurrent setting console node := by
  obtain ⟨id, node, current, found, pending⟩ := standing choosing
  have entryIsCurrent : ∀ {index : Nat} {entry : Session.Pending},
      console.session.pending[index]? = some entry →
      entry.choice ∈ node.choices ∧
        isShown setting.graph console.flags entry.choice = true ∧
        entry.unlocked = isOpen setting.graph console.flags entry.choice := by
    intro index entry onOffer
    rw [pending] at onOffer
    exact Session.mem_offerAt_iff.1 (List.mem_of_getElem? onOffer)
  have notRefused : ∀ (index : Nat) (entry : Session.Pending),
      console.session.pending[index]? = some entry →
      isOpen setting.graph console.flags entry.choice = true →
        picked? setting console (.select (index + 1)) = some entry.choice := by
    intro index entry onOffer mayBeTaken
    refine picked?_select_of_unlocked closed coherent choosing onOffer ?_
    rw [(entryIsCurrent onOffer).2.2, mayBeTaken]
  refine ⟨node, ⟨id, current, found⟩, ?_, pending, ?_, notRefused, ?_⟩
  · rw [pending]
    exact Session.exists_evaluation_eq_offerAt closed setting.localizer console.flags
      found
  · intro command id picked
    obtain ⟨index, entry, _, onOffer, unlocked, rfl⟩ := exists_entry_of_picked? picked
    obtain ⟨member, shown, isMarked⟩ := entryIsCurrent onOffer
    exact ⟨member, shown, isMarked ▸ unlocked⟩
  · intro id member shown mayBeTaken
    have onOffer : (⟨id, true⟩ : Session.Pending) ∈ console.session.pending := by
      rw [pending]
      exact Session.mem_offerAt_iff.2 ⟨member, shown, mayBeTaken.symm⟩
    obtain ⟨index, found⟩ := List.mem_iff_getElem?.1 onOffer
    exact ⟨index + 1, notRefused index _ found mayBeTaken⟩

/-- Over a graph built from a script, in every run of a new console, an offer
that stands is the one that the flags make now, and what can be taken of it is
what they leave open. -/
theorem standing_offer_is_current
    (script : Script) (setting : Setting)
    (built : Graph.ofScript script = .ok setting.graph)
    (disk : Disk) (commands : List Command)
    (choosing : (after setting { disk } commands).session.phase = .choosing) :
    ∃ node, OfferIsCurrent setting (after setting { disk } commands) node := by
  have closed : Closed setting.graph := Graph.closed_of_ofScript_eq_ok built
  have coherent : Coherent setting.graph (after setting { disk } commands).session :=
    coherent_after .idle commands
  have standingAtStart :
      Standing setting.graph ({ disk } : Console).session .empty := by
    intro choosing
    cases choosing
  exact offerIsCurrent_of_standing closed coherent
    (standing_after closed standingAtStart commands) choosing

/-- A developer at the door of two ways. -/
def doorSetting : Setting where
  graph := Graph.image Session.doorScript
  saveDirectory := "saves"
  developer := true

/-- The key is found before the door, and cannot be thrown away in front of it. -/
def doorCommands : List Command :=
  [.set (.bool "key"), .talk "door", .advance, .unset "key", .select 3]

/-- In front of the door the key still opens it. -/
theorem door_offer_is_current :
    Graph.ofScript Session.doorScript = .ok doorSetting.graph ∧
      (after doorSetting {} doorCommands).session.phase = .choosing ∧
        ∃ node, OfferIsCurrent doorSetting
          (after doorSetting {} doorCommands) node := by
  have built : Graph.ofScript Session.doorScript = .ok doorSetting.graph := rfl
  have choosing : (after doorSetting {} doorCommands).session.phase = .choosing := by
    decide +kernel
  refine ⟨built, choosing, ?_⟩
  exact standing_offer_is_current Session.doorScript doorSetting built {} doorCommands
    choosing

end Colloquy.Console
