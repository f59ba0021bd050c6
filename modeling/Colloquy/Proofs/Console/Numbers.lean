import Colloquy.Proofs.Command.Reading
import Colloquy.Proofs.Console.Offers
import Colloquy.Proofs.Console.Replies
import Colloquy.Proofs.Session.Agreement
import Colloquy.Terminal.View

/-!
# Numbers of choices

The number that a choice is shown under is the number that takes it. Offers,
prompts, lines of input and sessions count choices each in their own way; over a
graph built from a script they agree.
-/

namespace Colloquy

namespace Terminal

private theorem renderOffers_eq_mapIdx
    (coloured : Bool) (number : Nat) (offers : List Session.Offer) :
    renderOffers coloured number offers =
      offers.mapIdx fun index offer => renderOffer coloured (number + index) offer := by
  induction offers generalizing number with
  | nil =>
      rfl
  | cons head tail inductionHypothesis =>
      rw [renderOffers, inductionHypothesis, List.mapIdx_cons]
      simp only [Nat.add_zero, Nat.add_assoc, Nat.add_comm 1]

/-- Choices are shown one a line, numbered from one. -/
theorem renderEvent_choices (coloured : Bool) (offers : List Session.Offer) :
    renderEvent coloured (.choices offers) =
      offers.mapIdx fun index offer => renderOffer coloured (index + 1) offer := by
  rw [renderEvent, renderOffers_eq_mapIdx]
  simp only [Nat.add_comm 1]

end Terminal

namespace Console

open Colloquy.Command (Enters)
open Colloquy.Graph (Closed)
open Colloquy.Session (Coherent Offer)
open Colloquy.Storage (Disk)

/-- A reply to taking a choice: it applies the effects of that choice, and moves
to its target or ends the dialogue. -/
structure Picks
    (setting : Setting) (console : Console) (choice : Graph.Choice) (reply : Reply) :
    Prop where
  flags : reply.console.flags = Effect.applyAll choice.effects console.flags
  moves :
    ∀ next, choice.target = some next → ∃ node, setting.graph.node? next = some node ∧
      reply.console.session = { phase := .presenting, current := some next } ∧
        reply.items =
          [.event (Session.lineEvent setting.graph setting.localizer next node)]
  ends :
    choice.target = none →
      reply.console.session = { phase := .terminal } ∧ reply.items = [.event .ended]

section Selecting

variable {setting : Setting} {console : Console}

private theorem picks_of_takes
    {index : Nat} {choice : Graph.Choice}
    (takes : Session.Takes setting.graph setting.localizer console.flags choice
      (console.call setting (.select index))) :
    Picks setting console choice (console.execute setting (.select (index + 1))) := by
  obtain ⟨phase, answered⟩ := takes.answer
  rw [execute_eq_settled rfl Command.noConfusion, perform, select_succ,
    reply_of_ok answered]
  refine ⟨(settle_flags _).trans takes.flags, ?_, ?_⟩
  · intro next target
    obtain ⟨node, found, session, events⟩ := takes.moves next target
    refine ⟨node, found, (settle_session _).trans session, ?_⟩
    rw [events]
    rfl
  · intro noTarget
    obtain ⟨session, events⟩ := takes.ends noTarget
    refine ⟨(settle_session _).trans session, ?_⟩
    rw [events]
    rfl

private theorem refused_select
    (active : console.session.isActive = true)
    {index : Nat}
    (notOpen : ∀ entry, console.session.pending[index]? = some entry →
      entry.unlocked = false) :
    Refused setting console (.select (index + 1)) := by
  obtain ⟨issue, refused⟩ : ∃ issue, console.call setting (.select index) =
      { answer := .error (.invalidSelection index issue)
        session := console.session
        flags := console.flags } :=
    Session.refused_of_not_unlocked notOpen
  refine ⟨describeSelectError (index + 1) (.invalidSelection index issue), ?_⟩
  rw [execute_eq_settled rfl Command.noConfusion, perform, select_succ, refused,
    reply_of_error rfl]
  have unchanged : console.follow
      ({ answer := .error (.invalidSelection index issue)
         session := console.session
         flags := console.flags } : Session.Step Session.Reply) = console := rfl
  rw [unchanged, settle_of_isActive _ active]
  rfl

private theorem refused_zero
    (active : console.session.isActive = true) :
    Refused setting console (.select 0) := by
  refine ⟨"Choices are numbered from 1.", ?_⟩
  rw [execute_eq_settled rfl Command.noConfusion, perform, select,
    settle_of_isActive _ active]

private theorem refused_unknown
    (active : console.session.isActive = true) :
    Refused setting console .unknown := by
  refine ⟨"Didn't quite catch that. Type 'help' for commands.", ?_⟩
  rw [execute_eq_settled rfl Command.noConfusion, perform, settle_of_isActive _ active]

end Selecting

/-! ## Numbers that are entered -/

/-- While an offer stands, what its numbers mean: to the player who is shown
them, in the prompt, and in a line of input. -/
structure NumbersAgree
    (setting : Setting) (console : Console) (shown : List Offer) : Prop where
  pending : shown.map Offer.pending = console.session.pending
  several : 2 ≤ shown.length
  prompt : console.prompt = "[1-" ++ Number.showNat shown.length ++ "]> "
  rendered :
    ∀ coloured, Terminal.renderEvent coloured (.choices shown) =
      shown.mapIdx fun index offer => Terminal.renderOffer coloured (index + 1) offer
  /-- The number of an open choice takes that choice. -/
  taken :
    ∀ line number offer, Enters line number → 1 ≤ number →
      shown[number - 1]? = some offer →
      offer.unlocked = true →
        ∃ choice, setting.graph.choice? offer.choice = some choice ∧
          Picks setting console choice (console.execute setting (Command.read line))
  /-- Zero, a number beyond the last and the number of a locked choice change
  nothing. -/
  refused :
    ∀ line number, Enters line number →
      (number = 0 ∨ shown.length < number ∨
        ∃ offer, shown[number - 1]? = some offer ∧ offer.unlocked = false) →
        Refused setting console (Command.read line)

section Entering

variable {setting : Setting} {console : Console} {shown : List Offer} {line : String}

private theorem getElem?_pending
    (pending : shown.map Offer.pending = console.session.pending)
    (index : Nat) :
    console.session.pending[index]? = shown[index]?.map Offer.pending := by
  rw [← pending, List.getElem?_map]

private theorem picks_of_enters
    (closed : Closed setting.graph)
    (coherent : Coherent setting.graph console.session)
    (choosing : console.session.phase = .choosing)
    (pending : shown.map Offer.pending = console.session.pending)
    (countable : shown.length < Command.numberBound)
    {number : Nat} {offer : Offer}
    (enters : Enters line number)
    (positive : 1 ≤ number)
    (found : shown[number - 1]? = some offer)
    (unlocked : offer.unlocked = true) :
    ∃ choice, setting.graph.choice? offer.choice = some choice ∧
      Picks setting console choice (console.execute setting (Command.read line)) := by
  obtain ⟨index, rfl⟩ := Nat.exists_eq_add_of_le' positive
  rw [Nat.add_sub_cancel] at found
  have inRange : index < shown.length := (List.getElem?_eq_some_iff.1 found).1
  have below : index + 1 < Command.numberBound := by omega
  have offered : Session.Offers console.session index offer.pending := by
    refine ⟨choosing, ?_⟩
    rw [getElem?_pending pending, found]
    rfl
  obtain ⟨choice, choiceFound, takes⟩ := Session.takes_of_unlocked closed coherent
    setting.localizer console.flags offered unlocked
  refine ⟨choice, choiceFound, ?_⟩
  rw [Command.read_of_enters enters, if_pos below]
  exact picks_of_takes takes

/-- A number that is too great to be entered is no command, and that is refused
as well. -/
private theorem refused_of_enters
    (active : console.session.isActive = true)
    (pending : shown.map Offer.pending = console.session.pending)
    {number : Nat}
    (enters : Enters line number)
    (notOpen : number = 0 ∨ shown.length < number ∨
      ∃ offer, shown[number - 1]? = some offer ∧ offer.unlocked = false) :
    Refused setting console (Command.read line) := by
  rw [Command.read_of_enters enters]
  by_cases below : number < Command.numberBound
  · rw [if_pos below]
    cases number with
    | zero =>
        exact refused_zero active
    | succ index =>
        refine refused_select active fun entry found => ?_
        rw [getElem?_pending pending] at found
        obtain ⟨offer, offerFound, rfl⟩ := Option.map_eq_some_iff.1 found
        rcases notOpen with isZero | beyond | ⟨other, otherFound, locked⟩
        · cases isZero
        · have inRange : index < shown.length :=
            (List.getElem?_eq_some_iff.1 offerFound).1
          omega
        · rw [Nat.add_sub_cancel, offerFound] at otherFound
          cases otherFound
          exact locked
  · rw [if_neg below]
    exact refused_unknown active

end Entering

/-- Over a graph built from a script, in every run of a new console, the offer
that stands is the one shown last, and the number under which a choice is shown
takes that choice and no other. Lists of choices are shorter than the bound on
numbers, as lists in memory are. -/
theorem number_shown_takes_choice
    (script : Script) (setting : Setting)
    (built : Graph.ofScript script = .ok setting.graph)
    (countable : ∀ node ∈ setting.graph.nodes,
      node.choices.length < Command.numberBound)
    (disk : Disk) (commands : List Command)
    (choosing : (after setting { disk } commands).session.phase = .choosing) :
    ∃ shown, lastOffer? (told setting { disk } commands) = some shown ∧
      NumbersAgree setting (after setting { disk } commands) shown := by
  have closed : Closed setting.graph := Graph.closed_of_ofScript_eq_ok built
  have coherent : Coherent setting.graph (after setting { disk } commands).session :=
    coherent_after .idle commands
  have atStart : ShowsOffer [] ({ disk } : Console).session := by
    intro choosing
    cases choosing
  obtain ⟨shown, isLast, pending⟩ := showsOffer_told atStart commands choosing
  obtain ⟨id, node, current, found, stands⟩ := coherent.offer_stands choosing
  have sameLength :
      (after setting { disk } commands).session.pending.length = shown.length := by
    rw [← pending, List.length_map]
  have several : 2 ≤ shown.length := sameLength ▸ stands.several
  have fewer : shown.length < Command.numberBound := by
    have atMost := stands.ordered.length_le
    have bounded := countable node (List.mem_of_getElem? found)
    rw [List.length_map, sameLength] at atMost
    omega
  have active : (after setting { disk } commands).session.isActive = true := by
    simp [Session.isActive, current]
  refine ⟨shown, isLast, pending, several, ?_, fun coloured => ?_, ?_, ?_⟩
  · simp only [prompt, choosing, sameLength]
  · exact Terminal.renderEvent_choices coloured shown
  · intro line number offer enters positive offerFound unlocked
    exact picks_of_enters closed coherent choosing pending fewer enters positive
      offerFound unlocked
  · intro line number enters notOpen
    exact refused_of_enters active pending enters notOpen

/-- The first way is tried without the key, and the offer goes on standing. -/
def keylessCommands : List Command :=
  [.talk " door", .advance, .select 1, .help]

/-- In front of the door the numbers of both ways are the ones shown. -/
theorem door_numbers_agree :
    Graph.ofScript Session.doorScript = .ok doorSetting.graph ∧
      (∀ node ∈ doorSetting.graph.nodes, node.choices.length < Command.numberBound) ∧
        (after doorSetting {} keylessCommands).session.phase = .choosing ∧
          ∃ shown, lastOffer? (told doorSetting {} keylessCommands) = some shown ∧
            NumbersAgree doorSetting (after doorSetting {} keylessCommands) shown := by
  have built : Graph.ofScript Session.doorScript = .ok doorSetting.graph := rfl
  have countable :
      ∀ node ∈ doorSetting.graph.nodes, node.choices.length < Command.numberBound := by
    decide
  have choosing : (after doorSetting {} keylessCommands).session.phase = .choosing := by
    decide +kernel
  refine ⟨built, countable, choosing, ?_⟩
  exact number_shown_takes_choice Session.doorScript doorSetting built countable {}
    keylessCommands choosing

end Console

end Colloquy
