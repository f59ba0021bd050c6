import Colloquy.Proofs.Console.Flags
import Colloquy.Proofs.Session.Offering

/-!
# What a console shows

The items that commands are answered with, and what they tell of dialogues. A
console presents what the calls on its session emit, in order, and nothing else
is told of dialogues.
-/

namespace Colloquy.Console

open Colloquy.Session (Call Event Offer)

/-- What the player is shown in the course of commands, in order. -/
def told (setting : Setting) (console : Console) : List Command → List Item
  | [] => []
  | command :: rest =>
    (console.execute setting command).items ++
      told setting (console.execute setting command).console rest

def Item.event? : Item → Option Event
  | .event presented => some presented
  | _ => none

def offers? : Event → Option (List Offer)
  | .choices offers => some offers
  | _ => none

def lastOffer? (items : List Item) : Option (List Offer) :=
  ((items.filterMap Item.event?).filterMap offers?).getLast?

private theorem told_concat
    {setting : Setting} {console : Console}
    (commands : List Command) (command : Command) :
    told setting console (commands ++ [command]) =
      told setting console commands ++
        ((after setting console commands).execute setting command).items := by
  induction commands generalizing console with
  | nil =>
      simp [told, after]
  | cons head tail inductionHypothesis =>
      simp only [List.cons_append, told, inductionHypothesis, List.append_assoc]
      rfl

private theorem lastOffer?_append_of_no_events
    {earlier items : List Item}
    (noEvents : items.filterMap Item.event? = []) :
    lastOffer? (earlier ++ items) = lastOffer? earlier := by
  rw [lastOffer?, List.filterMap_append, noEvents, List.append_nil]
  rfl

private theorem lastOffer?_append_of_choices
    {earlier items : List Item} {shown : List Offer}
    (choices : items.filterMap Item.event? = [.choices shown]) :
    lastOffer? (earlier ++ items) = some shown := by
  rw [lastOffer?, List.filterMap_append, choices, List.filterMap_append]
  exact List.getLast?_concat

section Replies

variable {α : Type} {console : Console} {step : Session.Step α}
  {describe : Session.Error → String}

private theorem filterMap_event?_map_event (events : List Event) :
    (events.map Item.event).filterMap Item.event? = events := by
  rw [List.filterMap_map]
  exact List.filterMap_some

/-- An answered call is followed, and its events are shown. -/
theorem reply_of_ok
    {value : α}
    (answered : step.answer = .ok value) :
    console.reply step describe =
      { console := console.follow step, items := step.events.map Item.event } := by
  rw [reply, answered, List.append_nil]

/-- A refused call is followed too, and the refusal is told after its events. -/
theorem reply_of_error
    {error : Session.Error}
    (refused : step.answer = .error error) :
    console.reply step describe =
      { console := console.follow step
        items := step.events.map Item.event ++ [.problem (describe error)] } := by
  rw [reply, refused]

private theorem events_reply (console : Console) (step : Session.Step α)
    (describe : Session.Error → String) :
    (console.reply step describe).items.filterMap Item.event? = step.events := by
  cases answered : step.answer with
  | error error =>
      rw [reply_of_error answered, List.filterMap_append, filterMap_event?_map_event]
      exact List.append_nil _
  | ok value =>
      rw [reply_of_ok answered, filterMap_event?_map_event]

/-- A reply does not rest on the form of what a call answers. -/
theorem reply_map {β : Type} (convert : α → β) :
    console.reply (step.map convert) describe = console.reply step describe := by
  cases answered : step.answer with
  | error error =>
      have refused : (step.map convert).answer = .error error := by
        rw [Session.Step.map, answered, Except.map]
      rw [reply_of_error answered, reply_of_error refused]
      rfl
  | ok value =>
      have converted : (step.map convert).answer = .ok (convert value) := by
        rw [Session.Step.map, answered, Except.map]
      rw [reply_of_ok answered, reply_of_ok converted]
      rfl

end Replies

section Calls

variable {setting : Setting} {console : Console}

theorem select_succ (setting : Setting) (console : Console) (index : Nat) :
    console.select setting (index + 1) =
      console.reply (console.call setting (.select index))
        (describeSelectError (index + 1)) :=
  (reply_map _).symm

/-- A talk is the reply to a start, and the trigger is remembered if it succeeds. -/
theorem talk_of_ok
    {trigger : String} {reply : Session.Reply}
    (started : (console.call setting (.start trigger)).answer = .ok reply) :
    console.talk setting trigger =
      { console :=
          { console.follow (console.call setting (.start trigger)) with
            activeTrigger := some (Text.trim trigger) }
        items := (console.call setting (.start trigger)).events.map Item.event } := by
  cases answered :
      (console.session.start setting.graph setting.localizer console.flags
        trigger).answer with
  | error error =>
      simp [call, Session.perform, Session.Step.map, answered, Except.map] at started
  | ok node =>
      simp only [talk, answered, reply_of_ok answered]
      rfl

end Calls

/-- What a reply tells of a dialogue: what a call on the session emitted, or
nothing, in which case the session is as it was. -/
inductive Relays (setting : Setting) (console : Console) (reply : Reply) : Prop
  | call (call : Call) :
      reply.console.session = (console.call setting call).session →
        reply.items.filterMap Item.event? = (console.call setting call).events →
          Relays setting console reply
  | nothing :
      reply.console.session = console.session → reply.items.filterMap Item.event? = [] →
        Relays setting console reply

section Relaying

variable {setting : Setting} {console : Console}

private theorem relays_talk (trigger : String) :
    Relays setting console (console.talk setting trigger) := by
  unfold talk
  dsimp only
  split
  · exact .call (.start trigger) rfl (events_reply console _ _)
  · exact .call (.start trigger) rfl (events_reply console _ _)

private theorem relays_advance : Relays setting console (console.advance setting) := by
  unfold advance
  split
  · exact .nothing rfl rfl
  · split
    · exact .nothing rfl rfl
    · exact .call .advance rfl (events_reply console _ _)

private theorem relays_select (number : Nat) :
    Relays setting console (console.select setting number) := by
  cases number with
  | zero =>
      exact .nothing rfl rfl
  | succ index =>
      exact .call (.select index) rfl (events_reply console _ _)

private theorem relays_close : Relays setting console console.close := by
  unfold close
  split
  · exact .call .close rfl (events_reply console _ _)
  · exact .nothing rfl rfl

private theorem relays_unlessActive
    {action : String} {change : Reply}
    (relays : Relays setting console change) :
    Relays setting console (console.unlessActive action change) := by
  unfold unlessActive
  split
  · exact .nothing rfl rfl
  · exact relays

private theorem relays_set (assignment : Flag.Assignment) :
    Relays setting console (console.set assignment) := by
  unfold set
  split
  · exact .nothing rfl rfl
  · exact .nothing rfl rfl

private theorem relays_save (slot : String) :
    Relays setting console (console.save setting slot) := by
  refine .nothing rfl ?_
  unfold save
  dsimp only
  split
  · rfl
  · rfl

private theorem events_versionNotice (status : Save.Status) :
    (versionNotice status).filterMap Item.event? = [] := by
  cases status with
  | _ =>
      rfl

private theorem relays_load (slot : String) :
    Relays setting console (console.load setting slot) := by
  unfold load
  split
  · exact .nothing rfl rfl
  · exact .nothing rfl rfl
  · unfold restore
    split
    · exact .nothing rfl rfl
    · split
      · refine .nothing rfl ?_
        rw [List.filterMap_append, events_versionNotice]
        rfl
      · refine .nothing rfl ?_
        rw [List.filterMap_append, events_versionNotice]
        rfl

private theorem relays_listSaves :
    Relays setting console (console.listSaves setting) := by
  refine .nothing rfl ?_
  unfold listSaves
  dsimp only
  split
  · rfl
  · rfl

private theorem relays_perform (command : Command) :
    Relays setting console (console.perform setting command) := by
  cases command with
  | talk trigger =>
      exact relays_talk trigger
  | advance =>
      exact relays_advance
  | select number =>
      exact relays_select number
  | close =>
      exact relays_close
  | set assignment =>
      exact relays_unlessActive (relays_set assignment)
  | unset name =>
      exact relays_unlessActive (.nothing rfl rfl)
  | save slot =>
      exact relays_save slot
  | load slot =>
      exact relays_unlessActive (relays_load slot)
  | listSaves =>
      exact relays_listSaves
  | _ =>
      exact .nothing rfl rfl

/-- Settling a console changes nothing that is told of dialogues. -/
theorem Relays.settle
    {reply : Reply}
    (relays : Relays setting console reply) :
    Relays setting console { reply with console := reply.console.settle } := by
  cases relays with
  | call call sameSession sameEvents =>
      exact .call call ((settle_session _).trans sameSession) sameEvents
  | nothing sameSession noEvents =>
      exact .nothing ((settle_session _).trans sameSession) noEvents

private theorem relays_execute (command : Command) :
    Relays setting console (console.execute setting command) := by
  unfold execute
  split
  · exact .nothing rfl rfl
  · dsimp only
    split
    · exact relays_perform command
    · exact (relays_perform command).settle

end Relaying

/-! ## The offer that was shown last -/

/-- While an offer stands, it is the one that was shown last. -/
def ShowsOffer (items : List Item) (session : Session) : Prop :=
  session.phase = .choosing →
    ∃ shown, lastOffer? items = some shown ∧ shown.map Offer.pending = session.pending

section ShowsOffer

variable {setting : Setting}

private theorem ShowsOffer.of_relays
    {console : Console} {items : List Item} {reply : Reply}
    (shows : ShowsOffer items console.session)
    (relays : Relays setting console reply) :
    ShowsOffer (items ++ reply.items) reply.console.session := by
  cases relays with
  | nothing sameSession noEvents =>
      rw [ShowsOffer, sameSession, lastOffer?_append_of_no_events noEvents]
      exact shows
  | call call sameSession sameEvents =>
      rw [ShowsOffer, sameSession]
      intro choosing
      rcases Session.choosing_of_outcome (Session.outcome_perform call) choosing with
        ⟨keptSession, _, noEvents⟩ | ⟨node, shown, makesOffer⟩
      · have noneShown : reply.items.filterMap Item.event? = [] :=
          sameEvents.trans noEvents
        have choosingBefore : console.session.phase = .choosing :=
          (congrArg Session.phase keptSession).symm.trans choosing
        obtain ⟨shown, isLast, pending⟩ := shows choosingBefore
        refine ⟨shown, ?_, ?_⟩
        · rw [lastOffer?_append_of_no_events noneShown, isLast]
        · exact pending.trans (congrArg Session.pending keptSession).symm
      · refine ⟨shown, ?_, ?_⟩
        · exact lastOffer?_append_of_choices (sameEvents.trans makesOffer.events_eq)
        · exact (congrArg Session.pending makesOffer.session_eq).symm

/-- The offer of a session is the one that was shown last. By induction from the
end, as the last command decides which offer that is. -/
theorem showsOffer_told
    {start : Console}
    (shows : ShowsOffer [] start.session)
    (commands : List Command) :
    ShowsOffer (told setting start commands)
      (after setting start commands).session := by
  induction commands using List.reverseRecOn with
  | nil =>
      exact shows
  | append_singleton commands command inductionHypothesis =>
      rw [told_concat, after_concat]
      exact inductionHypothesis.of_relays (relays_execute command)

end ShowsOffer

end Colloquy.Console
