import Colloquy.Proofs.Console.Replies
import Colloquy.Proofs.Save.Restoring

/-!
# The trigger of a console

A console remembers the trigger of the dialogue that is open, for its saves. It
remembers one exactly while a dialogue is open, and it is the trigger of the
talk that opened that dialogue: a talk that is refused does not overwrite it,
and however a dialogue ends it is forgotten.
-/

namespace Colloquy.Console

open Colloquy.Graph (NodeId)
open Colloquy.Session (Coherent)
open Colloquy.Storage (Disk)

/-- A talk that opens a dialogue at the node of its trigger. -/
structure Opens
    (setting : Setting) (console : Console) (trigger : String) (id : NodeId) :
    Prop where
  starts : setting.graph.start? (Text.trim trigger) = some id
  line : ∃ node, setting.graph.node? id = some node ∧
    (console.execute setting (.talk trigger)).items =
      [.event (Session.lineEvent setting.graph setting.localizer id node)]
  session : (console.execute setting (.talk trigger)).console.session =
    { phase := .presenting, current := some id }
  remembers : (console.execute setting (.talk trigger)).console.activeTrigger =
    some (Text.trim trigger)

section Talking

variable {setting : Setting} {console : Console}

private theorem start?_trim (graph : Graph) (trigger : String) :
    graph.start? (Text.trim trigger) = graph.start? trigger := by
  simp only [Graph.start?, Graph.TriggerMap.start?, Text.trim_trim]

/-- A talk after which a dialogue is open, if none was before it, opened that
dialogue. -/
theorem exists_opens_of_isActive
    (coherent : Coherent setting.graph console.session)
    (inactive : console.session.isActive = false)
    {trigger : String}
    (opened : (console.execute setting (.talk trigger)).console.session.isActive =
      true) :
    ∃ id, Opens setting console trigger id := by
  have notActive : console.session.isActive ≠ true := by simp [inactive]
  have noPending : console.session.pending = [] :=
    coherent.pending_eq_nil (coherent.phase_ne_choosing_of_inactive inactive)
  obtain ⟨next, course, sameSession, _⟩ :
      ∃ next, Course setting console (.talk trigger) next ∧
        (console.execute setting (.talk trigger)).console.session = next.session ∧
          (console.execute setting (.talk trigger)).console.flags = next.flags :=
    exists_course_agreeing (.talk trigger)
  rw [sameSession] at opened
  cases course with
  | kept =>
      exact absurd opened notActive
  | talkRefused refused =>
      have unchanged :
          (console.call setting (.start trigger)).session = console.session :=
        congrArg Session.Step.session (Session.refuses_of_answer_eq_error refused).2
      rw [follow, unchanged] at opened
      exact absurd opened notActive
  | talked started =>
      have executed : console.execute setting (.talk trigger) = _ :=
        execute_eq_settled rfl Command.noConfusion
      have outcome : Session.Outcome setting.graph setting.localizer console.session
          console.flags (.start trigger) (console.call setting (.start trigger)) :=
        Session.outcome_start trigger
      rw [perform, talk_of_ok started] at executed
      generalize console.call setting (.start trigger) = step
        at outcome started executed
      cases outcome with
      | refused =>
          cases started
      | started _ starts found =>
          dsimp only at executed
          rw [settle_of_isActive _ rfl] at executed
          refine ⟨_, (start?_trim _ _).trans starts, ⟨_, found, ?_⟩, ?_, ?_⟩
          · rw [executed]
            rfl
          · rw [executed, follow, noPending]
          · rw [executed]

end Talking

section Remembering

variable {setting : Setting} {console : Console}

private theorem activeTrigger_settle_of_inactive
    (inactive : console.session.isActive = false) :
    console.settle.activeTrigger = none := by
  simp [settle, inactive]

/-- Once no dialogue is open, nothing is remembered. -/
theorem activeTrigger_execute_of_inactive
    (forgotten : console.session.isActive = false → console.activeTrigger = none)
    {command : Command}
    (closed : (console.execute setting command).console.session.isActive = false) :
    (console.execute setting command).console.activeTrigger = none := by
  obtain ⟨next, course, settled | ⟨unchanged, _⟩⟩ :
      ∃ next, Course setting console command next ∧
        ((console.execute setting command).console = next.settle ∨
          (console.execute setting command).console = console ∧ next = console) :=
    exists_course_of_execute command
  · rw [settled] at closed ⊢
    rw [settle_session] at closed
    exact activeTrigger_settle_of_inactive closed
  · rw [unchanged] at closed ⊢
    exact forgotten closed

/-- While a dialogue is open no talk succeeds, so the trigger it was opened by stays. -/
private theorem activeTrigger_of_course_of_active
    (active : console.session.isActive = true)
    {command : Command} {next : Console}
    (course : Course setting console command next) :
    next.activeTrigger = console.activeTrigger := by
  cases course with
  | @talked trigger _ started =>
      have outcome : Session.Outcome setting.graph setting.localizer console.session
          console.flags (.start trigger) (console.call setting (.start trigger)) :=
        Session.outcome_start trigger
      generalize console.call setting (.start trigger) = step at outcome started
      cases outcome with
      | refused =>
          cases started
      | started inactive =>
          rw [active] at inactive
          cases inactive
  | _ =>
      rfl

/-- While a dialogue goes on, what is remembered stays, whatever else is asked
to be talked about. -/
theorem activeTrigger_execute_of_active
    (active : console.session.isActive = true)
    {command : Command}
    (stillActive : (console.execute setting command).console.session.isActive = true) :
    (console.execute setting command).console.activeTrigger =
      console.activeTrigger := by
  obtain ⟨next, course, settled | ⟨unchanged, _⟩⟩ :
      ∃ next, Course setting console command next ∧
        ((console.execute setting command).console = next.settle ∨
          (console.execute setting command).console = console ∧ next = console) :=
    exists_course_of_execute command
  · rw [settled, settle_session] at stillActive
    rw [settled, settle_of_isActive _ stillActive]
    exact activeTrigger_of_course_of_active active course
  · rw [unchanged]

end Remembering

/-- A talk of a trigger opened the dialogue at a node, the dialogue has been
open since, and the trigger is remembered. -/
structure OpenedBy (setting : Setting) (start : Console) (commands : List Command)
    (trigger : String) (id : NodeId) : Prop where
  talk :
    ∃ earlier since, commands = earlier ++ .talk trigger :: since ∧
      OpenSince setting start earlier trigger since ∧
        Opens setting (after setting start earlier) trigger id
  remembered : (after setting start commands).activeTrigger = some (Text.trim trigger)

section OpenedBy

variable {setting : Setting} {start : Console}

/-- The trigger that opened a dialogue stays the one of the dialogue while it is
open. -/
theorem OpenedBy.concat
    {commands : List Command} {trigger : String} {id : NodeId} {command : Command}
    (openedBy : OpenedBy setting start commands trigger id)
    (active : (after setting start commands).session.isActive = true)
    (stillActive : (after setting start (commands ++ [command])).session.isActive =
      true) :
    OpenedBy setting start (commands ++ [command]) trigger id where
  talk := by
    obtain ⟨earlier, since, split, openSince, opens⟩ := openedBy.talk
    refine ⟨earlier, since ++ [command], by simp [split], openSince.concat ?_, opens⟩
    simpa [split] using stillActive
  remembered := by
    rw [after_concat] at stillActive ⊢
    rw [activeTrigger_execute_of_active active stillActive]
    exact openedBy.remembered

private theorem openedBy_talk
    {commands : List Command} {trigger : String} {id : NodeId}
    (closedBefore : (after setting start commands).session.isActive = false)
    (opens : Opens setting (after setting start commands) trigger id) :
    OpenedBy setting start (commands ++ [.talk trigger]) trigger id where
  talk := by
    have opened :
        (after setting start (commands ++ [.talk trigger])).session.isActive =
          true := by
      rw [after_concat, opens.session]
      rfl
    exact ⟨commands, [], rfl, openSince_of_talk closedBefore opened, opens⟩
  remembered := by
    rw [after_concat]
    exact opens.remembers

/-- A dialogue that is open was opened by a talk. By induction from the end: the
last command either continues the dialogue or opened it. -/
private theorem exists_openedBy
    (coherent : Coherent setting.graph start.session)
    (closedAtStart : start.session.isActive = false)
    (commands : List Command)
    (active : (after setting start commands).session.isActive = true) :
    ∃ trigger id, OpenedBy setting start commands trigger id := by
  induction commands using List.reverseRecOn with
  | nil =>
      rw [show after setting start [] = start from rfl, closedAtStart] at active
      cases active
  | append_singleton commands command inductionHypothesis =>
      by_cases openBefore : (after setting start commands).session.isActive = true
      · obtain ⟨trigger, id, openedBy⟩ := inductionHypothesis openBefore
        exact ⟨trigger, id, openedBy.concat openBefore active⟩
      · have closedBefore : (after setting start commands).session.isActive = false :=
          Bool.eq_false_iff.2 openBefore
        have coherentBefore := coherent_after coherent commands
        have openedNow :
            ((after setting start commands).execute setting
              command).console.session.isActive =
              true := by
          rwa [after_concat] at active
        obtain ⟨⟨trigger, isTalk⟩, _⟩ :=
          exists_talk_of_execute coherentBefore closedBefore openedNow
        subst isTalk
        obtain ⟨id, opens⟩ :=
          exists_opens_of_isActive coherentBefore closedBefore openedNow
        exact ⟨trigger, id, openedBy_talk closedBefore opens⟩

private theorem activeTrigger_after_of_inactive
    (forgotten : start.session.isActive = false → start.activeTrigger = none)
    (commands : List Command) :
    (after setting start commands).session.isActive = false →
      (after setting start commands).activeTrigger = none := by
  induction commands generalizing start with
  | nil =>
      exact forgotten
  | cons head tail inductionHypothesis =>
      exact inductionHypothesis (activeTrigger_execute_of_inactive forgotten)

end OpenedBy

/-- Each save that is said to be written records a trigger. -/
def SavesRecord
    (setting : Setting) (console : Console) (trigger : Option String) : Prop :=
  ∀ slot target,
    (console.execute setting (.save slot)).items =
        [.notice ("Flags saved to " ++ target ++ ".")] →
      ∃ file, Save.File.load
        (console.execute setting (.save slot)).console.disk target = .ok file ∧
        file.trigger = trigger

private theorem savesRecord_activeTrigger (setting : Setting) (console : Console) :
    SavesRecord setting console console.activeTrigger := by
  intro slot target told
  have executed : console.execute setting (.save slot) = _ :=
    execute_eq_settled rfl Command.noConfusion
  rw [executed, perform] at told ⊢
  dsimp only at told ⊢
  rw [settle_disk]
  cases wrote : Save.write console.disk setting.saveDirectory slot console.flags
      console.activeTrigger with
  | mk outcome written =>
      cases outcome with
      | error failure =>
          simp [save, wrote] at told
      | ok path =>
          simp only [save, wrote] at told ⊢
          have sameTarget : path = target := by
            simpa using told
          rw [← sameTarget]
          exact ⟨_, Save.load_of_write wrote, rfl⟩

/-! ## The law of triggers -/

/-- What a console remembers after commands, and what its saves record. -/
structure TriggerFollowsDialogue
    (setting : Setting) (start : Console) (commands : List Command) :
    Prop where
  isSome_iff :
    (after setting start commands).activeTrigger.isSome = true ↔
      (after setting start commands).session.isActive = true
  inside :
    (after setting start commands).session.isActive = true →
      ∃ trigger id, OpenedBy setting start commands trigger id ∧
        SavesRecord setting (after setting start commands) (some (Text.trim trigger))
  outside :
    (after setting start commands).session.isActive = false →
      SavesRecord setting (after setting start commands) none

/-- In every run of a new console, over any graph and any files, the trigger
that is remembered is the one that the open dialogue was opened with, and saves
record it. -/
theorem trigger_follows_dialogue
    (setting : Setting) (disk : Disk) (commands : List Command) :
    TriggerFollowsDialogue setting { disk } commands := by
  have inside :
      (after setting { disk } commands).session.isActive = true →
        ∃ trigger id, OpenedBy setting { disk } commands trigger id :=
    exists_openedBy .idle rfl commands
  have outside :
      (after setting { disk } commands).session.isActive = false →
        (after setting { disk } commands).activeTrigger = none :=
    activeTrigger_after_of_inactive (fun _ => rfl) commands
  have records :=
    savesRecord_activeTrigger setting (after setting { disk } commands)
  refine ⟨⟨?_, ?_⟩, ?_, ?_⟩
  · intro remembered
    by_contra notActive
    rw [outside (Bool.eq_false_iff.2 notActive)] at remembered
    cases remembered
  · intro active
    obtain ⟨trigger, id, openedBy⟩ := inside active
    rw [openedBy.remembered]
    rfl
  · intro active
    obtain ⟨trigger, id, openedBy⟩ := inside active
    rw [openedBy.remembered] at records
    exact ⟨trigger, id, openedBy, records⟩
  · intro inactive
    rw [outside inactive] at records
    exact records

end Colloquy.Console
