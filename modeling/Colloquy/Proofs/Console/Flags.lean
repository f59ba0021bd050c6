import Colloquy.Proofs.Console.Courses
import Colloquy.Proofs.Session.Effects
import Mathlib.Data.List.Induction

/-!
# The flags of a console

A law of whole runs: while a dialogue is open the flags are those of the moment
in which it was opened, changed by the effects of the choices picked since and
by nothing else; while none is open they are written by a load that succeeds
and, for developers, by assignments and removals.
-/

namespace Colloquy.Console

open Colloquy.Flag (Assignment Store)
open Colloquy.Graph (ChoiceId)
open Colloquy.Session (Coherent effectsAt)
open Colloquy.Storage (Disk)

/-- The console after commands, executed one after another. -/
def after (setting : Setting) (console : Console) (commands : List Command) : Console :=
  commands.foldl
    (fun console command => (console.execute setting command).console) console

/-- The choice that a command picks: that of the number, if the session takes it. -/
def picked? (setting : Setting) (console : Console) : Command → Option ChoiceId
  | .select (index + 1) =>
    Session.taken? setting.graph setting.localizer console.session console.flags
      (.select index)
  | _ => none

def picks (setting : Setting) (console : Console) : List Command → List ChoiceId
  | [] => []
  | command :: rest =>
    (picked? setting console command).toList ++
      picks setting (console.execute setting command).console rest

def effectsOf (setting : Setting) (ids : List ChoiceId) : List Effect :=
  ids.flatMap (effectsAt setting.graph)

section Runs

variable {setting : Setting} {console : Console}

theorem after_append (earlier since : List Command) :
    after setting console (earlier ++ since) =
      after setting (after setting console earlier) since :=
  List.foldl_append

theorem after_concat (commands : List Command) (command : Command) :
    after setting console (commands ++ [command]) =
      ((after setting console commands).execute setting command).console := by
  rw [after_append]
  rfl

private theorem picks_concat (commands : List Command) (command : Command) :
    picks setting console (commands ++ [command]) =
      picks setting console commands ++
        (picked? setting (after setting console commands) command).toList := by
  induction commands generalizing console with
  | nil =>
      simp [picks, after]
  | cons head tail inductionHypothesis =>
      simp only [List.cons_append, picks, inductionHypothesis, List.append_assoc]
      rfl

private theorem applyAll_effectsOf_append
    (flags : Store) (first second : List ChoiceId) :
    Effect.applyAll (effectsOf setting (first ++ second)) flags =
      Effect.applyAll (effectsOf setting second)
        (Effect.applyAll (effectsOf setting first) flags) := by
  rw [effectsOf, List.flatMap_append]
  exact Session.applyAll_append _ _ flags

end Runs

/-- The writes of flags that are allowed while no dialogue is open. -/
inductive Writes (setting : Setting) (console : Console) : Command → Store → Prop
  | load {slot : String} {flags : Store} :
      Restores setting console.disk slot flags →
        Writes setting console (.load slot) flags
  | set {assignment : Assignment} {flags : Store} :
      setting.developer = true → assignment.write? console.flags = some flags →
        Writes setting console (.set assignment) flags
  | unset (name : String) :
      setting.developer = true →
        Writes setting console (.unset name) (console.flags.remove name)

section Commands

variable {setting : Setting} {console : Console}

private theorem coherent_of_course
    (coherent : Coherent setting.graph console.session)
    {command : Command} {next : Console}
    (course : Course setting console command next) :
    Coherent setting.graph next.session := by
  have called : ∀ call, Coherent setting.graph (console.call setting call).session :=
    coherent.perform setting.localizer console.flags
  cases course with
  | talked =>
      exact called _
  | talkRefused =>
      exact called _
  | advanced =>
      exact called _
  | selected =>
      exact called _
  | closed =>
      exact called _
  | _ =>
      exact coherent

private theorem picked?_of_keeps
    {command : Command}
    (keeps : Keeps setting console command) :
    picked? setting console command = none := by
  cases keeps with
  | forDevelopers forDevelopers =>
      cases command with
      | set =>
          rfl
      | unset =>
          rfl
      | _ =>
          cases forDevelopers
  | _ =>
      rfl

/-- While a dialogue is open, flags change by the effects of the choice that is
picked. -/
theorem flags_of_course_of_active
    (active : console.session.isActive = true)
    {command : Command} {next : Console}
    (course : Course setting console command next) :
    next.flags =
      Effect.applyAll (effectsOf setting (picked? setting console command).toList)
        console.flags := by
  have called : ∀ call, (console.call setting call).flags =
      Effect.applyAll
        (effectsOf setting
          (Session.taken? setting.graph setting.localizer console.session console.flags
            call).toList)
        console.flags :=
    Session.flags_perform
  have notInactive : console.session.isActive ≠ false := by simp [active]
  cases course with
  | kept keeps =>
      rw [picked?_of_keeps keeps]
      rfl
  | talked =>
      exact called (.start _)
  | talkRefused =>
      exact called (.start _)
  | advanced =>
      exact called .advance
  | selected index =>
      exact called (.select index)
  | closed =>
      exact called .close
  | saved =>
      rfl
  | assigned _ inactive =>
      exact absurd inactive notInactive
  | erased _ _ inactive =>
      exact absurd inactive notInactive
  | restored inactive =>
      exact absurd inactive notInactive

/-- While no dialogue is open, flags only change by the writes that are allowed. -/
theorem flags_of_course_of_inactive
    (coherent : Coherent setting.graph console.session)
    (inactive : console.session.isActive = false)
    {command : Command} {next : Console}
    (course : Course setting console command next) :
    next.flags = console.flags ∨ Writes setting console command next.flags := by
  have called : ∀ call, (console.call setting call).flags = console.flags :=
    Session.flags_perform_of_inactive coherent inactive
  cases course with
  | kept =>
      exact .inl rfl
  | talked =>
      exact .inl (called _)
  | talkRefused =>
      exact .inl (called _)
  | advanced =>
      exact .inl (called _)
  | selected =>
      exact .inl (called _)
  | closed =>
      exact .inl (called _)
  | saved =>
      exact .inl rfl
  | assigned developer _ written =>
      exact .inr (.set developer written)
  | erased name developer =>
      exact .inr (.unset name developer)
  | restored _ restores =>
      exact .inr (.load restores)

/-- Only a talk opens a dialogue, and it leaves the flags as they are. -/
theorem exists_talk_of_course
    (coherent : Coherent setting.graph console.session)
    (inactive : console.session.isActive = false)
    {command : Command} {next : Console}
    (course : Course setting console command next)
    (opened : next.session.isActive = true) :
    (∃ trigger, command = .talk trigger) ∧ next.flags = console.flags := by
  have called : ∀ call, (console.call setting call).flags = console.flags :=
    Session.flags_perform_of_inactive coherent inactive
  have notActive : console.session.isActive ≠ true := by simp [inactive]
  cases course with
  | talked =>
      exact ⟨⟨_, rfl⟩, called _⟩
  | talkRefused =>
      exact ⟨⟨_, rfl⟩, called _⟩
  | selected index =>
      obtain ⟨trigger, isStart⟩ :=
        Session.exists_start_of_isActive coherent inactive opened
      cases isStart
  | advanced active =>
      exact absurd active notActive
  | closed active =>
      exact absurd active notActive
  | _ =>
      exact absurd opened notActive

end Commands

section Execute

variable {setting : Setting} {console : Console}

/-- What a command does to session and flags is one of the courses. -/
theorem exists_course_agreeing (command : Command) :
    ∃ next, Course setting console command next ∧
      (console.execute setting command).console.session = next.session ∧
        (console.execute setting command).console.flags = next.flags := by
  obtain ⟨next, course, settled | ⟨unchanged, same⟩⟩ := exists_course_of_execute command
  · exact ⟨next, course, by simp [settled], by simp [settled]⟩
  · subst same
    exact ⟨next, course, by rw [unchanged], by rw [unchanged]⟩

private theorem coherent_execute
    (coherent : Coherent setting.graph console.session)
    (command : Command) :
    Coherent setting.graph (console.execute setting command).console.session := by
  obtain ⟨next, course, sameSession, _⟩ := exists_course_agreeing command
  rw [sameSession]
  exact coherent_of_course coherent course

/-- Sessions stay coherent over any commands. -/
theorem coherent_after
    (coherent : Coherent setting.graph console.session)
    (commands : List Command) :
    Coherent setting.graph (after setting console commands).session := by
  induction commands generalizing console with
  | nil =>
      exact coherent
  | cons head tail inductionHypothesis =>
      exact inductionHypothesis (coherent_execute coherent head)

private theorem flags_execute_of_active
    (active : console.session.isActive = true)
    (command : Command) :
    (console.execute setting command).console.flags =
      Effect.applyAll (effectsOf setting (picked? setting console command).toList)
        console.flags := by
  obtain ⟨next, course, _, sameFlags⟩ := exists_course_agreeing command
  rw [sameFlags]
  exact flags_of_course_of_active active course

private theorem flags_execute_of_inactive
    (coherent : Coherent setting.graph console.session)
    (inactive : console.session.isActive = false)
    (command : Command) :
    (console.execute setting command).console.flags = console.flags ∨
      Writes setting console command
        (console.execute setting command).console.flags := by
  obtain ⟨next, course, _, sameFlags⟩ := exists_course_agreeing command
  rw [sameFlags]
  exact flags_of_course_of_inactive coherent inactive course

/-- Only a talk opens a dialogue, and it writes no flag itself. -/
theorem exists_talk_of_execute
    (coherent : Coherent setting.graph console.session)
    (inactive : console.session.isActive = false)
    {command : Command}
    (opened : (console.execute setting command).console.session.isActive = true) :
    (∃ trigger, command = .talk trigger) ∧
      (console.execute setting command).console.flags = console.flags := by
  obtain ⟨next, course, sameSession, sameFlags⟩ := exists_course_agreeing command
  rw [sameSession] at opened
  rw [sameFlags]
  exact exists_talk_of_course coherent inactive course opened

end Execute

/-- A dialogue that a talk opened and that has been open since: `since` are the
commands after the talk. -/
structure OpenSince (setting : Setting) (start : Console) (earlier : List Command)
    (trigger : String) (since : List Command) : Prop where
  closedBefore : (after setting start earlier).session.isActive = false
  openThroughout :
    ∀ part, part <+: since →
      (after setting start (earlier ++ .talk trigger :: part)).session.isActive = true

/-- A talk opened the dialogue, and the flags are those that it found, changed
by the effects of the choices picked since. -/
def FlagsSinceTalk
    (setting : Setting) (start : Console) (commands : List Command) : Prop :=
  ∃ earlier trigger since,
    commands = earlier ++ .talk trigger :: since ∧
      OpenSince setting start earlier trigger since ∧
        (after setting start commands).flags =
          Effect.applyAll
            (effectsOf setting
              (picks setting (after setting start (earlier ++ [.talk trigger])) since))
            (after setting start earlier).flags

section OpenSince

variable {setting : Setting} {start : Console}

/-- A talk that opens a dialogue begins the stretch in which it is open. -/
theorem openSince_of_talk
    {earlier : List Command} {trigger : String}
    (closedBefore : (after setting start earlier).session.isActive = false)
    (opened : (after setting start (earlier ++ [.talk trigger])).session.isActive =
      true) :
    OpenSince setting start earlier trigger [] where
  closedBefore := closedBefore
  openThroughout := by
    intro part initial
    rw [List.prefix_nil.1 initial]
    exact opened

/-- A dialogue that is still open after a further command stays the same dialogue. -/
theorem OpenSince.concat
    {earlier : List Command} {trigger : String} {since : List Command}
    {command : Command}
    (openSince : OpenSince setting start earlier trigger since)
    (stillOpen :
      (after setting start (earlier ++ .talk trigger ::
        (since ++ [command]))).session.isActive =
        true) :
    OpenSince setting start earlier trigger (since ++ [command]) where
  closedBefore := openSince.closedBefore
  openThroughout := by
    intro part initial
    rcases List.prefix_concat_iff.1 initial with whole | shorter
    · rw [whole]
      exact stillOpen
    · exact openSince.openThroughout part shorter

/-- While a dialogue is open the flags are those since its talk. By induction
from the end: the last command either continues the dialogue or opened it. -/
private theorem flagsSinceTalk_of_isActive
    (coherent : Coherent setting.graph start.session)
    (closedAtStart : start.session.isActive = false)
    (commands : List Command)
    (active : (after setting start commands).session.isActive = true) :
    FlagsSinceTalk setting start commands := by
  induction commands using List.reverseRecOn with
  | nil =>
      rw [show after setting start [] = start from rfl, closedAtStart] at active
      cases active
  | append_singleton commands command inductionHypothesis =>
      have openedNow :
          ((after setting start commands).execute setting
            command).console.session.isActive =
            true := by
        rwa [after_concat] at active
      by_cases openBefore : (after setting start commands).session.isActive = true
      · obtain ⟨earlier, trigger, since, split, openSince, flagsBefore⟩ :=
          inductionHypothesis openBefore
        refine ⟨earlier, trigger, since ++ [command], by simp [split], ?_, ?_⟩
        · refine openSince.concat ?_
          simpa [split] using active
        · have before : after setting start commands =
              after setting
                (after setting start (earlier ++ [.talk trigger])) since := by
            rw [split, ← after_append]
            simp
          rw [after_concat, flags_execute_of_active openBefore, flagsBefore,
            picks_concat, ← before, applyAll_effectsOf_append]
      · have closedBefore : (after setting start commands).session.isActive = false :=
          Bool.eq_false_iff.2 openBefore
        obtain ⟨⟨trigger, isTalk⟩, sameFlags⟩ :=
          exists_talk_of_execute
            (coherent_after coherent commands) closedBefore openedNow
        subst isTalk
        refine ⟨commands, trigger, [], rfl, openSince_of_talk closedBefore active, ?_⟩
        rw [after_concat, sameFlags]
        rfl

end OpenSince

/-! ## The law of runs -/

/-- A command that changes nothing and answers with one problem. -/
def Refused (setting : Setting) (console : Console) (command : Command) : Prop :=
  ∃ message, console.execute setting command = { console, items := [.problem message] }

/-- What the flags of a console have come to after commands, and what the next
one does to them. -/
structure FlagsFollowDialogue
    (setting : Setting) (start : Console) (commands : List Command) :
    Prop where
  opened :
    (after setting start commands).session.isActive = true →
      FlagsSinceTalk setting start commands
  picking :
    (after setting start commands).session.isActive = true →
      ∀ command,
        ((after setting start commands).execute setting command).console.flags =
        Effect.applyAll
          (effectsOf setting (picked? setting
            (after setting start commands) command).toList)
          (after setting start commands).flags
  resting :
    (after setting start commands).session.isActive = false →
      ∀ command,
        ((after setting start commands).execute setting command).console.flags =
            (after setting start commands).flags ∨
          Writes setting (after setting start commands) command
            ((after setting start commands).execute setting command).console.flags
  guarded :
    setting.developer = false →
      (∀ assignment, Refused setting (after setting start commands) (.set assignment)) ∧
        ∀ name, Refused setting (after setting start commands) (.unset name)

/-- In every run of a new console, over any files, flags follow the dialogues. -/
theorem flags_follow_dialogue
    (setting : Setting) (disk : Disk) (commands : List Command) :
    FlagsFollowDialogue setting { disk } commands := by
  have coherentAtStart : Coherent setting.graph ({ disk } : Console).session := .idle
  have coherent : Coherent setting.graph (after setting { disk } commands).session :=
    coherent_after coherentAtStart commands
  exact {
    opened := flagsSinceTalk_of_isActive coherentAtStart rfl commands
    picking := flags_execute_of_active
    resting := flags_execute_of_inactive coherent
    guarded := fun noDeveloper =>
      ⟨fun _ => ⟨_, execute_of_refused rfl noDeveloper⟩,
        fun _ => ⟨_, execute_of_refused rfl noDeveloper⟩⟩ }

end Colloquy.Console
