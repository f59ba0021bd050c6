import Colloquy.Console
import Colloquy.Proofs.Session.Calls

/-!
# What commands come to

An inversion of the execution of commands: it names each way in which a command
changes the console, with the guards that it passes, and each reason for which a
command leaves the console as it is. Laws of consoles are case analyses over
these courses.
-/

namespace Colloquy.Console

open Colloquy.Flag (Assignment Store)
open Colloquy.Session (Call)
open Colloquy.Storage (Disk)

section Settle

variable (console : Console)

@[simp]
theorem settle_session : console.settle.session = console.session := by
  unfold settle
  split
  · rfl
  · rfl

@[simp]
theorem settle_flags : console.settle.flags = console.flags := by
  unfold settle
  split
  · rfl
  · rfl

@[simp]
theorem settle_disk : console.settle.disk = console.disk := by
  unfold settle
  split
  · rfl
  · rfl

/-- While a dialogue is open its trigger stays remembered. -/
theorem settle_of_isActive
    (active : console.session.isActive = true) :
    console.settle = console :=
  if_pos active

theorem settle_eq_self
    (forgotten : console.session.isActive = false → console.activeTrigger = none) :
    console.settle = console := by
  unfold settle
  split
  · rfl
  · next closed => rw [← forgotten (Bool.eq_false_iff.2 closed)]

end Settle

/-- The store that the save of a slot restores. -/
def Restores (setting : Setting) (disk : Disk) (slot : String) (flags : Store) : Prop :=
  ∃ found file, Save.find? disk setting.saveDirectory slot = .ok (some found) ∧
    Save.File.load disk found.path = .ok file ∧ file.restore = .ok flags

section Courses

variable (setting : Setting) (console : Console)

def call (call : Call) : Session.Step Session.Reply :=
  Session.perform setting.graph setting.localizer console.session console.flags call

/-- Why a command leaves the console as it is. -/
inductive Keeps : Command → Prop
  | forDevelopers {command : Command} :
      command.isDeveloperOnly = true → setting.developer = false → Keeps command
  | advanceClosed : console.session.isActive = false → Keeps .advance
  | advanceChoosing : console.session.phase = .choosing → Keeps .advance
  | selectZero : Keeps (.select 0)
  | closeClosed : console.session.isActive = false → Keeps .close
  | setOpen (assignment : Assignment) :
      console.session.isActive = true → Keeps (.set assignment)
  | setRefused {assignment : Assignment} :
      assignment.write? console.flags = none → Keeps (.set assignment)
  | unsetOpen (name : String) : console.session.isActive = true → Keeps (.unset name)
  | loadOpen (slot : String) : console.session.isActive = true → Keeps (.load slot)
  | loadFailed {slot : String} :
      (∀ flags, ¬ Restores setting console.disk slot flags) → Keeps (.load slot)
  | triggers : Keeps .triggers
  | flags : Keeps .flags
  | listSaves : Keeps .listSaves
  | help : Keeps .help
  | quit : Keeps .quit
  | unknown : Keeps .unknown

/-- What a command makes of the console, before the console settles. -/
inductive Course : Command → Console → Prop
  | kept {command : Command} : Keeps setting console command → Course command console
  | talked {trigger : String} {reply : Session.Reply} :
      (console.call setting (.start trigger)).answer = .ok reply →
        Course (.talk trigger)
          { console.follow (console.call setting (.start trigger)) with
            activeTrigger := some (Text.trim trigger) }
  | talkRefused {trigger : String} {error : Session.Error} :
      (console.call setting (.start trigger)).answer = .error error →
        Course (.talk trigger) (console.follow (console.call setting (.start trigger)))
  | advanced :
      console.session.isActive = true → console.session.phase ≠ .choosing →
        Course .advance (console.follow (console.call setting .advance))
  | selected (index : Nat) :
      Course (.select (index + 1))
        (console.follow (console.call setting (.select index)))
  | closed :
      console.session.isActive = true →
        Course .close (console.follow (console.call setting .close))
  | assigned {assignment : Assignment} {flags : Store} :
      setting.developer = true → console.session.isActive = false →
        assignment.write? console.flags = some flags →
          Course (.set assignment) { console with flags }
  | erased (name : String) :
      setting.developer = true → console.session.isActive = false →
        Course (.unset name) { console with flags := console.flags.remove name }
  | saved (slot : String) :
      Course (.save slot)
        { console with
          disk := (Save.write console.disk setting.saveDirectory slot console.flags
            console.activeTrigger).2 }
  | restored {slot : String} {flags : Store} :
      console.session.isActive = false → Restores setting console.disk slot flags →
        Course (.load slot) { console with flags }

end Courses

/-! ## Inversion of commands -/

section Inversion

variable {setting : Setting} {console : Console}

private theorem course_talk (trigger : String) :
    Course setting console (.talk trigger) (console.talk setting trigger).console := by
  unfold talk
  cases answered :
      (console.session.start setting.graph setting.localizer console.flags
        trigger).answer with
  | error error =>
      simp only [answered]
      have refused : (console.call setting (.start trigger)).answer = .error error := by
        simp [call, Session.perform, Session.Step.map, answered, Except.map]
      exact .talkRefused refused
  | ok node =>
      simp only [answered]
      have started :
          (console.call setting (.start trigger)).answer = .ok (.started node) := by
        simp [call, Session.perform, Session.Step.map, answered, Except.map]
      exact .talked started

private theorem course_advance :
    Course setting console .advance (console.advance setting).console := by
  unfold advance
  by_cases active : console.session.isActive = true
  · by_cases choosing : console.session.phase = .choosing
    · simp only [active, choosing, Bool.not_true, Bool.false_eq_true, if_false, if_true]
      exact .kept (.advanceChoosing choosing)
    · simp only [active, choosing, Bool.not_true, Bool.false_eq_true, if_false]
      exact .advanced active choosing
  · have inactive : console.session.isActive = false := Bool.eq_false_iff.2 active
    simp only [inactive, Bool.not_false, if_true]
    exact .kept (.advanceClosed inactive)

private theorem course_select (number : Nat) :
    Course setting console (.select number)
      (console.select setting number).console := by
  cases number with
  | zero =>
      exact .kept .selectZero
  | succ index =>
      exact .selected index

private theorem course_close :
    Course setting console .close console.close.console := by
  unfold close
  by_cases active : console.session.isActive = true
  · simp only [active, if_true]
    exact .closed active
  · have inactive : console.session.isActive = false := Bool.eq_false_iff.2 active
    simp only [inactive, Bool.false_eq_true, if_false]
    exact .kept (.closeClosed inactive)

private theorem course_set
    (developer : setting.developer = true)
    (inactive : console.session.isActive = false)
    (assignment : Assignment) :
    Course setting console (.set assignment) (console.set assignment).console := by
  unfold set
  cases written : assignment.write? console.flags with
  | none =>
      exact .kept (.setRefused written)
  | some flags =>
      exact .assigned developer inactive written

private theorem course_load
    (inactive : console.session.isActive = false)
    (slot : String) :
    Course setting console (.load slot) (console.load setting slot).console := by
  unfold load
  cases search : Save.find? console.disk setting.saveDirectory slot with
  | error failure =>
      refine .kept (.loadFailed ?_)
      simp [Restores, search]
  | ok found =>
      cases found with
      | none =>
          refine .kept (.loadFailed ?_)
          simp [Restores, search]
      | some found =>
          simp only [restore]
          cases loaded : Save.File.load console.disk found.path with
          | error failure =>
              refine .kept (.loadFailed ?_)
              simp [Restores, search, loaded]
          | ok file =>
              simp only
              cases restored : file.restore with
              | error failure =>
                  refine .kept (.loadFailed ?_)
                  simp [Restores, search, loaded, restored]
              | ok flags =>
                  exact .restored inactive ⟨found, file, search, loaded, restored⟩

private theorem course_unlessActive
    {command : Command} {action : String} {change : Reply}
    (keeps : console.session.isActive = true → Keeps setting console command)
    (course : console.session.isActive = false →
      Course setting console command change.console) :
    Course setting console command (console.unlessActive action change).console := by
  unfold unlessActive
  cases active : console.session.isActive with
  | true =>
      exact .kept (keeps active)
  | false =>
      exact course active

/-- What a command makes of the console if it is not refused for being a developer's. -/
theorem course_perform
    (command : Command)
    (allowed : command.isDeveloperOnly = true → setting.developer = true) :
    Course setting console command (console.perform setting command).console := by
  cases command with
  | talk trigger =>
      exact course_talk trigger
  | advance =>
      exact course_advance
  | select number =>
      exact course_select number
  | close =>
      exact course_close
  | set assignment =>
      exact course_unlessActive (.setOpen assignment)
        fun inactive => course_set (allowed rfl) inactive assignment
  | unset name =>
      exact course_unlessActive (.unsetOpen name) fun inactive =>
        .erased name (allowed rfl) inactive
  | save slot =>
      exact .saved slot
  | load slot =>
      exact course_unlessActive (.loadOpen slot) fun inactive =>
        course_load inactive slot
  | triggers =>
      exact .kept .triggers
  | flags =>
      exact .kept .flags
  | listSaves =>
      exact .kept .listSaves
  | help =>
      exact .kept .help
  | quit =>
      exact .kept .quit
  | unknown =>
      exact .kept .unknown

private theorem quit_unlessActive
    {action : String} {change : Reply}
    (stays : change.quit = false) :
    (console.unlessActive action change).quit = false := by
  unfold unlessActive
  split
  · rfl
  · exact stays

/-- Only one command leaves. -/
theorem quit_perform
    {command : Command}
    (other : command ≠ .quit) :
    (console.perform setting command).quit = false := by
  cases command with
  | talk trigger =>
      simp only [perform, talk]
      split
      · rfl
      · rfl
  | advance =>
      simp only [perform, advance]
      split
      · rfl
      · split
        · rfl
        · rfl
  | select number =>
      cases number with
      | zero =>
          rfl
      | succ index =>
          rfl
  | close =>
      simp only [perform, close]
      split
      · rfl
      · rfl
  | set assignment =>
      refine quit_unlessActive ?_
      unfold set
      split
      · rfl
      · rfl
  | unset name =>
      exact quit_unlessActive rfl
  | load slot =>
      refine quit_unlessActive ?_
      unfold load
      split
      · rfl
      · rfl
      · unfold restore
        split
        · rfl
        · split
          · rfl
          · rfl
  | quit =>
      exact absurd rfl other
  | _ =>
      rfl

/-- A command for developers is refused by a setting without them, and nothing
else happens. -/
theorem execute_of_refused
    {command : Command}
    (forDevelopers : command.isDeveloperOnly = true)
    (noDeveloper : setting.developer = false) :
    console.execute setting command =
      { console,
        items := [.problem "Developer commands are disabled in this build."] } := by
  simp [execute, forDevelopers, noDeveloper]

/-- A command that is not refused is carried out, and the console settles. -/
theorem execute_of_allowed
    {command : Command}
    (allowed : command.isDeveloperOnly = true → setting.developer = true)
    (other : command ≠ .quit) :
    console.execute setting command =
      { console.perform setting command with
        console := (console.perform setting command).console.settle } := by
  have guard : (command.isDeveloperOnly && !setting.developer) = false := by
    simpa using allowed
  simp [execute, guard, quit_perform other]

/-- A command for all players does what it is for; then a closed dialogue is
forgotten. -/
theorem execute_eq_settled
    {command : Command}
    (forAll : command.isDeveloperOnly = false)
    (other : command ≠ .quit) :
    console.execute setting command =
      { console.perform setting command with
        console := (console.perform setting command).console.settle } :=
  execute_of_allowed (by simp [forAll]) other

/-- Only the command to quit ends the program. -/
theorem quit_execute_iff {command : Command} :
    (console.execute setting command).quit = true ↔ command = .quit := by
  constructor
  · intro leaves
    by_cases isQuit : command = .quit
    · exact isQuit
    · by_cases refused : command.isDeveloperOnly = true ∧ setting.developer = false
      · rw [execute_of_refused refused.1 refused.2] at leaves
        cases leaves
      · rw [execute_of_allowed (by simpa using refused) isQuit,
          quit_perform isQuit] at leaves
        cases leaves
  · rintro rfl
    rfl

/-- The console after a command is what the command made of it, settled; or the
console before it, if it was refused or leaves. -/
theorem exists_course_of_execute (command : Command) :
    ∃ next, Course setting console command next ∧
      ((console.execute setting command).console = next.settle ∨
        (console.execute setting command).console = console ∧ next = console) := by
  by_cases refused : command.isDeveloperOnly = true ∧ setting.developer = false
  · rw [execute_of_refused refused.1 refused.2]
    exact ⟨console, .kept (.forDevelopers refused.1 refused.2), .inr ⟨rfl, rfl⟩⟩
  · have allowed : command.isDeveloperOnly = true → setting.developer = true := by
      simpa using refused
    have course :
        Course setting console command (console.perform setting command).console :=
      course_perform command allowed
    refine ⟨_, course, ?_⟩
    by_cases leaves : command = .quit
    · subst leaves
      exact .inr ⟨rfl, rfl⟩
    · rw [execute_of_allowed allowed leaves]
      exact .inl rfl

end Inversion

/-- A setting for developers, over no dialogues. -/
def developing : Setting where
  graph := {}
  saveDirectory := "saves"
  developer := true

end Colloquy.Console
