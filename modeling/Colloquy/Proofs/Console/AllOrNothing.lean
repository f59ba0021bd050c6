import Colloquy.Proofs.Console.Triggers

/-!
# Loading is all or nothing

A load gives a console the flags of the save that it finds, and no others, or
leaves the console as it is and tells the player one problem.
-/

namespace Colloquy.Console

open Colloquy.Flag (Store)
open Colloquy.Storage (Disk)

/-- What a new console comes to by commands, while others change files between
the commands. -/
inductive Reachable (setting : Setting) : Console → Prop
  | new (disk : Disk) : Reachable setting { disk }
  | executed {console : Console} (command : Command) :
      Reachable setting console →
        Reachable setting (console.execute setting command).console
  | changedOutside {console : Console} (disk : Disk) :
      Reachable setting console → Reachable setting { console with disk }

section Reachable

variable {setting : Setting} {console : Console}

/-- No trigger is remembered while no dialogue is open. -/
theorem Reachable.forgotten
    (reachable : Reachable setting console) :
    console.session.isActive = false → console.activeTrigger = none := by
  induction reachable with
  | new disk =>
      exact fun _ => rfl
  | executed command _ inductionHypothesis =>
      exact activeTrigger_execute_of_inactive inductionHypothesis
  | changedOutside disk _ inductionHypothesis =>
      exact inductionHypothesis

end Reachable

def Item.problem? : Item → Option String
  | .problem message => some message
  | _ => none

def Reply.problems (reply : Reply) : List String :=
  reply.items.filterMap Item.problem?

private theorem filterMap_problem?_versionNotice (status : Save.Status) :
    (versionNotice status).filterMap Item.problem? = [] := by
  unfold versionNotice
  split
  · rfl
  · rfl

/-- Each stage of a load succeeds: no dialogue is open, a save is found, read
and understood, and the strict import of its flags comes to a store. -/
structure Loads (setting : Setting) (console : Console) (slot : String)
    (found : Save.Slot) (file : Save.File) (flags : Store) : Prop where
  isClosed : console.session.isActive = false
  isFound : Save.find? console.disk setting.saveDirectory slot = .ok (some found)
  isUnderstood : ∃ text, console.disk.readText found.path = .ok text ∧
    Save.File.ofDocument text = .ok file
  isImported : Store.ofSnapshotStrict file.flags = .ok flags

section Stages

variable {setting : Setting} {console : Console} {slot : String} {flags : Store}

private theorem exists_loads_iff :
    (∃ found file, Loads setting console slot found file flags) ↔
      console.session.isActive = false ∧ Restores setting console.disk slot flags := by
  constructor
  · rintro ⟨found, file, loads⟩
    exact ⟨loads.isClosed, found, file, loads.isFound,
      Save.File.load_eq_ok_iff.2 loads.isUnderstood,
      Save.File.restore_eq_ok_iff.2 loads.isImported⟩
  · rintro ⟨closed, found, file, isFound, isLoaded, isRestored⟩
    exact ⟨found, file, closed, isFound, Save.File.load_eq_ok_iff.1 isLoaded,
      Save.File.restore_eq_ok_iff.1 isRestored⟩

private theorem load_of_restores
    (restores : Restores setting console.disk slot flags) :
    (console.load setting slot).console = { console with flags } ∧
      (console.load setting slot).problems = [] := by
  obtain ⟨found, file, isFound, isLoaded, isRestored⟩ := restores
  simp only [load, isFound, restore, isLoaded, isRestored, Reply.problems,
    List.filterMap_append, filterMap_problem?_versionNotice, true_and]
  rfl

/-- A load that restores no flags changes nothing. It tells one problem, after
the notice about the version where that is due. -/
private theorem load_of_not_restores
    (fails : ∀ flags, ¬ Restores setting console.disk slot flags) :
    (console.load setting slot).console = console ∧
      ∃ message, (console.load setting slot).problems = [message] := by
  unfold load
  cases search : Save.find? console.disk setting.saveDirectory slot with
  | error failure =>
      exact ⟨rfl, _, rfl⟩
  | ok found =>
      cases found with
      | none =>
          exact ⟨rfl, _, rfl⟩
      | some found =>
          simp only [restore]
          cases isLoaded : Save.File.load console.disk found.path with
          | error failure =>
              exact ⟨rfl, _, rfl⟩
          | ok file =>
              simp only
              cases isRestored : file.restore with
              | ok flags =>
                  exact absurd ⟨found, file, search, isLoaded, isRestored⟩ (fails flags)
              | error failure =>
                  simp only [Reply.problems, List.filterMap_append,
                    filterMap_problem?_versionNotice, true_and]
                  exact ⟨_, rfl⟩

private theorem execute_load_of_active
    (active : console.session.isActive = true) :
    console.execute setting (.load slot) =
      { console, items := [.problem ("Close the conversation before you " ++ "load" ++
        " flags.")] } := by
  rw [execute_eq_settled rfl Command.noConfusion]
  simp [perform, unlessActive, active, settle_of_isActive]

private theorem execute_load_of_closed
    (closed : console.session.isActive = false) :
    console.execute setting (.load slot) =
      { console.load setting slot with
        console := (console.load setting slot).console.settle } := by
  rw [execute_eq_settled rfl Command.noConfusion]
  simp [perform, unlessActive, closed]

end Stages

/-! ## The law of loading -/

structure AllOrNothing
    (setting : Setting) (console : Console) (slot : String) : Prop where
  /-- The flags are those of the save, and nothing of the flags before is left. -/
  all : ∀ found file flags, Loads setting console slot found file flags →
    (console.execute setting (.load slot)).console = { console with flags } ∧
      (console.execute setting (.load slot)).problems = []
  nothing : (∀ found file flags, ¬ Loads setting console slot found file flags) →
    (console.execute setting (.load slot)).console = console ∧
      ∃ message, (console.execute setting (.load slot)).problems = [message]

/-- In every state that comes about, whatever there is in the directory of saves. -/
theorem load_is_all_or_nothing
    {setting : Setting} {console : Console}
    (reachable : Reachable setting console)
    (slot : String) :
    AllOrNothing setting console slot := by
  by_cases active : console.session.isActive = true
  · refine ⟨?_, fun _ => ?_⟩
    · intro found file flags loads
      exact absurd loads.isClosed (by simp [active])
    · rw [execute_load_of_active active]
      exact ⟨rfl, _, rfl⟩
  · have closed : console.session.isActive = false := Bool.eq_false_iff.2 active
    refine ⟨?_, ?_⟩
    · intro found file flags loads
      have restores := (exists_loads_iff.1 ⟨found, file, loads⟩).2
      obtain ⟨changed, noProblems⟩ := load_of_restores restores
      rw [execute_load_of_closed closed, changed]
      exact ⟨settle_eq_self _ reachable.forgotten, noProblems⟩
    · intro fails
      have notRestored : ∀ flags, ¬ Restores setting console.disk slot flags := by
        intro flags restores
        obtain ⟨found, file, loads⟩ := exists_loads_iff.2 ⟨closed, restores⟩
        exact fails found file flags loads
      obtain ⟨unchanged, oneProblem⟩ := load_of_not_restores notRestored
      rw [execute_load_of_closed closed, unchanged]
      exact ⟨settle_eq_self _ reachable.forgotten, oneProblem⟩

/-- A save of an earlier version, with presence flags alone. -/
def earlierFile (names : List String) : Save.File where
  version := "0.2.0"
  flags := { bools := names }

def earlierSlot : Save.Slot :=
  ⟨"slot", "0.2.0", "saves/slot-parley-0.2.0.ron", "slot-parley-0.2.0.ron", 1⟩

def earlierDisk (text : String) : Disk where
  items :=
    [(["saves"], .directory), (["saves", "slot-parley-0.2.0.ron"],
      .file (.text text) 1)]
  now := 2

private theorem find?_earlierDisk (text : String) :
    Save.find? (earlierDisk text) "saves" "slot" = .ok (some earlierSlot) := by
  have isThere : (earlierDisk text).exists? "saves" = true := by
    rfl
  have listed : (earlierDisk text).list "saves" =
      .ok [(earlierSlot.fileName, .file (.text text) 1)] := by
    rfl
  have told : Save.slotOfFileName? earlierSlot.fileName = some ("slot", "0.2.0") := by
    decide +kernel
  have isSlot : Save.slotOfItem? "saves" (earlierSlot.fileName, .file (.text text) 1) =
      some earlierSlot := by
    simp only [Save.slotOfItem?, told, Option.map_some]
    rfl
  have slots : Save.slots (earlierDisk text) "saves" = .ok [earlierSlot] := by
    rw [Save.slots, if_pos isThere, listed, doing_ok]
    refine congrArg Except.ok ?_
    rw [Save.slotsOfItems, List.filterMap_cons_some isSlot]
    exact List.mergeSort_singleton earlierSlot
  have picked : Save.pick? "slot" [earlierSlot] = some earlierSlot := by
    decide +kernel
  rw [Save.find?, slots]
  exact congrArg Except.ok picked

/-- A console with a flag, beside a save of the given text. -/
def besideSave (text : String) : Console :=
  { (({} : Console).execute developing (.set (.int "gold" 5))).console with
    disk := earlierDisk text }

private theorem reachable_besideSave (text : String) :
    Reachable developing (besideSave text) :=
  .changedOutside _ (.executed _ (.new {}))

private theorem loads_besideSave
    {text : String} {file : Save.File} {flags : Store}
    (isUnderstood : Save.File.ofDocument text = .ok file)
    (isImported : Store.ofSnapshotStrict file.flags = .ok flags) :
    Loads developing (besideSave text) "slot" earlierSlot file flags where
  isClosed := rfl
  isFound := find?_earlierDisk text
  isUnderstood := ⟨text, rfl, isUnderstood⟩
  isImported := isImported

private theorem not_loads_besideSave
    {text : String} {file : Save.File}
    (isUnderstood : Save.File.ofDocument text = .ok file)
    (isRefused : (Store.ofSnapshotStrict file.flags).isOk = false) :
    ∀ found other flags, ¬ Loads developing
      (besideSave text) "slot" found other flags := by
  intro found other flags loads
  have sameSlot : found = earlierSlot := by
    have isFound := loads.isFound.symm.trans (find?_earlierDisk text)
    simpa using isFound
  obtain ⟨read, isRead, isOther⟩ := loads.isUnderstood
  rw [sameSlot] at isRead
  have sameText : text = read := Except.ok.inj isRead
  rw [← sameText, isUnderstood] at isOther
  rw [Except.ok.inj isOther, loads.isImported] at isRefused
  cases isRefused

def wholeText : String :=
  "(version: \"0.2.0\", flags: (bools: [\"met\"]))"

/-- A name occurs twice. -/
def tornText : String :=
  "(version: \"0.2.0\", flags: (bools: [\"met\", \" met \"]))"

/-- The save with a name twice leaves the flag; the other puts its own flag in
its place. -/
theorem load_of_earlier_saves :
    Reachable developing (besideSave wholeText) ∧
      Reachable developing (besideSave tornText) ∧
      (besideSave tornText).flags.exported = { ints := [("gold", 5)] } ∧
      ((besideSave wholeText).execute developing
        (.load "slot")).console.flags.exported =
        { bools := ["met"] } ∧
      ((besideSave tornText).execute developing (.load "slot")).console =
        besideSave tornText ∧
      ∃ message,
        ((besideSave tornText).execute developing (.load "slot")).problems =
          [message] := by
  have whole : Save.File.ofDocument wholeText = .ok (earlierFile ["met"]) := by
    decide +kernel
  have torn : Save.File.ofDocument tornText = .ok (earlierFile ["met", " met "]) := by
    decide +kernel
  have refused :
      (Store.ofSnapshotStrict (earlierFile ["met", " met "]).flags).isOk = false := by
    decide +kernel
  have imported : Store.ofSnapshotStrict (earlierFile ["met"]).flags =
      .ok (Store.ofSnapshot (earlierFile ["met"]).flags) := by
    decide +kernel
  have replaced :=
    (load_is_all_or_nothing (reachable_besideSave wholeText) "slot").all _ _ _
    (loads_besideSave whole imported)
  have kept := (load_is_all_or_nothing (reachable_besideSave tornText) "slot").nothing
    (not_loads_besideSave torn refused)
  refine ⟨reachable_besideSave _, reachable_besideSave _, by decide +kernel, ?_, kept⟩
  rw [replaced.1]
  decide +kernel

end Colloquy.Console
