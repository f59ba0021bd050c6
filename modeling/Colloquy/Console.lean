import Colloquy.Command
import Colloquy.Save.Slots
import Colloquy.Session

/-!
# Console

Executes commands. A console holds one session with its flags; each command
answers with items for the player. Flags are written directly, and restored from
saves, only while no dialogue is open.
-/

namespace Colloquy

open Colloquy.Flag (Assignment Snapshot Store)
open Colloquy.Storage (Disk)

/-- What a console works with, from beginning to end. -/
structure Setting where
  graph : Graph
  localizer : Localizer := .passThrough
  saveDirectory : String
  developer : Bool := false

structure Console where
  session : Session := {}
  flags : Store := .empty
  activeTrigger : Option String := none
  disk : Disk := {}

namespace Console

inductive Item where
  | event (event : Session.Event)
  | notice (message : String)
  | problem (message : String)
  | triggers (names : List String)
  | flags (snapshot : Snapshot)
  | saves (entries : List Save.Entry)
  | help
  deriving DecidableEq

structure Reply where
  console : Console
  /-- What the player is shown, in order. -/
  items : List Item := []
  quit : Bool := false

def prompt (console : Console) : String :=
  match console.session.phase with
  | .choosing => "[1-" ++ Number.showNat console.session.pending.length ++ "]> "
  | .presenting => "[enter]> "
  | .idle => "parley> "
  | .terminal => "parley> "

def follow {α : Type} (console : Console) (step : Session.Step α) : Console :=
  { console with session := step.session, flags := step.flags }

/-- The reply to a call of the session: its events, or what the player is told
of its error. -/
def reply {α : Type} (console : Console) (step : Session.Step α)
    (describe : Session.Error → String) : Reply where
  console := console.follow step
  items := step.events.map Item.event ++
    match step.answer with
    | .ok _ => []
    | .error error => [.problem (describe error)]

def describeError (error : Session.Error) : String :=
  error.message ++ "."

def describeStartError : Session.Error → String
  | .alreadyActive =>
      "A conversation is already under way. Finish it or 'close' it first."
  | error => describeError error

def describeSelectError (number : Nat) : Session.Error → String
  | .invalidSelection _ issue =>
      "Choice " ++ Number.showNat number ++ ": " ++ issue.message ++ "."
  | error => describeError error

def talk (setting : Setting) (console : Console) (trigger : String) : Reply :=
  let step :=
    console.session.start setting.graph setting.localizer console.flags trigger
  let answer := console.reply step describeStartError
  match step.answer with
  | .ok _ => { answer with console.activeTrigger := some (Text.trim trigger) }
  | .error _ => answer

def advance (setting : Setting) (console : Console) : Reply :=
  if !console.session.isActive then
    { console, items := [.notice "No conversation is open. Try 'talk <trigger>'."] }
  else if console.session.phase = .choosing then
    { console, items := [.notice "Pick one of the choices by number."] }
  else
    console.reply
      (console.session.advance setting.graph setting.localizer console.flags)
      describeError

/-- Takes the choice of a number, counted from one. -/
def select (setting : Setting) (console : Console) (number : Nat) : Reply :=
  match number with
  | 0 => { console, items := [.problem "Choices are numbered from 1."] }
  | index + 1 =>
    console.reply
      (console.session.select setting.graph setting.localizer console.flags index)
      (describeSelectError number)

def close (console : Console) : Reply :=
  if console.session.isActive then
    console.reply (console.session.close console.flags) describeError
  else { console, items := [.notice "No conversation is open."] }

/-- Does something to the flags, unless a dialogue is open. -/
def unlessActive (console : Console) (action : String) (change : Reply) : Reply :=
  if console.session.isActive then
    { console,
      items :=
        [.problem ("Close the conversation before you " ++ action ++ " flags.")] }
  else change

def set (console : Console) (assignment : Assignment) : Reply :=
  match assignment.write? console.flags with
  | some flags => {
      console := { console with flags }
      items := [.notice ("Flag '" ++ Text.trim assignment.name ++ "' set.")] }
  | none => {
      console
      items := [.problem ("'" ++ assignment.name ++
        "' is not a valid flag name: names may not contain '>', '<', '=' or '!'.")] }

/-- Removes a flag of any kind. -/
def unset (console : Console) (name : String) : Reply where
  console := { console with flags := console.flags.remove name }
  items := [.notice ("Flag '" ++ name ++ "' cleared.")]

def save (setting : Setting) (console : Console) (slot : String) : Reply :=
  let written :=
    Save.write console.disk setting.saveDirectory slot console.flags
      console.activeTrigger
  { console := { console with disk := written.2 }
    items := match written.1 with
      | .ok path => [.notice ("Flags saved to " ++ path ++ ".")]
      | .error failure => [.problem ("Could not save: " ++ failure.inline)] }

def versionNotice : Save.Status → List Item
  | .otherVersion version =>
    [.notice ("Save was written by v" ++ version ++ "; this is v" ++
      Save.currentVersion ++ ".")]
  | _ => []

def loadProblem (slot : String) (failure : Failure) : Item :=
  .problem ("Could not load '" ++ slot ++ "': " ++ failure.inline)

def restore (console : Console) (slot : String) (found : Save.Slot) : Reply :=
  match Save.File.load console.disk found.path with
  | .error failure => { console, items := [loadProblem slot failure] }
  | .ok file =>
    match file.restore with
    | .error failure =>
      { console, items := versionNotice file.status ++ [loadProblem slot failure] }
    | .ok flags => {
        console := { console with flags }
        items := versionNotice file.status ++
          [.notice ("Flags restored from '" ++ found.slot ++ "'.")] }

def load (setting : Setting) (console : Console) (slot : String) : Reply :=
  match Save.find? console.disk setting.saveDirectory slot with
  | .error failure => { console, items := [loadProblem slot failure] }
  | .ok none =>
      { console, items := [.problem ("No save named '" ++ slot ++ "'. Try 'saves'.")] }
  | .ok (some found) => console.restore slot found

def listSaves (setting : Setting) (console : Console) : Reply where
  console := console
  items := match Save.entries console.disk setting.saveDirectory with
    | .ok entries => [.saves entries]
    | .error failure => [.problem ("Could not list saves: " ++ failure.inline)]

/-! ## Commands -/

def perform (setting : Setting) (console : Console) : Command → Reply
  | .talk trigger => console.talk setting trigger
  | .advance => console.advance setting
  | .select number => console.select setting number
  | .close => console.close
  | .triggers => { console, items := [.triggers setting.graph.triggers.names] }
  | .flags => { console, items := [.flags console.flags.exported] }
  | .set assignment => console.unlessActive "set" (console.set assignment)
  | .unset name => console.unlessActive "clear" (console.unset name)
  | .save slot => console.save setting slot
  | .load slot => console.unlessActive "load" (console.load setting slot)
  | .listSaves => console.listSaves setting
  | .help => { console, items := [.help] }
  | .quit => { console, quit := true }
  | .unknown =>
    { console,
      items := [.problem "Didn't quite catch that. Type 'help' for commands."] }

/-- Forgets the trigger if no dialogue is open. -/
def settle (console : Console) : Console :=
  if console.session.isActive then console else { console with activeTrigger := none }

/-- Executes a command. Commands for developers are refused unless they are allowed. -/
def execute (setting : Setting) (console : Console) (command : Command) : Reply :=
  if command.isDeveloperOnly && !setting.developer then
    { console, items := [.problem "Developer commands are disabled in this build."] }
  else
    let answer := console.perform setting command
    if answer.quit then answer else { answer with console := answer.console.settle }

end Console

end Colloquy
