import Colloquy.Config
import Colloquy.Graph.Load
import Colloquy.Localization.Load
import Colloquy.Play

/-!
# Program

What the program does with the files it finds: it looks for its data, reads its
settings, the dialogue and the localized texts, greets the player, and plays.
-/

namespace Colloquy.Program

open Colloquy.Storage (Disk)

structure Invocation where
  /-- The data directory, if one is named. -/
  data : Option String := none
  opening : Option String := none
  coloured : Bool := false
  developer : Bool := false

def dataVariable : String := "PARLEY_DATA"

/-- Where data is looked for, in order, if no directory is named. -/
def dataDirectories : List String := ["parley_engine/data", "data"]

def defaultData : String := "parley_engine/data"

def dataRoot (disk : Disk) (named : Option String) : String :=
  named.getD ((dataDirectories.find? disk.isDirectory).getD defaultData)

/-- Whether output is coloured: it is if that is forced; otherwise it is not if
that is refused, and else it is on a terminal unless colours are turned off.
Each wish is the value of a variable. -/
def wantsColour (forced refused allowed : Option String) (onTerminal : Bool) : Bool :=
  if forced.any (· != "0") then true
  else if refused.isSome then false
  else onTerminal && allowed.all (· != "0")

def config (disk : Disk) (root : String) : Config :=
  Config.load disk (Storage.join root Config.fileName)

def graph (disk : Disk) (root : String) (config : Config) : Except Failure Graph :=
  let path := config.dialoguePath root
  (Graph.load disk path).mapError
    (.within ("while loading dialogue from '" ++ path ++ "'"))

/-- The localized texts. Tables that cannot be read count as none. -/
def localizer (disk : Disk) (root : String) (config : Config) : Localizer :=
  if config.localized then
    match Localizer.loadTables disk (config.tablesPath root) with
    | .ok tables => .tables tables
    | .error _ => .passThrough
  else .passThrough

/-- The files of the tables that a dialogue names. -/
def tableFiles (root : String) (config : Config) (graph : Graph) : List String :=
  let named := graph.speakers.map (·.table) ++ graph.nodes.map (·.table) ++
    graph.choices.map (·.table)
  (named.filterMap id).map fun table =>
    Storage.join (config.tablesPath root) (Text.trim table ++ ".toml")

def prepare (disk : Disk) (invocation : Invocation) : Except Failure Play := do
  let root := dataRoot disk invocation.data
  let config := config disk root
  return {
    graph := ← graph disk root config
    localizer := localizer disk root config
    saveDirectory := config.saveDirectory
    developer := invocation.developer
    coloured := invocation.coloured }

def greeting (coloured : Bool) : String :=
  Terminal.paint coloured Terminal.titleStyle ("PARLEY v" ++ Save.currentVersion) ++
    "\n" ++
    "Type 'triggers' to see who is ready to talk, or 'help' for commands.\n"

def run (disk : Disk) (invocation : Invocation) (lines : List InputLine) :
    Except Failure Play.Outcome := do
  let play ← prepare disk invocation
  let outcome := play.run { disk } invocation.opening lines
  return { outcome with output := greeting invocation.coloured :: outcome.output }

/-- A cause in a report, under its number unless it is the only one. Its further
lines are indented as far as its first. -/
def reportCause (number : Option Nat) (cause : String) : List String :=
  let first := match number with
    | some index => "    " ++ Number.showNat index ++ ": "
    | none => "    "
  let further := String.ofList (List.replicate first.length ' ')
  match cause.splitOn "\n" with
  | [] => [first]
  | line :: others => (first ++ line) :: others.map (further ++ ·)

/-- The causes in a report, numbered from zero if there are several. -/
def reportCauses : List String → List String
  | [] => []
  | [cause] => "" :: "Caused by:" :: reportCause none cause
  | causes =>
    "" :: "Caused by:" ::
      causes.zipIdx.flatMap fun entry => reportCause (some entry.2) entry.1

/-- The lines of the report of a failure, given the wordings of its activities
and its cause. -/
def report : List String → List String
  | [] => []
  | outermost :: causes => ("Error: " ++ outermost) :: reportCauses causes

end Colloquy.Program
