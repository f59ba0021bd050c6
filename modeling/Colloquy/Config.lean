import Colloquy.Failure

/-!
# Configuration

What a run of the program can be told by a file. Each setting has a default; a
file that cannot be read, or that gives a setting a value of another kind,
counts as absent.
-/

namespace Colloquy

open Colloquy.Storage (Disk)
open Colloquy.Toml (Value Entries)

structure Config where
  dialogue : String := "dialogue.ron"
  saveDirectory : String := "saved_flags"
  history : Bool := true
  localized : Bool := false
  tablesDirectory : String := "tables"
  deriving DecidableEq, Inhabited

namespace Config

def fileName : String := "parley.toml"

def dialoguePath (dataRoot : String) (config : Config) : String :=
  Storage.join dataRoot config.dialogue

def tablesPath (dataRoot : String) (config : Config) : String :=
  Storage.join dataRoot config.tablesDirectory

def text? : Value → Option String
  | .text value => some value
  | _ => none

def boolean? : Value → Option Bool
  | .boolean value => some value
  | _ => none

/-- A setting of a table, or its default. -/
def setting? {α : Type} (entries : Entries) (key : String) (default : α)
    (read : Value → Option α) : Option α :=
  match entries.lookup key with
  | none => some default
  | some value => read value

def element? {α : Type} (items : List Value) (index : Nat) (default : α)
    (read : Value → Option α) : Option α :=
  match items[index]? with
  | none => some default
  | some value => read value

/-- The settings of localization, as a table or by position. -/
def readLocalization? (config : Config) : Value → Option Config
  | .table _ entries => do
    some { config with
      localized := ← setting? entries "enabled" config.localized boolean?
      tablesDirectory := ← setting? entries "tables_dir" config.tablesDirectory text? }
  | .array items => do
    some { config with
      localized := ← element? items 0 config.localized boolean?
      tablesDirectory := ← element? items 1 config.tablesDirectory text? }
  | _ => none

def ofEntries? (entries : Entries) : Option Config := do
  let default : Config := {}
  let config : Config := {
    dialogue := ← setting? entries "dialogue" default.dialogue text?
    saveDirectory := ← setting? entries "save_dir" default.saveDirectory text?
    history := ← setting? entries "history" default.history boolean? }
  setting? entries "localization" config (readLocalization? config)

def load? (disk : Disk) (path : String) : Option Config := do
  let text ← (disk.readText path).toOption
  let entries ← (Toml.readDocument text).toOption
  ofEntries? entries

/-- The settings in a file, or the defaults. -/
def load (disk : Disk) (path : String) : Config :=
  (load? disk path).getD {}

end Config

end Colloquy
