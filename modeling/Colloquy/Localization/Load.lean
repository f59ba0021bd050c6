import Colloquy.Failure
import Colloquy.Localization

/-!
# Loading localization tables

A directory of TOML files, each of which is a table named after it that maps
texts to texts.
-/

namespace Colloquy.Localizer

open Colloquy.Flag (Bindings)
open Colloquy.Storage (Disk)

/-- The localized texts of a document: all its values must be texts. -/
def entriesOf : Toml.Entries → Option (Bindings String)
  | [] => some .empty
  | (key, .text value) :: rest =>
      (entriesOf rest).map fun entries => entries.insert key value
  | _ => none

def ofDocument (text : String) : Except Toml.Fault (Bindings String) := do
  match entriesOf (← Toml.readDocument text) with
  | some entries => return entries
  | none => .error .mismatch

/-- Adds the table of one file of a directory. Files of other kinds are passed over. -/
def loadTable (disk : Disk) (directory : String) (tables : Bindings (Bindings String))
    (name : String) : Except Failure (Bindings (Bindings String)) :=
  if Storage.extension? name ≠ some "toml" then .ok tables
  else do
    let path := Storage.join directory name
    let text ← doing ("reading " ++ path) (disk.readText path)
    let entries ← (ofDocument text).mapError fun fault =>
      { contexts := ["parsing localization table " ++ path], cause := .toml fault }
    return tables.insert (Storage.stem name) entries

def loadTables (disk : Disk) (directory : String) :
    Except Failure (Bindings (Bindings String)) := do
  let found ← doing ("reading localization tables in " ++ directory)
    (disk.list directory)
  (found.map (·.1)).foldlM (loadTable disk directory) .empty

end Colloquy.Localizer
