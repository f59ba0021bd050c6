import Colloquy.Flag.Bindings
import Colloquy.Text.Blank

/-!
# Localization

Display texts are localized on presentation; the authored text is the key. A
failed look-up shows the authored text and never stops a dialogue.
-/

namespace Colloquy

open Colloquy.Flag (Bindings)

inductive Localizer where
  | passThrough
  /-- Named tables from authored to localized texts. -/
  | tables (all : Bindings (Bindings String))

namespace Localizer

inductive Error where
  | missingTable (table : String)
  | missingEntry (table entry : String)
  deriving DecidableEq, Repr

def Error.message : Error → String
  | .missingTable table => "localization table '" ++ table ++ "' could not be found"
  | .missingEntry table entry =>
    "entry '" ++ entry ++ "' is missing from localization table '" ++ table ++ "'"

def resolve : Localizer → String → String → Except Error String
  | .passThrough, _, entry => .ok entry
  | .tables all, table, entry =>
    match all.find? table with
    | none => .error (.missingTable table)
    | some entries =>
      match entries.find? entry with
      | none => .error (.missingEntry table entry)
      | some localized => .ok localized

end Localizer

/-- What sessions know of a source of localized texts: the localized form of an
entry of a table. -/
structure Resolver where
  /-- The localized form, or why there is none. -/
  resolve : String → String → Except Localizer.Error String

instance : Coe Localizer Resolver := ⟨fun localizer => ⟨localizer.resolve⟩⟩

/-- The text to show: the localized form in the named table, or the entry itself
if no table is named or the look-up fails. -/
def Resolver.localize
    (resolver : Resolver) (table : Option String) (entry : String) : String :=
  match table with
  | none => entry
  | some name =>
    let trimmed := Text.trim name
    if trimmed.isEmpty then entry
    else
      match resolver.resolve trimmed entry with
      | .ok localized => localized
      | .error _ => entry

def Localizer.localize (localizer : Localizer) : Option String → String → String :=
  Resolver.localize localizer

end Colloquy
