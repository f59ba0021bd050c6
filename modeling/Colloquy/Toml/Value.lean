/-!
# TOML values

What a TOML document says, and how its lines build it up. Tables remember how
they came about, because that decides whether later lines may add to them.
-/

namespace Colloquy.Toml

inductive Origin where
  /-- By a header of its own, or as the document. -/
  | header
  /-- As a step on the way to another header's table. -/
  | step
  | dotted
  | braces
  deriving DecidableEq, Repr

/-- A TOML value. Numbers with fractions and points in time are kept without
their content. -/
inductive Value where
  | text (value : String)
  | integer (value : Int)
  | float
  | datetime
  | boolean (value : Bool)
  | array (items : List Value)
  | table (origin : Origin) (entries : List (String × Value))
  /-- An array of tables, each with a header of its own. -/
  | tables (items : List (List (String × Value)))
  deriving Inhabited

abbrev Entries := List (String × Value)

def Entries.replace (entries : Entries) (key : String) (value : Value) : Entries :=
  entries.map fun entry => if entry.1 = key then (key, value) else entry

/-- Adds a key below dotted steps. Steps may only pass through tables that
dotted keys or headers implied, and must end in one that dotted keys made. -/
def insertKey (entries : Entries) (key : String) (value : Value) :
    List String → Option Entries
  | [] => if (entries.lookup key).isSome then none else some (entries ++ [(key, value)])
  | step :: steps =>
    match entries.lookup step with
    | none =>
      (insertKey [] key value steps).map fun inner =>
        entries ++ [(step, .table .dotted inner)]
    | some (.table found inner) =>
      if found = .header ∨ found = .braces ∨ (steps.isEmpty ∧ found ≠ .dotted) then none
      else
        (insertKey inner key value steps).map fun inner =>
          entries.replace step (.table found inner)
    | some (.tables items) =>
      match items.getLast? with
      | none => none
      | some last =>
        if steps.isEmpty then none
        else
          (insertKey last key value steps).map fun inner =>
            entries.replace step (.tables (items.dropLast ++ [inner]))
    | some _ => none

/-- Opens the table at a path of keys. A table has one header, and dotted keys
allow none. -/
def openTable (entries : Entries) : List String → Option Entries
  | [] => some entries
  | [key] =>
    match entries.lookup key with
    | none => some (entries ++ [(key, .table .header [])])
    | some (.table .step inner) => some (entries.replace key (.table .header inner))
    | some _ => none
  | step :: steps =>
    match entries.lookup step with
    | none =>
        (openTable [] steps).map fun inner => entries ++ [(step, .table .step inner)]
    | some (.table .braces _) => none
    | some (.table found inner) =>
      (openTable inner steps).map fun inner => entries.replace step (.table found inner)
    | some (.tables items) =>
      match items.getLast? with
      | none => none
      | some last =>
        (openTable last steps).map fun inner =>
          entries.replace step (.tables (items.dropLast ++ [inner]))
    | some _ => none

def openElement (entries : Entries) : List String → Option Entries
  | [] => some entries
  | [key] =>
    match entries.lookup key with
    | none => some (entries ++ [(key, .tables [[]])])
    | some (.tables items) => some (entries.replace key (.tables (items ++ [[]])))
    | some _ => none
  | step :: steps =>
    match entries.lookup step with
    | none =>
        (openElement [] steps).map fun inner => entries ++ [(step, .table .step inner)]
    | some (.table .braces _) => none
    | some (.table found inner) =>
      (openElement inner steps).map fun inner =>
        entries.replace step (.table found inner)
    | some (.tables items) =>
      match items.getLast? with
      | none => none
      | some last =>
        (openElement last steps).map fun inner =>
          entries.replace step (.tables (items.dropLast ++ [inner]))
    | some _ => none

/-- Changes the entries of the table at a path of keys that was opened before. -/
def updateAt (change : Entries → Option Entries) (entries : Entries) :
    List String → Option Entries
  | [] => change entries
  | step :: steps =>
    match entries.lookup step with
    | some (.table found inner) =>
      (updateAt change inner steps).map fun inner =>
        entries.replace step (.table found inner)
    | some (.tables items) =>
      match items.getLast? with
      | none => none
      | some last =>
        (updateAt change last steps).map fun inner =>
          entries.replace step (.tables (items.dropLast ++ [inner]))
    | _ => none

end Colloquy.Toml
