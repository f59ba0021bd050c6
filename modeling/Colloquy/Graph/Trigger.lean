import Colloquy.Flag.Bindings
import Colloquy.Text.Blank

/-!
# Triggers

The authored triggers of a graph, in order, with a look-up table that is made on
first use and kept until the next addition. The first entry of a name that has a
node counts.
-/

namespace Colloquy.Graph

open Colloquy.Flag (Bindings)

structure SpeakerId where
  index : Nat
  deriving DecidableEq, Repr

structure NodeId where
  index : Nat
  deriving DecidableEq, Repr

structure ChoiceId where
  index : Nat
  deriving DecidableEq, Repr

/-- Adds an entry to a table, unless its name is blank or already there, or it
has no node. -/
def addEntry
    (table : Bindings NodeId) (entry : String × Option NodeId) : Bindings NodeId :=
  let name := Text.trim entry.1
  match entry.2 with
  | none => table
  | some node =>
      if name.isEmpty || table.contains name then table else table.insert name node

def triggerTable (entries : List (String × Option NodeId)) : Bindings NodeId :=
  entries.foldl addEntry .empty

/-- Triggers in authored order and, once made, their look-up table. -/
structure TriggerMap where
  /-- The names and start nodes, in authored order. -/
  entries : List (String × Option NodeId) := []
  /-- The table of start nodes, if it has been made since the last addition. -/
  table : Option (Bindings NodeId) := none
  deriving Inhabited

namespace TriggerMap

def ofEntries (entries : List (String × Option NodeId)) : TriggerMap :=
  { entries }

/-- Adds an entry at the end and drops the table. -/
def push (map : TriggerMap) (name : String) (node : Option NodeId) : TriggerMap :=
  { entries := map.entries ++ [(name, node)] }

/-- The kept table, or a new one. -/
def currentTable (map : TriggerMap) : Bindings NodeId :=
  map.table.getD (triggerTable map.entries)

/-- Makes and keeps the table, unless there is one. -/
def prepare (map : TriggerMap) : TriggerMap :=
  { map with table := some map.currentTable }

def start? (map : TriggerMap) (name : String) : Option NodeId :=
  map.currentTable.find? (Text.trim name)

def names (map : TriggerMap) : List String :=
  map.entries.map (·.1)

def size (map : TriggerMap) : Nat :=
  map.entries.length

end TriggerMap

end Colloquy.Graph
