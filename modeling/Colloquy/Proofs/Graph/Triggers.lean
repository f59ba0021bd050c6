import Colloquy.Graph.Trigger

/-!
# Look-up of triggers

The table of triggers answers like a search through the entries: the first one
counts that has the name, which must not be blank, and a node.
-/

namespace Colloquy.Graph

open Colloquy.Flag (Bindings)

/-- The node that an entry gives a name, if it has that name when trimmed. -/
def startUnder (name : String) (entry : String × Option NodeId) : Option NodeId :=
  if Text.trim entry.1 = name ∧ name ≠ "" then entry.2 else none

private theorem find?_addEntry
    (table : Bindings NodeId) (entry : String × Option NodeId) (name : String) :
    (addEntry table entry).find? name =
      (table.find? name).or (startUnder name entry) := by
  obtain ⟨raw, node⟩ := entry
  cases node with
  | none =>
      simp [addEntry, startUnder]
  | some node =>
      by_cases here : Text.trim raw = name
      · by_cases blank : name = ""
        · simp [addEntry, startUnder, here, blank]
        · cases found : table.find? name with
          | none =>
              simp [addEntry, startUnder, here, blank, Bindings.contains, found]
          | some earlier =>
              simp [addEntry, here, Bindings.contains, found]
      · have elsewhere : startUnder name (raw, some node) = none := by
          simp [startUnder, here]
        rw [elsewhere, Option.or_none]
        simp only [addEntry]
        split
        · rfl
        · exact Bindings.find?_insert_of_ne table node (Ne.symm here)

/-- The table binds a name to the start of the first entry that has one under it. -/
theorem find?_triggerTable (entries : List (String × Option NodeId)) (name : String) :
    (triggerTable entries).find? name = entries.findSome? (startUnder name) := by
  have general :
      ∀ table : Bindings NodeId, (entries.foldl addEntry table).find? name =
        (table.find? name).or (entries.findSome? (startUnder name)) := by
    induction entries with
    | nil =>
        intro table
        simp
    | cons head tail inductionHypothesis =>
        intro table
        rw [List.foldl_cons, inductionHypothesis, find?_addEntry, Option.or_assoc,
          List.findSome?_cons]
        cases startUnder name head with
        | none =>
            simp
        | some node =>
            simp
  simpa [triggerTable] using general .empty

end Colloquy.Graph
