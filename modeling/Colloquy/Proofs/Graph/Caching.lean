import Colloquy.Proofs.Graph.Triggers

/-!
# The kept table of triggers

A trigger map makes its table of start nodes when a name is first looked up,
keeps it, and drops it when an entry is added. So a table that is kept is always
the one that would be made now, and each look-up answers like a search through
the entries added so far.
-/

namespace Colloquy.Graph

/-- Whether an entry answers a name. Blanks around names do not count, and
nothing answers a blank name. -/
def answersTo (name : String) (entry : String × Option NodeId) : Bool :=
  Text.trim entry.1 == Text.trim name && !(Text.trim entry.1).isEmpty && entry.2.isSome

/-- The node of the first entry that answers a name. -/
def search? (entries : List (String × Option NodeId)) (name : String) : Option NodeId :=
  (entries.find? (answersTo name)).bind (·.2)

theorem answersTo_iff {name : String} {entry : String × Option NodeId} :
    answersTo name entry = true ↔
      Text.trim entry.1 = Text.trim name ∧ Text.trim name ≠ "" ∧
        entry.2.isSome = true := by
  simp only [answersTo, Bool.and_eq_true, Bool.not_eq_true', beq_iff_eq, and_assoc]
  apply and_congr_right
  intro sameName
  simp [sameName]

private theorem startUnder_of_answersTo
    {name : String} {entry : String × Option NodeId}
    (answers : answersTo name entry = true) :
    startUnder (Text.trim name) entry = entry.2 := by
  obtain ⟨sameName, named, -⟩ := answersTo_iff.1 answers
  rw [startUnder, if_pos ⟨sameName, named⟩]

private theorem startUnder_of_not_answersTo
    {name : String} {entry : String × Option NodeId}
    (answers : ¬ answersTo name entry = true) :
    startUnder (Text.trim name) entry = none := by
  rw [answersTo_iff] at answers
  unfold startUnder
  split
  · rename_i isNamed
    simpa [isNamed.1, isNamed.2] using answers
  · rfl

private theorem search?_eq_findSome?
    (entries : List (String × Option NodeId)) (name : String) :
    search? entries name = entries.findSome? (startUnder (Text.trim name)) := by
  induction entries with
  | nil =>
      rfl
  | cons head tail inductionHypothesis =>
      rw [search?] at inductionHypothesis ⊢
      by_cases answers : answersTo name head = true
      · obtain ⟨node, isNode⟩ :=
          Option.isSome_iff_exists.1 (answersTo_iff.1 answers).2.2
        rw [List.find?_cons_of_pos answers, List.findSome?_cons,
          startUnder_of_answersTo answers, isNode, Option.bind_some, isNode]
      · rw [List.find?_cons_of_neg answers, List.findSome?_cons,
          startUnder_of_not_answersTo answers, inductionHypothesis]

namespace TriggerMap

/-- The table, if one is kept, is that of the entries. -/
def Current (map : TriggerMap) : Prop :=
  ∀ table, map.table = some table → table = triggerTable map.entries

/-- A new map is current. -/
theorem current_ofEntries (entries : List (String × Option NodeId)) :
    (ofEntries entries).Current := by
  intro table kept
  cases kept

private theorem current_push (map : TriggerMap) (name : String) (node : Option NodeId) :
    (map.push name node).Current := by
  intro table kept
  cases kept

section

variable {map : TriggerMap}

private theorem Current.currentTable_eq (current : map.Current) :
    map.currentTable = triggerTable map.entries := by
  rw [currentTable]
  cases kept : map.table with
  | none =>
      rfl
  | some table =>
      exact current table kept

theorem Current.prepare (current : map.Current) : map.prepare.Current := by
  intro table kept
  rw [← Option.some.inj kept]
  exact current.currentTable_eq

/-- A current map answers like a search through its entries. -/
theorem Current.start?_eq (current : map.Current) (name : String) :
    map.start? name = search? map.entries name := by
  rw [start?, current.currentTable_eq, find?_triggerTable, search?_eq_findSome?]

end

/-! ## Calls -/

/-- A call that adds an entry, makes the table, or looks a name up. -/
inductive Call where
  | push (name : String) (node : Option NodeId)
  | prepare
  | start (name : String)
  deriving DecidableEq, Repr

/-- The map after a call. A look-up leaves the table behind that it made or found. -/
def afterCall (map : TriggerMap) : Call → TriggerMap
  | .push name node => map.push name node
  | .prepare => map.prepare
  | .start _ => map.prepare

def afterCalls (map : TriggerMap) (calls : List Call) : TriggerMap :=
  calls.foldl afterCall map

/-- What the look-ups among calls answer, in order. -/
def answers (map : TriggerMap) : List Call → List (Option NodeId)
  | [] => []
  | .start name :: rest => map.start? name :: (map.afterCall (.start name)).answers rest
  | call :: rest => (map.afterCall call).answers rest

def Call.pushed? : Call → Option (String × Option NodeId)
  | .push name node => some (name, node)
  | .prepare => none
  | .start _ => none

def pushed (calls : List Call) : List (String × Option NodeId) :=
  calls.filterMap Call.pushed?

/-- What searches through the entries added so far answer in place of the look-ups. -/
def searched (entries : List (String × Option NodeId)) :
    List Call → List (Option NodeId)
  | [] => []
  | .push name node :: rest => searched (entries ++ [(name, node)]) rest
  | .prepare :: rest => searched entries rest
  | .start name :: rest => search? entries name :: searched entries rest

section Runs

variable {map : TriggerMap}

private theorem Current.afterCall
    (current : map.Current) (call : Call) : (map.afterCall call).Current := by
  cases call with
  | push name node =>
      exact current_push map name node
  | prepare =>
      exact current.prepare
  | start name =>
      exact current.prepare

/-- Calls keep a map current. -/
theorem Current.afterCalls (current : map.Current) (calls : List Call) :
    (map.afterCalls calls).Current := by
  induction calls generalizing map with
  | nil =>
      exact current
  | cons call rest inductionHypothesis =>
      exact inductionHypothesis (current.afterCall call)

private theorem entries_afterCall (map : TriggerMap) (call : Call) :
    (map.afterCall call).entries = map.entries ++ call.pushed?.toList := by
  cases call with
  | push name node =>
      rfl
  | prepare =>
      exact (List.append_nil map.entries).symm
  | start name =>
      exact (List.append_nil map.entries).symm

private theorem entries_afterCalls (map : TriggerMap) (calls : List Call) :
    (map.afterCalls calls).entries = map.entries ++ pushed calls := by
  induction calls generalizing map with
  | nil =>
      exact (List.append_nil map.entries).symm
  | cons call rest inductionHypothesis =>
      rw [TriggerMap.afterCalls, List.foldl_cons, ← TriggerMap.afterCalls,
        inductionHypothesis, entries_afterCall, List.append_assoc, pushed, pushed,
        List.filterMap_cons]
      cases call.pushed? with
      | none =>
          rfl
      | some entry =>
          rfl

private theorem Current.answers_eq (current : map.Current) (calls : List Call) :
    map.answers calls = searched map.entries calls := by
  induction calls generalizing map with
  | nil =>
      rfl
  | cons call rest inductionHypothesis =>
      have later := inductionHypothesis (current.afterCall call)
      cases call with
      | push name node =>
          exact later
      | prepare =>
          exact later
      | start name =>
          rw [answers, later, current.start?_eq name]
          rfl

end Runs

/-- Each look-up answers like a search through the entries added so far. After
any calls a map answers all later ones like a new map of these entries: it makes
no difference when names were looked up and when the table was made. -/
theorem lookup_is_never_stale
    (entries : List (String × Option NodeId)) (calls : List Call) :
    (ofEntries entries).answers calls = searched entries calls ∧
      ∀ later, ((ofEntries entries).afterCalls calls).answers later =
        (ofEntries (entries ++ pushed calls)).answers later := by
  have current := current_ofEntries entries
  refine ⟨current.answers_eq calls, ?_⟩
  intro later
  rw [(current.afterCalls calls).answers_eq, (current_ofEntries _).answers_eq,
    entries_afterCalls]
  rfl

/-- Between the look-ups a trigger that starts nowhere is added again twice,
with a node each time. -/
example :
    (ofEntries [(" gate", none)]).answers
        [.start "gate", .push "gate " (some ⟨1⟩), .prepare, .start " gate",
          .push "gate" (some ⟨2⟩),
          .start "gate", .push " " (some ⟨3⟩), .start ""] =
      [none, some ⟨1⟩, some ⟨1⟩, none] := by
  decide +kernel

end TriggerMap

end Colloquy.Graph
