import Colloquy.Proofs.Graph.Caching
import Colloquy.Proofs.Text.Blank
import Colloquy.Proofs.Text.Bytes
import Colloquy.Script.Basic

/-!
# Sorting triggers

Sorted triggers are the same ones with trimmed names, in the order of the bytes
of their names, and those of one name stay in order. The first of them that has
a node is therefore the same as before, so that every name starts at the same
node.
-/

namespace Colloquy.Script

open Colloquy.Graph (NodeId TriggerMap answersTo search?)

/-- Sorting leaves entries in place among themselves that are in order. -/
theorem filter_mergeSort
    {α : Type} {notAfter : α → α → Bool} {keep : α → Bool} {entries : List α}
    (transitive : ∀ first second third, notAfter first second = true →
      notAfter second third = true → notAfter first third = true)
    (total : ∀ left right, (notAfter left right || notAfter right left) = true)
    (ordered : (entries.filter keep).Pairwise fun earlier later =>
      notAfter earlier later = true) :
    (entries.mergeSort notAfter).filter keep = entries.filter keep := by
  have kept : (entries.filter keep).Sublist (entries.mergeSort notAfter) :=
    List.sublist_mergeSort transitive total ordered List.filter_sublist
  have inSorted :
      (entries.filter keep).Sublist ((entries.mergeSort notAfter).filter keep) := by
    have filtered := kept.filter keep
    simp only [List.filter_filter, Bool.and_self] at filtered
    exact filtered
  have sameLength : (entries.filter keep).length =
      ((entries.mergeSort notAfter).filter keep).length :=
    ((List.mergeSort_perm entries notAfter).filter keep).length_eq.symm
  exact (inSorted.eq_of_length sameLength).symm

def Trigger.notAfter (left right : Trigger) : Bool :=
  left.name ≤ right.name

theorem notAfter_trans
    (first second third : Trigger)
    (lower : first.notAfter second = true)
    (upper : second.notAfter third = true) :
    first.notAfter third = true :=
  decide_eq_true (String.le_trans (of_decide_eq_true lower) (of_decide_eq_true upper))

theorem notAfter_total (left right : Trigger) :
    (left.notAfter right || right.notAfter left) = true := by
  simp only [Trigger.notAfter, Bool.or_eq_true, decide_eq_true_eq]
  exact String.le_total left.name right.name

private theorem notAfter_iff_bytes_le {left right : Trigger} :
    left.notAfter right = true ↔ Text.bytes left.name ≤ Text.bytes right.name := by
  rw [Trigger.notAfter, decide_eq_true_eq]
  exact not_congr Text.lt_iff_bytes_lt

private theorem sortTriggers_eq (triggers : List Trigger) :
    sortTriggers triggers = (triggers.map Trigger.trimmed).mergeSort Trigger.notAfter :=
  rfl

/-- One list has the triggers of another one with trimmed names and in ascending
order. Those of one name are in the order that they had. -/
structure SortsStably (triggers sorted : List Trigger) : Prop where
  perm : sorted.Perm (triggers.map Trigger.trimmed)
  ascending :
    sorted.Pairwise fun earlier later => Text.bytes earlier.name ≤ Text.bytes later.name
  stable :
    ∀ name, (sorted.filter fun trigger => trigger.name = name) =
      (triggers.map Trigger.trimmed).filter fun trigger => trigger.name = name

section

variable {triggers sorted : List Trigger}

private theorem trim_name_of_mem_map_trimmed
    {trigger : Trigger}
    (member : trigger ∈ triggers.map Trigger.trimmed) :
    Text.trim trigger.name = trigger.name := by
  obtain ⟨original, -, rfl⟩ := List.mem_map.1 member
  exact Text.trim_trim original.name

private theorem SortsStably.trim_name
    (sorts : SortsStably triggers sorted)
    {trigger : Trigger}
    (member : trigger ∈ sorted) :
    Text.trim trigger.name = trigger.name :=
  trim_name_of_mem_map_trimmed (sorts.perm.mem_iff.1 member)

private theorem sortsStably_sortTriggers (triggers : List Trigger) :
    SortsStably triggers (sortTriggers triggers) where
  perm := List.mergeSort_perm _ _
  ascending := by
    have sorted := List.pairwise_mergeSort notAfter_trans notAfter_total
      (triggers.map Trigger.trimmed)
    exact sorted.imp notAfter_iff_bytes_le.1
  stable := by
    intro name
    apply filter_mergeSort notAfter_trans notAfter_total
    apply List.pairwise_of_forall_mem_list
    intro left leftMember right rightMember
    have leftNamed : left.name = name :=
      of_decide_eq_true (List.mem_filter.1 leftMember).2
    have rightNamed : right.name = name :=
      of_decide_eq_true (List.mem_filter.1 rightMember).2
    rw [Trigger.notAfter, leftNamed, rightNamed]
    exact decide_eq_true (String.le_refl name)

private theorem SortsStably.sortTriggers_eq_self (sorts : SortsStably triggers sorted) :
    sortTriggers sorted = sorted := by
  have eachTrimmed : ∀ trigger ∈ sorted, trigger.trimmed = id trigger := by
    intro trigger member
    rw [Trigger.trimmed, sorts.trim_name member, id]
  rw [sortTriggers_eq, List.map_congr_left eachTrimmed, List.map_id]
  exact List.mergeSort_of_pairwise (sorts.ascending.imp notAfter_iff_bytes_le.2)

end

/-! ## Looking names up -/

section Lookup

variable (resolve : String → Option NodeId)

/-- The entry of a trigger, given which node each name of a node means. -/
def Trigger.entry (trigger : Trigger) : String × Option NodeId :=
  (trigger.name, trigger.node.bind resolve)

def filledWith (triggers : List Trigger) : TriggerMap :=
  triggers.foldl
    (fun map trigger => map.push (trigger.entry resolve).1 (trigger.entry resolve).2) {}

private theorem filledWith_eq_ofEntries (triggers : List Trigger) :
    filledWith resolve triggers =
      .ofEntries (triggers.map (Trigger.entry resolve)) := by
  have general : ∀ entries : List (String × Option NodeId),
      triggers.foldl
          (fun map trigger =>
            map.push (trigger.entry resolve).1 (trigger.entry resolve).2)
          (TriggerMap.ofEntries entries) =
        TriggerMap.ofEntries (entries ++ triggers.map (Trigger.entry resolve)) := by
    induction triggers with
    | nil =>
        intro entries
        simp
    | cons head tail inductionHypothesis =>
        intro entries
        rw [List.foldl_cons, List.map_cons, List.append_cons]
        exact inductionHypothesis (entries ++ [head.entry resolve])
  exact general []

private theorem start?_filledWith (triggers : List Trigger) (name : String) :
    (filledWith resolve triggers).start? name =
      search? (triggers.map (Trigger.entry resolve)) name := by
  rw [filledWith_eq_ofEntries]
  exact (TriggerMap.current_ofEntries _).start?_eq name

private theorem search?_map_entry (triggers : List Trigger) (name : String) :
    search? (triggers.map (Trigger.entry resolve)) name =
      (triggers.find? fun trigger => answersTo name (trigger.entry resolve)).bind
        fun trigger => trigger.node.bind resolve := by
  rw [search?, List.find?_map, Option.bind_map]
  rfl

private theorem search?_map_trimmed (triggers : List Trigger) (name : String) :
    search? ((triggers.map Trigger.trimmed).map (Trigger.entry resolve)) name =
      search? (triggers.map (Trigger.entry resolve)) name := by
  have sameAnswers : ∀ trigger : Trigger,
      answersTo name (trigger.trimmed.entry resolve) =
        answersTo name (trigger.entry resolve) := by
    intro trigger
    simp [answersTo, Trigger.trimmed, Trigger.entry]
  rw [search?_map_entry, search?_map_entry, List.find?_map, Option.bind_map]
  simp only [Function.comp_def, sameAnswers]
  rfl

/-- Only the triggers of a name count for it. -/
theorem search?_filter (triggers : List Trigger) (name : String) :
    search?
      ((triggers.filter fun trigger => Text.trim trigger.name = Text.trim name).map
        (Trigger.entry resolve)) name =
      search? (triggers.map (Trigger.entry resolve)) name := by
  have answering : ∀ trigger : Trigger,
      decide (decide (Text.trim trigger.name = Text.trim name) = true ∧
        answersTo name (trigger.entry resolve) = true) =
          answersTo name (trigger.entry resolve) := by
    intro trigger
    rw [Bool.eq_iff_iff, decide_eq_true_eq, decide_eq_true_eq]
    exact and_iff_right_of_imp fun answers => (Graph.answersTo_iff.1 answers).1
  rw [search?_map_entry, search?_map_entry, List.find?_filter]
  simp only [answering]

variable {triggers sorted : List Trigger}

/-- Sorting keeps the order among the triggers of one name. -/
theorem SortsStably.filter_eq
    (sorts : SortsStably triggers sorted)
    (name : String) :
    (sorted.filter fun trigger => Text.trim trigger.name = Text.trim name) =
      (triggers.map Trigger.trimmed).filter fun trigger =>
        Text.trim trigger.name = Text.trim name := by
  have sortedTrimmed : ∀ trigger ∈ sorted,
      decide (Text.trim trigger.name = Text.trim name) =
        decide (trigger.name = Text.trim name) := by
    intro trigger member
    rw [sorts.trim_name member]
  have mapTrimmed : ∀ trigger ∈ triggers.map Trigger.trimmed,
      decide (Text.trim trigger.name = Text.trim name) =
        decide (trigger.name = Text.trim name) := by
    intro trigger member
    rw [trim_name_of_mem_map_trimmed member]
  rw [List.filter_congr sortedTrimmed, List.filter_congr mapTrimmed, sorts.stable]

/-- Sorted triggers are looked up like those they were sorted from. -/
theorem SortsStably.start?_eq
    (sorts : SortsStably triggers sorted)
    (name : String) :
    (filledWith resolve sorted).start? name =
      (filledWith resolve triggers).start? name := by
  rw [start?_filledWith, start?_filledWith, ← search?_filter, sorts.filter_eq,
    search?_filter, search?_map_trimmed]

end Lookup

/-- Sorting triggers trims their names and puts them into ascending order, each
as often as it was there and those of one name in their order. Doing it again
changes nothing, and in a trigger map the sorted triggers mean the same as the
original ones. -/
theorem sorting_triggers_keeps_meaning (triggers : List Trigger) :
    SortsStably triggers (sortTriggers triggers) ∧
      sortTriggers (sortTriggers triggers) = sortTriggers triggers ∧
      ∀ resolve name, (filledWith resolve (sortTriggers triggers)).start? name =
        (filledWith resolve triggers).start? name := by
  have sorts := sortsStably_sortTriggers triggers
  exact ⟨sorts, sorts.sortTriggers_eq_self,
    fun resolve name => sorts.start?_eq resolve name⟩

end Colloquy.Script
