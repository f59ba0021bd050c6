import Colloquy.Proofs.Outcome
import Colloquy.Storage.Disk

/-!
# What changes to a disk keep

A directory stays a directory, whatever is written, and a path that leads
somewhere goes on leading there. What is at a place stays there until that place
is written; making directories writes no place at which there is anything.
-/

namespace Colloquy.Storage.Disk

/-- An item is at a place, and nothing else is. -/
structure Holds (disk : Disk) (place : List String) (item : Item) : Prop where
  present : (place, item) ∈ disk.items
  only : ∀ entry ∈ disk.items, entry.1 = place → entry.2 = item

theorem Holds.item?_eq
    {disk : Disk} {place : List String} {item : Item}
    (holds : disk.Holds place item)
    (below : place ≠ []) :
    disk.item? place = some item := by
  rw [item?, if_neg below]
  cases found : disk.items.lookup place with
  | none =>
      have absent := List.lookup_eq_none_iff.1 found (place, item) holds.present
      simp at absent
  | some other =>
      obtain ⟨before, after, isSplit, _⟩ := List.lookup_eq_some_iff.1 found
      have member : (place, other) ∈ disk.items := by
        rw [isSplit]
        exact List.mem_append_right before List.mem_cons_self
      rw [← holds.only (place, other) member rfl]

section Put

variable {disk : Disk} {place other : List String} {item content : Item}

private theorem holds_put : (disk.put place item).Holds place item where
  present := List.mem_append_right _ (List.mem_singleton.2 rfl)
  only := by
    intro entry member isPlace
    rcases List.mem_append.1 member with kept | new
    · have different : entry.1 ≠ place := by
        simpa using (List.mem_filter.1 kept).2
      exact absurd isPlace different
    · rw [List.mem_singleton.1 new]

private theorem Holds.put_of_ne
    (holds : disk.Holds other content)
    (different : other ≠ place) :
    (disk.put place item).Holds other content where
  present :=
    List.mem_append_left _ (List.mem_filter.2 ⟨holds.present, by simpa using different⟩)
  only := by
    intro entry member isOther
    rcases List.mem_append.1 member with kept | new
    · exact holds.only entry (List.mem_filter.1 kept).1 isOther
    · rw [List.mem_singleton.1 new] at isOther
      exact absurd isOther.symm different

private theorem item?_put_of_ne (different : other ≠ place) :
    (disk.put place item).item? other = disk.item? other := by
  by_cases atTop : other = []
  · simp [item?, atTop]
  · simp only [item?, atTop, if_false, put, List.lookup_append]
    have notNew : List.lookup other [(place, item)] = none := by
      rw [List.lookup_cons, beq_false_of_ne different]
      rfl
    rw [notNew, Option.or_none]
    induction disk.items with
    | nil =>
        rfl
    | cons entry items inductionHypothesis =>
        obtain ⟨key, found⟩ := entry
        by_cases isPlace : key = place
        · have notOther : other ≠ key := fun equal => different (equal.trans isPlace)
          rw [List.filter_cons_of_neg (by simpa using isPlace), List.lookup_cons,
            beq_false_of_ne notOther]
          exact inductionHypothesis
        · rw [List.filter_cons_of_pos (by simpa using isPlace), List.lookup_cons,
            List.lookup_cons, inductionHypothesis]

end Put

/-- What was a directory is one, and what was at a place is there. -/
structure Keeps (before after : Disk) : Prop where
  directories : ∀ place, before.item? place = some .directory →
    after.item? place = some .directory
  holds : ∀ place item, place ≠ [] → before.Holds place item → after.Holds place item

variable {disk after : Disk} {path : String}

private theorem keeps_refl (disk : Disk) : Keeps disk disk :=
  ⟨fun _ isDirectory => isDirectory, fun _ _ _ holds => holds⟩

theorem Keeps.trans
    {first second third : Disk}
    (left : Keeps first second)
    (right : Keeps second third) :
    Keeps first third where
  directories place isDirectory :=
    right.directories place (left.directories place isDirectory)
  holds place item below holds :=
    right.holds place item below (left.holds place item below holds)

/-- A directory is made at a place at which there is nothing. -/
theorem keeps_of_makeDirectory (made : disk.makeDirectory path = .ok after) :
    Keeps disk after := by
  unfold makeDirectory at made
  obtain ⟨place, _, made⟩ := bind_eq_ok_iff.1 made
  split at made
  · cases made
  · rename_i nothing
    cases made
    constructor
    · intro other isDirectory
      have different : other ≠ place := by
        rintro rfl
        rw [isDirectory] at nothing
        cases nothing
      rw [item?_put_of_ne different, isDirectory]
    · intro other content below holds
      have different : other ≠ place := by
        rintro rfl
        rw [holds.item?_eq below] at nothing
        cases nothing
      exact holds.put_of_ne different

private theorem keeps_settle
    {outcome : Except Fault Disk}
    (kept : ∀ made, outcome = .ok made → Keeps disk made)
    (path : String) :
    Keeps disk (disk.settle path outcome).2 := by
  cases outcome with
  | error fault =>
      exact keeps_refl disk
  | ok made =>
      exact kept made rfl

private theorem keeps_makeTree (disk : Disk) (components : List String) :
    Keeps disk (disk.makeTree components).2 := by
  induction components with
  | nil =>
      exact keeps_refl disk
  | cons last above inductionHypothesis =>
      simp only [makeTree]
      split
      · split
        · rename_i prepared isPrepared
          rw [isPrepared] at inductionHypothesis
          exact inductionHypothesis.trans
            (keeps_settle (fun _ made => keeps_of_makeDirectory made) _)
        · exact inductionHypothesis
      · exact keeps_settle (fun _ made => keeps_of_makeDirectory made) _

/-- Making a directory keeps what the disk holds. -/
theorem keeps_ensureDirectory (disk : Disk) (path : String) :
    Keeps disk (disk.ensureDirectory path).2 :=
  keeps_makeTree disk _

/-- A text is at a place, and elsewhere everything is kept. -/
structure Wrote
    (before : Disk) (place : List String) (text : String) (after : Disk) : Prop where
  written : ∃ modified, after.Holds place (.file (.text text) modified)
  directories : ∀ other, before.item? other = some .directory →
    after.item? other = some .directory
  holds : ∀ other item, other ≠ place → before.Holds other item → after.Holds other item

/-- A text that was written stands in the place its path resolves to. -/
theorem exists_wrote_of_writeText
    {text : String}
    (wrote : disk.writeText path text = .ok after) :
    ∃ place, disk.resolve path = .ok place ∧ disk.item? place ≠ some .directory ∧
      Wrote disk place text after := by
  unfold writeText at wrote
  obtain ⟨place, resolved, wrote⟩ := bind_eq_ok_iff.1 wrote
  refine ⟨place, resolved, ?_⟩
  split at wrote
  · cases wrote
  · rename_i notDirectory
    cases wrote
    refine ⟨notDirectory, ⟨_, holds_put⟩, ?_, ?_⟩
    · intro other isDirectory
      have different : other ≠ place := by
        rintro rfl
        exact notDirectory isDirectory
      exact (item?_put_of_ne different).trans isDirectory
    · intro other content different holds
      exact Holds.put_of_ne ⟨holds.present, holds.only⟩ different

end Colloquy.Storage.Disk
