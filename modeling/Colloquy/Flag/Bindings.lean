/-!
# Bindings

Finite maps from names to values, kept as entries in strictly increasing order
of name, so that each map has one form. The order of texts is by code point,
which is also the byte order of their encoding.

* `Bindings.find?_insert_self`, `Bindings.find?_insert_of_ne`: what an insertion
  changes.
* `Bindings.find?_erase_self`, `Bindings.find?_erase_of_ne`: what an erasure changes.
-/

namespace Colloquy.Flag

def Sorted {α : Type} (entries : List (String × α)) : Prop :=
  entries.Pairwise fun earlier later => earlier.1 < later.1

/-- Puts an entry in its place, replacing one of the same name. -/
def insertEntry {α : Type} (name : String) (value : α) :
    List (String × α) → List (String × α)
  | [] => [(name, value)]
  | head :: tail =>
    if name < head.1 then (name, value) :: head :: tail
    else if name = head.1 then (name, value) :: tail
    else head :: insertEntry name value tail

/-- The value of the first entry of a name. -/
def findEntry {α : Type} (name : String) (entries : List (String × α)) : Option α :=
  (entries.find? fun entry => entry.1 = name).map (·.2)

theorem mem_insertEntry
    {α : Type} {name : String} {value : α} {entry : String × α}
    {entries : List (String × α)}
    (member : entry ∈ insertEntry name value entries) :
    entry = (name, value) ∨ entry ∈ entries := by
  induction entries with
  | nil => simpa [insertEntry] using member
  | cons head tail inductionHypothesis =>
    simp only [insertEntry] at member
    split at member
    · simpa using member
    · split at member
      · rcases List.mem_cons.1 member with equal | inTail
        · exact Or.inl equal
        · exact Or.inr (List.mem_cons_of_mem head inTail)
      · rcases List.mem_cons.1 member with equal | inTail
        · exact Or.inr (by simp [equal])
        · rcases inductionHypothesis inTail with equal | old
          · exact Or.inl equal
          · exact Or.inr (List.mem_cons_of_mem head old)

theorem name_lt_of_not_lt_of_ne
    {left right : String}
    (notLess : ¬ left < right)
    (different : left ≠ right) :
    right < left := by
  have upper : right ≤ left := notLess
  by_cases less : right < left
  · exact less
  · exact absurd (String.le_antisymm less upper) different

theorem sorted_insertEntry
    {α : Type} {name : String} {value : α} {entries : List (String × α)}
    (sorted : Sorted entries) :
    Sorted (insertEntry name value entries) := by
  induction entries with
  | nil => simp [insertEntry, Sorted]
  | cons head tail inductionHypothesis =>
    obtain ⟨headBelow, tailSorted⟩ := List.pairwise_cons.1 sorted
    simp only [insertEntry]
    split
    · rename_i less
      refine List.pairwise_cons.2 ⟨fun entry member => ?_, sorted⟩
      rcases List.mem_cons.1 member with equal | inTail
      · simpa [equal] using less
      · exact String.lt_trans less (headBelow entry inTail)
    · split
      · rename_i equal
        exact List.pairwise_cons.2 ⟨fun entry member => by
          simpa [equal] using headBelow entry member, tailSorted⟩
      · rename_i notLess different
        refine List.pairwise_cons.2
          ⟨fun entry member => ?_, inductionHypothesis tailSorted⟩
        rcases mem_insertEntry member with equal | inTail
        · rw [equal]
          exact name_lt_of_not_lt_of_ne notLess different
        · exact headBelow entry inTail

theorem findEntry_insertEntry_self
    {α : Type} (name : String) (value : α) (entries : List (String × α)) :
    findEntry name (insertEntry name value entries) = some value := by
  induction entries with
  | nil => simp [insertEntry, findEntry]
  | cons head tail inductionHypothesis =>
    simp only [insertEntry]
    split
    · simp [findEntry]
    · split
      · simp [findEntry]
      · rename_i different
        have headDifferent : head.1 ≠ name := fun equal => different equal.symm
        simpa [findEntry, headDifferent] using inductionHypothesis

theorem findEntry_insertEntry_of_ne
    {α : Type} {name other : String} (value : α) (entries : List (String × α))
    (different : other ≠ name) :
    findEntry other (insertEntry name value entries) = findEntry other entries := by
  induction entries with
  | nil => simp [insertEntry, findEntry, Ne.symm different]
  | cons head tail inductionHypothesis =>
    simp only [insertEntry]
    split
    · simp [findEntry, Ne.symm different]
    · split
      · rename_i equal
        simp [findEntry, Ne.symm different, ← equal]
      · by_cases headIsOther : head.1 = other
        · simp [findEntry, headIsOther]
        · simpa [findEntry, headIsOther] using inductionHypothesis

/-- A finite map from names to values. -/
structure Bindings (α : Type) where
  entries : List (String × α)
  /-- No name occurs twice, and names increase. -/
  sorted : Sorted entries
  deriving DecidableEq

namespace Bindings

variable {α : Type}

def empty : Bindings α := ⟨[], List.Pairwise.nil⟩

instance : Inhabited (Bindings α) := ⟨empty⟩

def isEmpty (bindings : Bindings α) : Bool :=
  bindings.entries.isEmpty

def size (bindings : Bindings α) : Nat :=
  bindings.entries.length

def find? (bindings : Bindings α) (name : String) : Option α :=
  findEntry name bindings.entries

def contains (bindings : Bindings α) (name : String) : Bool :=
  (bindings.find? name).isSome

/-- Binds a name, replacing its value if it has one. -/
def insert (bindings : Bindings α) (name : String) (value : α) : Bindings α :=
  ⟨insertEntry name value bindings.entries, sorted_insertEntry bindings.sorted⟩

def erase (bindings : Bindings α) (name : String) : Bindings α :=
  ⟨bindings.entries.filter fun entry => entry.1 ≠ name, bindings.sorted.filter _⟩

/-- The bound names, in increasing order. -/
def names (bindings : Bindings α) : List String :=
  bindings.entries.map (·.1)

@[simp]
theorem find?_empty (name : String) : (empty : Bindings α).find? name = none := rfl

@[simp]
theorem find?_insert_self (bindings : Bindings α) (name : String) (value : α) :
    (bindings.insert name value).find? name = some value :=
  findEntry_insertEntry_self name value bindings.entries

theorem find?_insert_of_ne
    (bindings : Bindings α) {name other : String} (value : α)
    (different : other ≠ name) :
    (bindings.insert name value).find? other = bindings.find? other :=
  findEntry_insertEntry_of_ne value bindings.entries different

@[simp]
theorem find?_erase_self (bindings : Bindings α) (name : String) :
    (bindings.erase name).find? name = none := by
  simp [find?, erase, findEntry, List.find?_filter]

theorem find?_erase_of_ne
    (bindings : Bindings α) {name other : String}
    (different : other ≠ name) :
    (bindings.erase name).find? other = bindings.find? other := by
  simp only [find?, erase, findEntry, List.find?_filter]
  congr 1
  congr 1
  funext entry
  by_cases equal : entry.1 = other
  · simp [equal, different]
  · simp [equal]

end Bindings

end Colloquy.Flag
