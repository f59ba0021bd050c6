import Colloquy.Proofs.Flag.Exporting

/-!
# Targets

A target is a place of a store: a kind of flags and a name. A store is known by
what it holds at its targets, and a binding inserted at one of them leaves the
others as they are.
-/

namespace Colloquy.Flag

open Colloquy.Number (Single)

private theorem Bindings.eq_of_find?_eq
    {α : Type} {left right : Bindings α}
    (same : ∀ name, left.find? name = right.find? name) :
    left = right := by
  have enumerates : left.Enumerates right.entries := by
    refine ⟨right.enumerates_entries.distinct, ?_⟩
    intro name value
    rw [right.enumerates_entries.mem_iff, same]
  have inOrder : ∀ bindings : Bindings α, bindings.entries.Pairwise fun earlier later =>
      Text.bytes earlier.1 ≤ Text.bytes later.1 :=
    fun bindings => bindings.increasing_entries.imp List.le_of_lt
  have sameEntries : left.entries = right.entries :=
    left.enumerates_entries.eq_of_sorted enumerates (inOrder left) (inOrder right)
  cases left
  cases right
  cases sameEntries
  rfl

abbrev Kind.Value : Kind → Type
  | .bool => Unit
  | .int => Int32
  | .float => Single
  | .string => String

structure Target where
  kind : Kind
  name : String
  deriving DecidableEq

namespace Store

def bindingsOf (store : Store) : (kind : Kind) → Bindings kind.Value
  | .bool => store.bools
  | .int => store.ints
  | .float => store.floats
  | .string => store.strings

def put (store : Store) : (kind : Kind) → Bindings kind.Value → Store
  | .bool, bools => { store with bools }
  | .int, ints => { store with ints }
  | .float, floats => { store with floats }
  | .string, strings => { store with strings }

def value? (store : Store) (target : Target) : Option target.kind.Value :=
  (store.bindingsOf target.kind).find? target.name

private theorem bindingsOf_put_self
    (store : Store) (kind : Kind) (bindings : Bindings kind.Value) :
    (store.put kind bindings).bindingsOf kind = bindings := by
  cases kind with
  | _ =>
      rfl

private theorem bindingsOf_put_of_ne
    {kind other : Kind}
    (different : other ≠ kind)
    (store : Store) (bindings : Bindings kind.Value) :
    (store.put kind bindings).bindingsOf other = store.bindingsOf other := by
  cases kind with
  | _ =>
      cases other with
      | _ =>
          simp_all [put, bindingsOf]

def bindAt (store : Store) (target : Target) (value : target.kind.Value) : Store :=
  store.put target.kind ((store.bindingsOf target.kind).insert target.name value)

/-- A bound target has the value it was bound to. -/
theorem value?_bindAt_self
    (store : Store) (target : Target) (value : target.kind.Value) :
    (store.bindAt target value).value? target = some value := by
  rw [value?, bindAt, bindingsOf_put_self, Bindings.find?_insert_self]

/-- Binding a target leaves all others as they are. -/
theorem value?_bindAt_of_ne
    {target other : Target}
    (different : other ≠ target)
    (store : Store) (value : target.kind.Value) :
    (store.bindAt target value).value? other = store.value? other := by
  obtain ⟨kind, name⟩ := target
  obtain ⟨otherKind, otherName⟩ := other
  by_cases sameKind : otherKind = kind
  · subst sameKind
    have otherNamed : otherName ≠ name := by
      rintro rfl
      exact different rfl
    rw [value?, bindAt, bindingsOf_put_self]
    exact Bindings.find?_insert_of_ne _ value otherNamed
  · rw [value?, bindAt, bindingsOf_put_of_ne sameKind]
    rfl

/-- A removal takes the name from every namespace and leaves all other targets. -/
theorem value?_remove (store : Store) (name : String) (target : Target) :
    (store.remove name).value? target =
      if target.name = Text.trim name then none else store.value? target := by
  have erased : (store.remove name).bindingsOf target.kind =
      (store.bindingsOf target.kind).erase (Text.trim name) := by
    cases target.kind with
    | _ =>
        rfl
  rw [value?, erased]
  by_cases same : target.name = Text.trim name
  · rw [if_pos same, same, Bindings.find?_erase_self]
  · rw [if_neg same, Bindings.find?_erase_of_ne _ same]
    rfl

/-- Stores with the same value at each target are equal. -/
theorem eq_of_value?_eq
    {left right : Store}
    (same : ∀ target, left.value? target = right.value? target) :
    left = right := by
  have sameBindings : ∀ kind, left.bindingsOf kind = right.bindingsOf kind :=
    fun kind => Bindings.eq_of_find?_eq fun name => same ⟨kind, name⟩
  cases left
  cases right
  cases sameBindings .bool
  cases sameBindings .int
  cases sameBindings .float
  cases sameBindings .string
  rfl

end Store

end Colloquy.Flag
