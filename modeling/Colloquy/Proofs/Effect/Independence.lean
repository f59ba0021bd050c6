import Colloquy.Effect
import Colloquy.Proofs.Flag.Naming
import Colloquy.Proofs.Flag.Target
import Mathlib.Data.List.FinRange
import Mathlib.Logic.Equiv.Basic

/-!
# Independence of effects

An effect changes what a store holds at one target, and looks at no other. After
several effects a target therefore holds what those on it alone make of its
value, so that effects on different targets may change places.
-/

namespace Colloquy

/-- One list has the entries of another one at other places, and entries with
the same key keep their order. -/
def ReordersStably {α β : Type} (keyOf : α → β) (original reordered : List α) : Prop :=
  ∃ place : Fin original.length ≃ Fin reordered.length,
    (∀ index, reordered[place index] = original[index]) ∧
    ∀ earlier later, earlier < later → keyOf original[earlier] = keyOf original[later] →
      place earlier < place later

section Reordering

variable {α β : Type} [DecidableEq β]

/-- The positions of the entries of a list that have a key, in increasing order. -/
def positionsOf (keyOf : α → β) (key : β) (entries : List α) :
    List (Fin entries.length) :=
  (List.finRange entries.length).filter fun index => keyOf entries[index] = key

private theorem mem_positionsOf_iff
    {keyOf : α → β} {key : β} {entries : List α} {index : Fin entries.length} :
    index ∈ positionsOf keyOf key entries ↔ keyOf entries[index] = key := by
  simp [positionsOf]

private theorem pairwise_positionsOf (keyOf : α → β) (key : β) (entries : List α) :
    (positionsOf keyOf key entries).Pairwise (· < ·) :=
  (List.pairwise_lt_finRange _).filter _

private theorem filter_eq_map_positionsOf (keyOf : α → β) (key : β) (entries : List α) :
    (entries.filter fun entry => keyOf entry = key) =
      (positionsOf keyOf key entries).map fun index => entries[index] := by
  conv_lhs => rw [← List.map_getElem_finRange entries]
  rw [List.filter_map]
  rfl

/-- The entries of one key stand in the same order in both lists. -/
theorem ReordersStably.filter_eq
    {keyOf : α → β} {original reordered : List α}
    (reorders : ReordersStably keyOf original reordered)
    (key : β) :
    (reordered.filter fun entry => keyOf entry = key) =
      original.filter fun entry => keyOf entry = key := by
  obtain ⟨place, sameEntry, keepsOrder⟩ := reorders
  have increasing : ((positionsOf keyOf key original).map place).Pairwise (· < ·) := by
    apply List.pairwise_map.2
    apply (pairwise_positionsOf keyOf key original).imp_of_mem
    intro earlier later earlierMember laterMember less
    apply keepsOrder earlier later less
    rw [mem_positionsOf_iff.1 earlierMember, mem_positionsOf_iff.1 laterMember]
  have distinct : ∀ {size : Nat} {indices : List (Fin size)},
      indices.Pairwise (· < ·) → indices.Nodup :=
    fun pairwise => pairwise.imp Fin.ne_of_lt
  have perm : ((positionsOf keyOf key original).map place).Perm
      (positionsOf keyOf key reordered) := by
    apply (List.perm_ext_iff_of_nodup (distinct increasing)
      (distinct (pairwise_positionsOf keyOf key reordered))).2
    intro index
    obtain ⟨source, rfl⟩ := place.surjective index
    rw [List.mem_map_of_injective place.injective, mem_positionsOf_iff,
      mem_positionsOf_iff, sameEntry]
  have samePositions : (positionsOf keyOf key original).map place =
      positionsOf keyOf key reordered :=
    List.Perm.eq_of_pairwise (fun _ _ _ _ less more => absurd less (Fin.lt_asymm more))
      increasing (pairwise_positionsOf keyOf key reordered) perm
  rw [filter_eq_map_positionsOf, filter_eq_map_positionsOf, ← samePositions,
    List.map_map]
  apply List.map_congr_left
  intro index member
  exact sameEntry index

end Reordering

namespace Effect

open Colloquy.Flag
open Colloquy.Number (Single)

/-! ## Targets of effects -/

def kind : Effect → Kind
  | .setBool _ => .bool
  | .setInt _ _ => .int
  | .addInt _ _ => .int
  | .setFloat _ _ => .float
  | .addFloat _ _ => .float
  | .setString _ _ => .string

def key : Effect → String
  | .setBool key => key
  | .setInt key _ => key
  | .addInt key _ => key
  | .setFloat key _ => key
  | .addFloat key _ => key
  | .setString key _ => key

/-- The place whose value an effect changes. -/
def target (effect : Effect) : Target :=
  ⟨effect.kind, Text.trim effect.key⟩

/-- The value that an effect with an accepted key gives to a flag. Flags of
other kinds keep theirs. -/
def amend : (kind : Kind) → Option kind.Value → Effect → Option kind.Value
  | .bool, _, .setBool _ => some ()
  | .int, _, .setInt _ value => some value
  | .int, old, .addInt _ delta => some (Number.addClamped (old.getD 0) delta)
  | .float, _, .setFloat _ value => some value
  | .float, old, .addFloat _ delta => some (old.getD .zero + delta)
  | .string, _, .setString _ value => some (Text.trim value)
  | _, old, _ => old

/-- What an effect makes of the value of its target. With an operator character
in its key it makes nothing of it. -/
def revise (kind : Kind) (old : Option kind.Value) (effect : Effect) :
    Option kind.Value :=
  if isName effect.key then amend kind old effect else old

section

variable {effect : Effect} {store : Store} {target : Target}

/-- An effect on a refused name changes nothing. -/
theorem apply_of_not_isName
    (refused : isName effect.key = false)
    (store : Store) :
    effect.apply store = store := by
  have noName : name? effect.key = none := by
    rw [name?, isName_trim, refused]
    rfl
  cases effect with
  | _ =>
      simp only [key] at noName
      simp only [apply, tryApply, Store.setBool?, Store.setInt?, Store.addInt?,
        Store.setFloat?, Store.addFloat?, Store.setString?, noName, Option.map_none,
        Option.getD_none]

/-- An effect with an accepted key is not refused. It binds its target, and
nothing else. -/
theorem exists_tryApply_eq_bindAt
    (free : isName effect.key = true)
    (store : Store) :
    ∃ value, amend effect.target.kind (store.value? effect.target) effect = some value ∧
      effect.tryApply store = some (store.bindAt effect.target value) := by
  have isNamed : name? effect.key = some (Text.trim effect.key) :=
    name?_eq_some_iff.2 ⟨free, rfl⟩
  cases effect with
  | _ =>
      refine ⟨_, rfl, ?_⟩
      simp only [key] at isNamed
      simp only [tryApply, Store.setBool?, Store.setInt?, Store.addInt?,
        Store.setFloat?, Store.addFloat?, Store.setString?, isNamed, Option.map_some]
      rfl

/-- An effect on an accepted name binds its target, to a value that depends on
the old value there and on nothing else. -/
theorem exists_apply_eq_bindAt
    (free : isName effect.key = true)
    (store : Store) :
    ∃ value, amend effect.target.kind (store.value? effect.target) effect = some value ∧
      effect.apply store = store.bindAt effect.target value := by
  obtain ⟨value, amended, accepted⟩ := exists_tryApply_eq_bindAt free store
  refine ⟨value, amended, ?_⟩
  rw [apply, accepted, Option.getD_some]

private theorem value?_apply_self (effect : Effect) (store : Store) :
    (effect.apply store).value? effect.target =
      revise effect.target.kind (store.value? effect.target) effect := by
  by_cases free : isName effect.key = true
  · obtain ⟨value, amended, applied⟩ := exists_apply_eq_bindAt free store
    rw [applied, Store.value?_bindAt_self, revise, if_pos free, amended]
  · rw [apply_of_not_isName (Bool.eq_false_of_not_eq_true free), revise, if_neg free]

/-- An effect leaves all other targets as they are. -/
theorem value?_apply_of_ne
    (different : effect.target ≠ target)
    (store : Store) :
    (effect.apply store).value? target = store.value? target := by
  by_cases free : isName effect.key = true
  · obtain ⟨value, -, applied⟩ := exists_apply_eq_bindAt free store
    rw [applied, Store.value?_bindAt_of_ne different.symm]
  · rw [apply_of_not_isName (Bool.eq_false_of_not_eq_true free)]

/-- The effects of a list that are on a target. -/
def allOn (target : Target) (effects : List Effect) : List Effect :=
  effects.filter fun effect => effect.target = target

/-- A target holds what the effects on it make of its value, one after another. -/
theorem value?_applyAll (effects : List Effect) (store : Store) (target : Target) :
    (applyAll effects store).value? target =
      (allOn target effects).foldl (revise target.kind) (store.value? target) := by
  induction effects generalizing store with
  | nil =>
      rfl
  | cons head tail inductionHypothesis =>
      rw [applyAll, List.foldl_cons, ← applyAll, inductionHypothesis, allOn, allOn,
        List.filter_cons]
      by_cases isTarget : head.target = target
      · subst isTarget
        rw [if_pos (decide_eq_true rfl), List.foldl_cons, value?_apply_self]
      · rw [if_neg (by simpa using isTarget), value?_apply_of_ne isTarget]

private theorem allOn_allOn (target : Target) (effects : List Effect) :
    allOn target (allOn target effects) = allOn target effects := by
  simp [allOn]

private theorem allOn_eq_nil
    {effects : List Effect}
    (different : ∀ effect ∈ effects, effect.target ≠ target) :
    allOn target effects = [] := by
  simpa [allOn] using different

end

/-- What effects make of a target rests on those on the target alone, and on
what it held before. Effects with an operator character in the key change
nothing, and what no effect of the list is on is left as it was. So the effects
may be put in any order in which those on one target keep theirs. -/
theorem effects_on_different_targets_are_independent
    (effects : List Effect) (store : Store) :
    (∀ target, (applyAll effects store).value? target =
      (allOn target effects).foldl (revise target.kind) (store.value? target)) ∧
    (∀ target other, other.value? target = store.value? target →
      (applyAll (allOn target effects) other).value? target =
        (applyAll effects store).value? target) ∧
    (∀ effect ∈ effects, isName effect.key = false →
      ∀ other, effect.apply other = other) ∧
    (∀ target, (∀ effect ∈ effects, effect.target ≠ target) →
      (applyAll effects store).value? target = store.value? target) ∧
    (∀ reordered, ReordersStably target effects reordered →
      applyAll reordered store = applyAll effects store) := by
  refine ⟨value?_applyAll effects store, ?_, ?_, ?_, ?_⟩
  · intro target other same
    rw [value?_applyAll, value?_applyAll, allOn_allOn, same]
  · intro effect member refused other
    exact apply_of_not_isName refused other
  · intro target different
    rw [value?_applyAll, allOn_eq_nil different, List.foldl_nil]
  · intro reordered reorders
    apply Store.eq_of_value?_eq
    intro target
    rw [value?_applyAll, value?_applyAll, allOn, reorders.filter_eq, allOn]

/-- What a game won does: one of the keys is refused. -/
def victory : List Effect :=
  [.setInt "gold" 5, .setString "gold" " won ", .addInt " gold " 3, .addInt "gold!" 1,
    .addFloat "luck" .zero]

/-- The same, with only the effects on the integer flag in their order. -/
def victoryReordered : List Effect :=
  [.setString "gold" " won ", .setInt "gold" 5, .addInt "gold!" 1, .addInt " gold " 3,
    .addFloat "luck" .zero]

private theorem victory_reordersStably :
    ReordersStably target victory victoryReordered := by
  refine ⟨(Equiv.swap (0 : Fin 5) 1).trans (Equiv.swap 2 3), ?_, ?_⟩
  · decide
  · decide +kernel

/-- The store before the game, in which the name that is added to is bound twice. -/
def beforeVictory : Store where
  bools := Bindings.empty.insert "gold" ()
  ints := Bindings.empty.insert "gold" 1

theorem effects_of_victory_are_independent :
    (applyAll victory beforeVictory).value? ⟨.int, "gold"⟩ = some (8 : Int32) ∧
      (beforeVictory.value? ⟨.string, "gold"⟩ = Store.empty.value? ⟨.string, "gold"⟩ ∧
        (applyAll (allOn ⟨.string, "gold"⟩ victory) beforeVictory).value?
          ⟨.string, "gold"⟩ =
          (applyAll victory Store.empty).value? ⟨.string, "gold"⟩) ∧
      (.addInt "gold!" 1 ∈ victory ∧ isName (addInt "gold!" 1).key = false ∧
        (addInt "gold!" 1).apply beforeVictory = beforeVictory) ∧
      ((∀ effect ∈ victory, effect.target ≠ ⟨.bool, "gold"⟩) ∧
        (applyAll victory beforeVictory).value? ⟨.bool, "gold"⟩ = some ()) ∧
      ReordersStably target victory victoryReordered ∧
      applyAll victoryReordered beforeVictory = applyAll victory beforeVictory := by
  obtain ⟨revised, -, refusals, untouched, reorderings⟩ :=
    effects_on_different_targets_are_independent victory beforeVictory
  obtain ⟨-, alone, -⟩ :=
    effects_on_different_targets_are_independent victory Store.empty
  have sameBefore : beforeVictory.value? ⟨.string, "gold"⟩ =
      Store.empty.value? ⟨.string, "gold"⟩ := by
    decide +kernel
  have member : .addInt "gold!" 1 ∈ victory := by
    decide
  have refused : isName (addInt "gold!" 1).key = false := by
    decide
  have different : ∀ effect ∈ victory, effect.target ≠ ⟨.bool, "gold"⟩ := by
    decide +kernel
  refine ⟨?_, ⟨sameBefore, alone _ _ sameBefore⟩,
    ⟨member, refused, refusals _ member refused beforeVictory⟩, ⟨different, ?_⟩,
    victory_reordersStably, reorderings _ victory_reordersStably⟩
  · rw [revised]
    decide +kernel
  · rw [untouched _ different]
    decide +kernel

end Effect

end Colloquy
