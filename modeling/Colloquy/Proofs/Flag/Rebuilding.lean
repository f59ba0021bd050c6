import Colloquy.Proofs.Flag.Reachable

/-!
# Rebuilding a store from its export

The export of a tidy store repeats no name and holds no name that is refused, so
that the store can be rebuilt from it strictly. Entries arrive in increasing
order, each behind those before it.
-/

namespace Colloquy.Flag

section Entries

variable {α : Type} {name : String} {entries : List (String × α)}

private theorem insertEntry_of_forall_lt
    (value : α)
    (below : ∀ entry ∈ entries, entry.1 < name) :
    insertEntry name value entries = entries ++ [(name, value)] := by
  induction entries with
  | nil =>
      rfl
  | cons head tail inductionHypothesis =>
      have less : head.1 < name := below head List.mem_cons_self
      have notLess : ¬ name < head.1 := String.lt_asymm less
      have different : name ≠ head.1 := fun equal => String.lt_irrefl _ (equal ▸ less)
      simp [insertEntry, notLess, different,
        inductionHypothesis fun entry member =>
          below entry (List.mem_cons_of_mem _ member)]

private theorem findEntry_of_forall_lt (below : ∀ entry ∈ entries, entry.1 < name) :
    findEntry name entries = none := by
  have noneFound : entries.find? (fun entry => entry.1 = name) = none := by
    refine List.find?_eq_none.2 fun entry member equal => ?_
    have less := below entry member
    rw [of_decide_eq_true equal] at less
    exact String.lt_irrefl name less
  simp [findEntry, noneFound]

end Entries

namespace Store

variable {α : Type} {allowed : α → Prop}

/-- Further entries in order are bound behind those that are bound already. -/
theorem bindStrictly_of_sorted
    (kind : Kind) {bound : Bindings α} {entries : List (String × α)}
    (sorted : Sorted (bound.entries ++ entries))
    (keys : ∀ entry ∈ entries, IsKey entry.1) :
    bindStrictly kind bound entries = .ok ⟨bound.entries ++ entries, sorted⟩ := by
  induction entries generalizing bound with
  | nil =>
      simp [bindStrictly]
  | cons head tail inductionHypothesis =>
      obtain ⟨trimmed, free⟩ := keys head List.mem_cons_self
      have below : ∀ entry ∈ bound.entries, entry.1 < head.1 := fun entry member =>
        (List.pairwise_append.1 sorted).2.2 entry member head List.mem_cons_self
      have unbound : bound.contains head.1 = false := by
        simp [Bindings.contains, Bindings.find?, findEntry_of_forall_lt below]
      have inserted : (bound.insert head.1 head.2).entries = bound.entries ++ [head] :=
        insertEntry_of_forall_lt head.2 below
      have regrouped : (bound.insert head.1 head.2).entries ++ tail =
          bound.entries ++ head :: tail := by
        rw [inserted, List.append_assoc, List.singleton_append]
      have others := inductionHypothesis (regrouped ▸ sorted)
        fun entry member => keys entry (List.mem_cons_of_mem _ member)
      simp [bindStrictly, trimmed, free, unbound, others, regrouped]

private theorem bindStrictly_entries
    (kind : Kind) {bindings : Bindings α}
    (tidy : bindings.Tidy allowed) :
    bindStrictly kind .empty bindings.entries = .ok bindings := by
  have sorted : Sorted ((Bindings.empty : Bindings α).entries ++ bindings.entries) := by
    simpa [Bindings.empty] using bindings.sorted
  exact bindStrictly_of_sorted kind sorted fun entry member => (tidy entry member).1

/-- A tidy store is rebuilt strictly from its export. -/
theorem ofSnapshotStrict_exported
    {store : Store}
    (tidy : store.Tidy) :
    ofSnapshotStrict store.exported = .ok store := by
  have presence :
      store.bools.names.map (fun name => (name, ())) = store.bools.entries := by
    simp [Bindings.names, Function.comp_def]
  have texts : store.strings.entries.map (fun entry => (entry.1, Text.trim entry.2)) =
      store.strings.entries := by
    conv_rhs => rw [← List.map_id store.strings.entries]
    refine List.map_congr_left fun entry member => ?_
    rw [(tidy.strings entry member).2, id]
  simp only [ofSnapshotStrict, exported, presence, texts,
    bindStrictly_entries _ tidy.bools, bindStrictly_entries _ tidy.ints,
    bindStrictly_entries _ tidy.floats, bindStrictly_entries _ tidy.strings]
  rfl

end Store

end Colloquy.Flag
