import Colloquy.Proofs.Flag.Reachable

/-!
# Taking over snapshots

A snapshot is taken over in two ways. The lenient one passes over entries whose
trimmed names are refused, and lets later entries override earlier ones. The
strict one stops at the first entry that is refused or repeats a name, and makes
the same store if there is none.
-/

namespace Colloquy.Flag

open Colloquy.Number (Single)

namespace Bindings

variable {α : Type} {bindings : Bindings α} {name : String}

/-- Binds the trimmed name of an entry, unless it is refused. -/
def bindOne (bindings : Bindings α) (entry : String × α) : Bindings α :=
  ((name? entry.1).map fun key => bindings.insert key entry.2).getD bindings

def bindEach (bindings : Bindings α) (entries : List (String × α)) : Bindings α :=
  entries.foldl bindOne bindings

private theorem bindEach_cons
    (bindings : Bindings α) (head : String × α) (tail : List (String × α)) :
    bindings.bindEach (head :: tail) = (bindings.bindOne head).bindEach tail := by
  simp only [bindEach, List.foldl_cons]

private theorem bindEach_append
    (bindings : Bindings α) (first second : List (String × α)) :
    bindings.bindEach (first ++ second) =
      (bindings.bindEach first).bindEach second := by
  simp only [bindEach, List.foldl_append]

private theorem bindOne_of_isName
    (bindings : Bindings α) {entry : String × α}
    (free : isName (Text.trim entry.1) = true) :
    bindings.bindOne entry = bindings.insert (Text.trim entry.1) entry.2 := by
  simp only [bindOne, name?, if_pos free, Option.map_some, Option.getD_some]

private theorem bindOne_of_not_isName
    (bindings : Bindings α) {entry : String × α}
    (refused : ¬ isName (Text.trim entry.1) = true) :
    bindings.bindOne entry = bindings := by
  simp only [bindOne, name?, if_neg refused, Option.map_none, Option.getD_none]

private theorem find?_bindOne_of_ne
    (bindings : Bindings α) {entry : String × α}
    (different : Text.trim entry.1 ≠ name) :
    (bindings.bindOne entry).find? name = bindings.find? name := by
  by_cases free : isName (Text.trim entry.1) = true
  · rw [bindOne_of_isName bindings free]
    exact find?_insert_of_ne bindings entry.2 (Ne.symm different)
  · rw [bindOne_of_not_isName bindings free]

private theorem find?_bindEach_of_forall_ne
    {entries : List (String × α)}
    (different : ∀ entry ∈ entries, Text.trim entry.1 ≠ name) :
    (bindings.bindEach entries).find? name = bindings.find? name := by
  induction entries generalizing bindings with
  | nil =>
      rfl
  | cons head tail inductionHypothesis =>
      obtain ⟨headDifferent, tailDifferent⟩ := List.forall_mem_cons.1 different
      rw [bindEach_cons, inductionHypothesis tailDifferent,
        find?_bindOne_of_ne _ headDifferent]

private theorem contains_bindOne_iff
    {entry : String × α} :
    (bindings.bindOne entry).contains name = true ↔
      bindings.contains name = true ∨
        (isName name = true ∧ Text.trim entry.1 = name) := by
  by_cases same : Text.trim entry.1 = name
  · by_cases free : isName (Text.trim entry.1) = true
    · rw [bindOne_of_isName bindings free]
      simp [contains, ← same, free]
    · rw [bindOne_of_not_isName bindings free]
      simp [← same, free]
  · simp [contains, find?_bindOne_of_ne bindings same, same]

private theorem contains_bindEach_iff
    {entries : List (String × α)} :
    (bindings.bindEach entries).contains name = true ↔
      bindings.contains name = true ∨
        (isName name = true ∧ ∃ entry ∈ entries, Text.trim entry.1 = name) := by
  induction entries generalizing bindings with
  | nil =>
      simp [bindEach]
  | cons head tail inductionHypothesis =>
      rw [bindEach_cons, inductionHypothesis, contains_bindOne_iff,
        List.exists_mem_cons_iff, and_or_left, or_assoc]

private theorem find?_bindOne_self
    (bindings : Bindings α) {entry : String × α}
    (free : isName (Text.trim entry.1) = true) :
    (bindings.bindOne entry).find? (Text.trim entry.1) = some entry.2 := by
  rw [bindOne_of_isName bindings free, find?_insert_self]

/-- The last entry of a name decides. -/
theorem find?_bindEach_last
    {before after : List (String × α)} {entry : String × α}
    (free : isName (Text.trim entry.1) = true)
    (last : ∀ later ∈ after, Text.trim later.1 ≠ Text.trim entry.1) :
    (bindings.bindEach (before ++ entry :: after)).find? (Text.trim entry.1) =
      some entry.2 := by
  rw [bindEach_append, bindEach_cons, find?_bindEach_of_forall_ne last,
    find?_bindOne_self _ free]

/-- What bindings hold that were made of entries: a name without operator
characters is bound if some entry has it, blanks at the ends left aside, and
then to the value of the last such entry. -/
structure HoldsLast (bindings : Bindings α) (entries : List (String × α)) : Prop where
  contains_iff :
    ∀ name, bindings.contains name = true ↔
      isName name = true ∧ ∃ entry ∈ entries, Text.trim entry.1 = name
  find?_last :
    ∀ before entry after, entries = before ++ entry :: after →
      isName (Text.trim entry.1) = true →
        (∀ later ∈ after, Text.trim later.1 ≠ Text.trim entry.1) →
          bindings.find? (Text.trim entry.1) = some entry.2

private theorem holdsLast_bindEach (entries : List (String × α)) :
    (empty.bindEach entries).HoldsLast entries where
  contains_iff name := by
    have noneBound : ¬ (empty : Bindings α).contains name = true := by
      simp [contains]
    rw [contains_bindEach_iff, or_iff_right noneBound]
  find?_last before entry after equal free last := by
    rw [equal]
    exact find?_bindEach_last free last

end Bindings

/-! ## The lenient way -/

namespace Store

/-- Writing an entry to one namespace binds it there, whichever namespace it is. -/
theorem getD_map_insert
    {α : Type} (put : Bindings α → Store) (bindings : Bindings α) (entry : String × α) :
    ((name? entry.1).map fun key => put (bindings.insert key entry.2)).getD
      (put bindings) =
      put (bindings.bindOne entry) := by
  unfold Bindings.bindOne
  cases name? entry.1 with
  | none =>
      rfl
  | some key =>
      rfl

private theorem setBool?_getD (store : Store) (name : String) :
    (store.setBool? name).getD store =
      { store with bools := store.bools.bindOne (name, ()) } := by
  unfold setBool?
  exact getD_map_insert (fun bools => { store with bools }) store.bools (name, ())

private theorem setInt?_getD (store : Store) (entry : String × Int32) :
    (store.setInt? entry.1 entry.2).getD store =
      { store with ints := store.ints.bindOne entry } := by
  unfold setInt?
  exact getD_map_insert (fun ints => { store with ints }) store.ints entry

private theorem setFloat?_getD (store : Store) (entry : String × Single) :
    (store.setFloat? entry.1 entry.2).getD store =
      { store with floats := store.floats.bindOne entry } := by
  unfold setFloat?
  exact getD_map_insert (fun floats => { store with floats }) store.floats entry

private theorem setString?_getD (store : Store) (entry : String × String) :
    (store.setString? entry.1 entry.2).getD store =
      { store with strings := store.strings.bindOne (entry.1, Text.trim entry.2) } := by
  unfold setString?
  exact getD_map_insert (fun strings => { store with strings }) store.strings
    (entry.1, Text.trim entry.2)

/-- Writing entries one after another binds each of them, if writing one does. -/
theorem foldl_eq_bindEach
    {α β : Type} {step : Store → α → Store} (put : Bindings β → Store)
    {entryOf : α → String × β}
    (each : ∀ bindings entry, step (put bindings) entry =
      put (bindings.bindOne (entryOf entry)))
    (bindings : Bindings β)
    (entries : List α) :
    entries.foldl step (put bindings) =
      put (bindings.bindEach (entries.map entryOf)) := by
  induction entries generalizing bindings with
  | nil =>
      rfl
  | cons head tail inductionHypothesis =>
      rw [List.foldl_cons, each, inductionHypothesis, List.map_cons,
        Bindings.bindEach_cons]

private theorem foldl_setBool? (entries : List String) (store : Store) :
    entries.foldl (fun store name => (store.setBool? name).getD store) store =
      { store with
        bools := store.bools.bindEach (entries.map fun name => (name, ())) } := by
  refine foldl_eq_bindEach (fun bools => { store with bools }) ?_ store.bools entries
  intro bools name
  exact setBool?_getD { store with bools } name

private theorem foldl_setInt? (entries : List (String × Int32)) (store : Store) :
    entries.foldl
      (fun store entry => (store.setInt? entry.1 entry.2).getD store) store =
      { store with ints := store.ints.bindEach entries } := by
  rw [← List.map_id entries, List.foldl_map]
  refine foldl_eq_bindEach (fun ints => { store with ints }) ?_ store.ints entries
  intro ints entry
  exact setInt?_getD { store with ints } entry

private theorem foldl_setFloat? (entries : List (String × Single)) (store : Store) :
    entries.foldl
      (fun store entry => (store.setFloat? entry.1 entry.2).getD store) store =
      { store with floats := store.floats.bindEach entries } := by
  rw [← List.map_id entries, List.foldl_map]
  refine foldl_eq_bindEach (fun floats => { store with floats }) ?_ store.floats entries
  intro floats entry
  exact setFloat?_getD { store with floats } entry

private theorem foldl_setString? (entries : List (String × String)) (store : Store) :
    entries.foldl
      (fun store entry => (store.setString? entry.1 entry.2).getD store) store =
      { store with
        strings := store.strings.bindEach
          (entries.map fun entry => (entry.1, Text.trim entry.2)) } := by
  refine foldl_eq_bindEach
    (fun strings => { store with strings }) ?_ store.strings entries
  intro strings entry
  exact setString?_getD { store with strings } entry

/-- Each kind of entries goes to a namespace of its own. -/
theorem ofSnapshot_eq (snapshot : Snapshot) :
    ofSnapshot snapshot = {
      bools := Bindings.empty.bindEach (snapshot.bools.map fun name => (name, ()))
      ints := Bindings.empty.bindEach snapshot.ints
      floats := Bindings.empty.bindEach snapshot.floats
      strings := Bindings.empty.bindEach
        (snapshot.strings.map fun entry => (entry.1, Text.trim entry.2)) } := by
  rw [ofSnapshot, foldl_setBool?, foldl_setInt?, foldl_setFloat?, foldl_setString?]
  rfl

end Store

def keysOf {α : Type} (kind : Kind) (entries : List (String × α)) :
    List (Kind × String) :=
  entries.map fun entry => (kind, Text.trim entry.1)

/-- The trimmed names of all entries with their kinds, in the order in which
they are taken over. -/
def Snapshot.keys (snapshot : Snapshot) : List (Kind × String) :=
  snapshot.bools.map (fun name => (.bool, Text.trim name)) ++
    keysOf .int snapshot.ints ++
    keysOf .float snapshot.floats ++ keysOf .string snapshot.strings

/-- No name is refused, and none is repeated within its kind. -/
structure Acceptable (keys : List (Kind × String)) : Prop where
  free : ∀ key ∈ keys, isName key.2 = true
  distinct : keys.Nodup

/-- What is wrong with a key behind others. -/
inductive Offends (before : List (Kind × String)) : Kind × String → SnapshotError → Prop
  | invalidName {kind : Kind} {name : String} :
      isName name = false → Offends before (kind, name) (.invalidName kind name)
  | duplicateKey {kind : Kind} {name : String} :
      isName name = true → (kind, name) ∈ before →
        Offends before (kind, name) (.duplicateKey kind name)

/-- An error tells of the first key that is refused or repeated. -/
def TellsFirst (keys : List (Kind × String)) (error : SnapshotError) : Prop :=
  ∃ before key after, keys = before ++ key :: after ∧ Acceptable before ∧
    Offends before key error

private theorem acceptable_nil : Acceptable [] where
  free := by simp
  distinct := List.nodup_nil

/-- Acceptable keys stay so with a further one that is free and new. -/
theorem Acceptable.concat
    {keys : List (Kind × String)}
    (acceptable : Acceptable keys)
    (key : Kind × String)
    (free : isName key.2 = true)
    (new : key ∉ keys) :
    Acceptable (keys ++ [key]) where
  free := by
    intro other member
    rcases List.mem_append.1 member with old | last
    · exact acceptable.free other old
    · rw [List.mem_singleton.1 last]
      exact free
  distinct := by
    refine List.nodup_append.2 ⟨acceptable.distinct, List.pairwise_singleton _ key, ?_⟩
    intro other old last lastMember same
    rw [List.mem_singleton.1 lastMember] at same
    exact new (same ▸ old)

private theorem Offends.tellsFirst
    {before : List (Kind × String)} {key : Kind × String} {error : SnapshotError}
    (offends : Offends before key error)
    (acceptable : Acceptable before)
    (after : List (Kind × String)) :
    TellsFirst (before ++ key :: after) error :=
  ⟨before, key, after, rfl, acceptable, offends⟩

private theorem TellsFirst.of_prefix
    {keys all : List (Kind × String)} {error : SnapshotError}
    (tells : TellsFirst keys error)
    (first : keys <+: all) :
    TellsFirst all error := by
  obtain ⟨before, key, after, rfl, acceptable, offends⟩ := tells
  obtain ⟨more, rfl⟩ := first
  refine ⟨before, key, after ++ more, ?_, acceptable, offends⟩
  rw [List.append_assoc, List.cons_append]

private theorem TellsFirst.not_acceptable
    {keys : List (Kind × String)} {error : SnapshotError}
    (tells : TellsFirst keys error) :
    ¬ Acceptable keys := by
  obtain ⟨before, key, after, rfl, _, offends⟩ := tells
  intro acceptable
  cases offends with
  | invalidName refused =>
      have free := acceptable.free _ (List.mem_append_right before List.mem_cons_self)
      rw [refused] at free
      cases free
  | duplicateKey _ repeated =>
      have apart := (List.nodup_append.1 acceptable.distinct).2.2
      exact apart _ repeated _ List.mem_cons_self rfl

/-- An outcome is the value if the keys are acceptable, and else tells of the
first that offends. -/
def Settles {α : Type} (keys : List (Kind × String)) (outcome : Except SnapshotError α)
    (value : α) : Prop :=
  (Acceptable keys ∧ outcome = .ok value) ∨
    ∃ error, TellsFirst keys error ∧ outcome = .error error

namespace Settles

variable {α β : Type} {keys all : List (Kind × String)}
  {outcome : Except SnapshotError α}
  {value : α}

/-- A step that settles the first keys, followed by one that settles all if
those are acceptable, settles all keys. -/
theorem bind
    {next : α → Except SnapshotError β} {result : β}
    (settles : Settles keys outcome value)
    (first : keys <+: all)
    (onward : Acceptable keys → Settles all (next value) result) :
    Settles all (outcome >>= next) result := by
  rcases settles with ⟨acceptable, succeeds⟩ | ⟨error, tells, fails⟩
  · rw [succeeds]
    exact onward acceptable
  · rw [fails]
    exact Or.inr ⟨error, tells.of_prefix first, rfl⟩

/-- Where something succeeds, the keys were acceptable and the value is the
expected one. -/
theorem acceptable_of_eq_ok
    {found : α}
    (settles : Settles keys outcome value)
    (succeeds : outcome = .ok found) :
    Acceptable keys ∧ found = value := by
  rcases settles with ⟨acceptable, equal⟩ | ⟨error, _, fails⟩
  · rw [succeeds] at equal
    exact ⟨acceptable, Except.ok.inj equal⟩
  · rw [succeeds] at fails
    cases fails

/-- Acceptable keys are taken over. -/
theorem eq_ok_of_acceptable
    (settles : Settles keys outcome value)
    (acceptable : Acceptable keys) :
    outcome = .ok value := by
  rcases settles with ⟨_, succeeds⟩ | ⟨error, tells, _⟩
  · exact succeeds
  · exact absurd acceptable tells.not_acceptable

/-- Where something fails, the first offence is told. -/
theorem tellsFirst_of_eq_error
    {error : SnapshotError}
    (settles : Settles keys outcome value)
    (failed : outcome = .error error) :
    TellsFirst keys error := by
  rcases settles with ⟨_, succeeds⟩ | ⟨other, tells, fails⟩
  · rw [failed] at succeeds
    cases succeeds
  · rw [failed] at fails
    rw [Except.error.inj fails]
    exact tells

end Settles

/-! ## The strict way -/

namespace Store

variable {α : Type}

/-- Binding strictly either binds each entry or tells of the first that offends.
Names that were bound before, and those of other kinds, are among the keys that
were seen. -/
theorem settles_bindStrictly
    (kind : Kind) {bindings : Bindings α} {seen : List (Kind × String)}
    (acceptable : Acceptable seen)
    (bound : ∀ name, bindings.contains name = true ↔ (kind, name) ∈ seen)
    (entries : List (String × α)) :
    Settles (seen ++ keysOf kind entries) (bindStrictly kind bindings entries)
      (bindings.bindEach entries) := by
  induction entries generalizing bindings seen with
  | nil =>
      refine Or.inl ⟨?_, rfl⟩
      simpa [keysOf] using acceptable
  | cons head tail inductionHypothesis =>
      have keys :
          keysOf kind (head :: tail) = (kind, Text.trim head.1) :: keysOf kind tail :=
        List.map_cons
      rw [keys]
      by_cases free : isName (Text.trim head.1) = true
      · by_cases taken : bindings.contains (Text.trim head.1) = true
        · have offends := Offends.duplicateKey free ((bound _).1 taken)
          refine Or.inr ⟨_, offends.tellsFirst acceptable _, ?_⟩
          simp [bindStrictly, free, taken]
        · have new : (kind, Text.trim head.1) ∉ seen :=
            fun old => taken ((bound _).2 old)
          have isHead : ∀ name, isName name = true ∧ Text.trim head.1 = name ↔
              (kind, name) ∈ [(kind, Text.trim head.1)] := by
            intro name
            simp only [List.mem_singleton, Prod.mk.injEq, true_and]
            constructor
            · rintro ⟨_, same⟩
              exact same.symm
            · rintro rfl
              exact ⟨free, rfl⟩
          have boundNow : ∀ name,
              (bindings.bindOne head).contains name = true ↔
                (kind, name) ∈ seen ++ [(kind, Text.trim head.1)] := by
            intro name
            rw [Bindings.contains_bindOne_iff, bound, List.mem_append, isHead]
          have acceptableNow := acceptable.concat (kind, Text.trim head.1) free new
          have rest := inductionHypothesis acceptableNow boundNow
          have step : bindStrictly kind bindings (head :: tail) =
              bindStrictly kind (bindings.bindOne head) tail := by
            simp [bindStrictly, free, taken, Bindings.bindOne_of_isName bindings free]
          rw [List.append_assoc, List.singleton_append] at rest
          rw [step, Bindings.bindEach_cons]
          exact rest
      · have offends : Offends seen (kind, Text.trim head.1) _ :=
          .invalidName (Bool.eq_false_iff.2 free)
        refine Or.inr ⟨_, offends.tellsFirst acceptable _, ?_⟩
        simp [bindStrictly, free]

/-- The first entries of a kind find no name bound. -/
theorem settles_bindStrictly_empty
    (kind : Kind) {seen : List (Kind × String)}
    (acceptable : Acceptable seen)
    (otherKinds : ∀ key ∈ seen, key.1 ≠ kind)
    (entries : List (String × α)) :
    Settles (seen ++ keysOf kind entries) (bindStrictly kind .empty entries)
      (Bindings.empty.bindEach entries) := by
  apply settles_bindStrictly kind acceptable
  intro name
  constructor
  · intro bound
    cases bound
  · intro member
    exact absurd rfl (otherKinds _ member)

private theorem kind_ne_of_mem_keysOf
    {kind other : Kind} {entries : List (String × α)}
    (different : kind ≠ other) :
    ∀ key ∈ keysOf kind entries, key.1 ≠ other := by
  intro key member
  obtain ⟨entry, _, rfl⟩ := List.mem_map.1 member
  exact different

/-- The strict way leads to the store of the lenient way unless some key offends. -/
theorem settles_ofSnapshotStrict (snapshot : Snapshot) :
    Settles snapshot.keys (ofSnapshotStrict snapshot) (ofSnapshot snapshot) := by
  let bools := snapshot.bools.map fun name => (name, ())
  let strings := snapshot.strings.map fun entry => (entry.1, Text.trim entry.2)
  have keys : snapshot.keys =
      keysOf .bool bools ++ keysOf .int snapshot.ints ++
        keysOf .float snapshot.floats ++
        keysOf .string strings := by
    simp only [Snapshot.keys, keysOf, bools, strings, List.map_map]
    rfl
  rw [keys, ofSnapshot_eq, ofSnapshotStrict]
  apply Settles.bind (settles_bindStrictly_empty .bool acceptable_nil (by simp) bools)
  · simp only [List.nil_append, List.append_assoc, List.prefix_append]
  intro boolsAcceptable
  have noInts : ∀ key ∈ keysOf .bool bools, key.1 ≠ .int :=
    kind_ne_of_mem_keysOf (by decide)
  apply Settles.bind
    (settles_bindStrictly_empty .int boolsAcceptable noInts snapshot.ints)
  · simp only [List.append_assoc, List.prefix_append_right_inj, List.nil_append,
      List.prefix_append]
  intro intsAcceptable
  have noFloats :
      ∀ key ∈ keysOf .bool bools ++ keysOf .int snapshot.ints, key.1 ≠ .float :=
    List.forall_mem_append.2
      ⟨kind_ne_of_mem_keysOf (by decide), kind_ne_of_mem_keysOf (by decide)⟩
  apply Settles.bind
    (settles_bindStrictly_empty .float intsAcceptable noFloats snapshot.floats)
  · simp only [List.append_assoc, List.prefix_append_right_inj, List.nil_append,
      List.prefix_append]
  intro floatsAcceptable
  have noStrings :
      ∀ key ∈ keysOf .bool bools ++ keysOf .int snapshot.ints ++
        keysOf .float snapshot.floats,
        key.1 ≠ .string :=
    List.forall_mem_append.2 ⟨List.forall_mem_append.2
      ⟨kind_ne_of_mem_keysOf (by decide), kind_ne_of_mem_keysOf (by decide)⟩,
        kind_ne_of_mem_keysOf (by decide)⟩
  apply Settles.bind
    (settles_bindStrictly_empty .string floatsAcceptable noStrings strings)
  · exact List.prefix_refl _
  intro stringsAcceptable
  exact Or.inl ⟨stringsAcceptable, rfl⟩

/-- What taking over a snapshot comes to: leniently the store, and strictly the
same store or the first error. -/
structure TakesOver (snapshot : Snapshot) (store : Store) : Prop where
  /-- The flags before have no part in it. -/
  lenient : ∀ prior : Store, prior.apply (.takeOver snapshot) = store
  bools : store.bools.HoldsLast (snapshot.bools.map fun name => (name, ()))
  ints : store.ints.HoldsLast snapshot.ints
  floats : store.floats.HoldsLast snapshot.floats
  strings : store.strings.HoldsLast
    (snapshot.strings.map fun entry => (entry.1, Text.trim entry.2))
  accepted_iff :
    (∃ strict, ofSnapshotStrict snapshot = .ok strict) ↔ Acceptable snapshot.keys
  same : ∀ strict, ofSnapshotStrict snapshot = .ok strict → strict = store
  refused :
    ∀ error, ofSnapshotStrict snapshot = .error error → TellsFirst snapshot.keys error

/-- Leniently the last entry of a name wins, and strictly the first offence is
told. Without an offence both come to the same. -/
theorem last_entry_wins_or_first_offence_is_told (snapshot : Snapshot) :
    TakesOver snapshot (ofSnapshot snapshot) := by
  have settles := settles_ofSnapshotStrict snapshot
  refine {
    lenient := fun prior => rfl
    bools := ?_, ints := ?_, floats := ?_, strings := ?_
    accepted_iff := ?_
    same := fun strict succeeds => (settles.acceptable_of_eq_ok succeeds).2
    refused := fun error failed => settles.tellsFirst_of_eq_error failed }
  · rw [ofSnapshot_eq]
    exact Bindings.holdsLast_bindEach _
  · rw [ofSnapshot_eq]
    exact Bindings.holdsLast_bindEach _
  · rw [ofSnapshot_eq]
    exact Bindings.holdsLast_bindEach _
  · rw [ofSnapshot_eq]
    exact Bindings.holdsLast_bindEach _
  · constructor
    · rintro ⟨strict, succeeds⟩
      exact (settles.acceptable_of_eq_ok succeeds).1
    · intro acceptable
      exact ⟨_, settles.eq_ok_of_acceptable acceptable⟩

end Store

end Colloquy.Flag
