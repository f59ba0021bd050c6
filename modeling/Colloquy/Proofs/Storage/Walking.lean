import Colloquy.Proofs.Storage.Changes

/-!
# Walking along paths

A path resolves as far as it leads through directories. The path of a name below
a directory leads to the place of that name below the place of the directory,
with or without a slash at the directory's end.
-/

namespace Colloquy.Storage

private theorem splitSlashes_append_cons (front back : List Char) :
    splitSlashes (front ++ '/' :: back) = splitSlashes front ++ splitSlashes back := by
  induction front with
  | nil =>
      simp [splitSlashes]
  | cons c front inductionHypothesis =>
      by_cases slash : c = '/'
      · simp [splitSlashes, slash, inductionHypothesis]
      · obtain ⟨piece, others, pieces⟩ :
            ∃ piece others, splitSlashes front = piece :: others := by
          cases front with
          | nil =>
              exact ⟨_, _, rfl⟩
          | cons first rest =>
              unfold splitSlashes
              split
              · exact ⟨_, _, rfl⟩
              · split
                · exact ⟨_, _, rfl⟩
                · exact ⟨_, _, rfl⟩
        simp [splitSlashes, slash, inductionHypothesis, pieces]

private theorem splitSlashes_of_not_mem
    {characters : List Char}
    (noSlash : '/' ∉ characters) :
    splitSlashes characters = [characters] := by
  induction characters with
  | nil =>
      rfl
  | cons c rest inductionHypothesis =>
      have notSlash : c ≠ '/' := fun equal => noSlash (equal ▸ List.mem_cons_self)
      have others :=
        inductionHypothesis fun member => noSlash (List.mem_cons_of_mem _ member)
      simp [splitSlashes, notSlash, others]

/-- A name that stands for itself on a path. -/
structure IsComponent (name : String) : Prop where
  nonempty : name ≠ ""
  notHere : name ≠ "."
  notAbove : name ≠ ".."
  noSlash : '/' ∉ name.toList

private theorem IsComponent.not_isAbsolute
    {name : String}
    (isComponent : IsComponent name) :
    isAbsolute name = false := by
  unfold isAbsolute
  refine decide_eq_false fun absolute => ?_
  exact isComponent.noSlash (List.mem_of_mem_head? absolute)

private theorem isAbsolute_append
    {path : String}
    (nonempty : path ≠ "")
    (rest : String) :
    isAbsolute (path ++ rest) = isAbsolute path := by
  have someCharacter : path.toList ≠ [] :=
    fun none => nonempty (String.toList_eq_nil_iff.1 none)
  obtain ⟨first, others, characters⟩ := List.exists_cons_of_ne_nil someCharacter
  simp [isAbsolute, String.toList_append, characters]

/-- The components of a path below a directory are those of the directory, but
for an empty one at the end, and the name. -/
theorem exists_components_join
    {directory name : String}
    (isComponent : IsComponent name)
    (nonempty : directory ≠ "") :
    ∃ front, components (join directory name) = front ++ [name] ∧
      (components directory = front ∨ components directory = front ++ [""]) := by
  have nameAlone : splitSlashes name.toList = [name.toList] :=
    splitSlashes_of_not_mem isComponent.noSlash
  have absolute := isAbsolute_append nonempty
  unfold join
  rw [isComponent.not_isAbsolute, Bool.false_or]
  have notEmpty : directory.isEmpty = false := by
    simpa using nonempty
  rw [notEmpty, if_neg Bool.false_ne_true]
  split
  · rename_i slashAtEnd
    obtain ⟨front, characters⟩ := List.getLast?_eq_some_iff.1 slashAtEnd
    refine ⟨(if isAbsolute directory then ["/"] else []) ++
      (splitSlashes front).map String.ofList, ?_, .inr ?_⟩
    · simp only [components, absolute, String.toList_append, characters,
        List.append_assoc, List.singleton_append, splitSlashes_append_cons, nameAlone,
        List.map_append, List.map_cons, List.map_nil, String.ofList_toList]
      split
      · rfl
      · rfl
    · simp only [components, characters, splitSlashes_append_cons, List.map_append]
      split
      · rfl
      · rfl
  · refine ⟨components directory, ?_, .inl rfl⟩
    have characters :
        (directory ++ "/" ++ name).toList = directory.toList ++ '/' :: name.toList := by
      simp [String.toList_append]
    have sameStart : isAbsolute (directory ++ "/" ++ name) = isAbsolute directory := by
      rw [String.append_assoc]
      exact absolute _
    simp only [components, sameStart, characters, splitSlashes_append_cons, nameAlone,
      List.map_append, List.map_cons, List.map_nil, String.ofList_toList]
    split
    · rfl
    · rfl

namespace Disk

variable {disk after : Disk}

/-! ## Walking -/

theorem enter_eq_ok_iff {place : List String} {done : Unit} :
    disk.enter place = .ok done ↔ disk.item? place = some .directory := by
  unfold enter
  cases disk.item? place with
  | none =>
      simp
  | some item =>
      cases item with
      | file content modified =>
          simp
      | directory =>
          simp

private theorem walk_append (place : List String) (front back : List String) :
    disk.walk place (front ++ back) =
      (disk.walk place front >>= fun reached => disk.walk reached back) := by
  induction front generalizing place with
  | nil =>
      rfl
  | cons component rest inductionHypothesis =>
      simp only [List.cons_append, walk]
      cases disk.enter place with
      | error fault =>
          rfl
      | ok _ =>
          simp only [inductionHypothesis]
          split
          · rfl
          · split
            · rfl
            · split
              · rfl
              · rfl

/-- Where a walk leads, it goes on leading while directories stay. -/
theorem walk_of_directories
    (directories : ∀ place, disk.item? place = some .directory →
      after.item? place = some .directory)
    {place reached : List String} {components : List String}
    (walks : disk.walk place components = .ok reached) :
    after.walk place components = .ok reached := by
  induction components generalizing place with
  | nil =>
      exact walks
  | cons component rest inductionHypothesis =>
      simp only [walk] at walks ⊢
      obtain ⟨_, entered, walks⟩ := bind_eq_ok_iff.1 walks
      refine bind_eq_ok_iff.2
        ⟨(), enter_eq_ok_iff.2 (directories place (enter_eq_ok_iff.1 entered)), ?_⟩
      split
      · rename_i stays
        rw [if_pos stays] at walks
        exact inductionHypothesis walks
      · rename_i stays
        rw [if_neg stays] at walks
        split
        · rename_i leaves
          rw [if_pos leaves] at walks
          exact inductionHypothesis walks
        · rename_i leaves
          rw [if_neg leaves] at walks
          split
          · rename_i tooLong
            rw [if_pos tooLong] at walks
            cases walks
          · rename_i tooLong
            rw [if_neg tooLong] at walks
            exact inductionHypothesis walks

/-- A path still resolves to the same place on a disk with further directories. -/
theorem resolve_of_directories
    (directories : ∀ place, disk.item? place = some .directory →
      after.item? place = some .directory)
    {path : String} {place : List String}
    (resolves : disk.resolve path = .ok place) :
    after.resolve path = .ok place := by
  unfold resolve at resolves ⊢
  split
  · rename_i empty
    rw [if_pos empty] at resolves
    cases resolves
  · rename_i empty
    rw [if_neg empty] at resolves
    exact walk_of_directories directories resolves

private theorem walk_singleton_eq_ok_iff
    {name : String} {place reached : List String}
    (isComponent : IsComponent name) :
    disk.walk place [name] = .ok reached ↔
      disk.item? place = some .directory ∧ name.utf8ByteSize ≤ longestName ∧
        reached = place ++ [name] := by
  have notEmpty : name.isEmpty = false := by
    simpa using isComponent.nonempty
  simp only [walk, bind_eq_ok_iff, enter_eq_ok_iff, notEmpty, isComponent.notHere,
    isComponent.notAbove, decide_false, Bool.or_self, Bool.false_eq_true, if_false,
      exists_const]
  by_cases tooLong : longestName < name.utf8ByteSize
  · simp [tooLong, Nat.not_le.2 tooLong]
  · simp [tooLong, Nat.not_lt.1 tooLong, eq_comm]

/-- Where the path of a name below a directory leads. -/
theorem resolve_join_eq_ok_iff
    {directory name : String} {reached : List String}
    (isComponent : IsComponent name)
    (nonempty : directory ≠ "") :
    disk.resolve (join directory name) = .ok reached ↔
      ∃ place, disk.resolve directory = .ok place ∧ disk.item? place = some .directory ∧
        name.utf8ByteSize ≤ longestName ∧ reached = place ++ [name] := by
  obtain ⟨front, joined, directoryComponents⟩ :=
    exists_components_join isComponent nonempty
  have notEmpty : directory.isEmpty = false := by
    simpa using nonempty
  have someComponent : (join directory name).isEmpty = false := by
    refine Bool.eq_false_iff.2 fun isEmpty => ?_
    rw [String.isEmpty_iff.1 isEmpty] at joined
    have alone : [""] = front ++ [name] := joined
    have last := congrArg List.getLast? alone
    rw [List.getLast?_concat] at last
    exact isComponent.nonempty (Option.some.inj last).symm
  simp only [resolve, someComponent, notEmpty, Bool.false_eq_true, if_false, joined,
    walk_append, bind_eq_ok_iff, walk_singleton_eq_ok_iff isComponent]
  rcases directoryComponents with same | trailing
  · simp only [same]
  · have stays : ∀ place reached, disk.walk place [""] = .ok reached ↔
        disk.item? place = some .directory ∧ reached = place := by
      intro place reached
      have here : ("".isEmpty || decide ("" = ".")) = true := rfl
      simp only [walk, here, if_true, bind_eq_ok_iff, enter_eq_ok_iff, exists_const,
        Except.ok.injEq]
      exact and_congr_right fun _ => eq_comm
    simp only [trailing, walk_append, bind_eq_ok_iff, stays]
    constructor
    · rintro ⟨place, walks, isDirectory, short, isReached⟩
      exact ⟨place, ⟨place, walks, isDirectory, rfl⟩, isDirectory, short, isReached⟩
    · rintro ⟨_, ⟨place, walks, _, rfl⟩, isDirectory, short, isReached⟩
      exact ⟨_, walks, isDirectory, short, isReached⟩

end Disk

end Colloquy.Storage
