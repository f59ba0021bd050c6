import Colloquy.Flag.Assignment
import Colloquy.Proofs.Flag.Comparing

/-!
# Assigning and asking

Assignments and expressions are written alike, so the text of an assignment can
also be asked. Once it has been written it holds, unless its value is empty or
has operator characters: such a text asks nothing. What the name was set to
before, in any namespace, does not matter.
-/

namespace Colloquy.Flag

open Text

/-- What stands behind the first equals sign of a text. -/
def valueText (text : String) : String :=
  String.ofList ((text.toList.dropWhile (· != '=')).drop 1)

private theorem dropWhile_append_equals
    {before : List Char}
    (first : '=' ∉ before)
    (rest : List Char) :
    (before ++ '=' :: rest).dropWhile (· != '=') = '=' :: rest := by
  have noneBefore : ∀ c ∈ before, (c != '=') = true := by
    intro c member
    rw [bne_iff_ne]
    rintro rfl
    exact first member
  rw [List.dropWhile_append_of_pos noneBefore]
  rfl

/-- A text, trimmed, is what stands before and what stands behind its first
equals sign. -/
structure CutAt (text : String) (before after : List Char) : Prop where
  split : trimChars text.toList = before ++ '=' :: after
  first : '=' ∉ before

namespace CutAt

variable {text : String} {before after : List Char}

/-- The blanks around a text stay out of what is read as its value. -/
theorem trim_valueText (cut : CutAt text before after) :
    trim (valueText text) = trim (String.ofList after) := by
  obtain ⟨front, back, split, frontBlank, backBlank⟩ :=
    exists_eq_blanks_append text.toList
  have notInFront : '=' ∉ front :=
    fun member => absurd (frontBlank '=' member) (by decide)
  have firstOfAll : '=' ∉ front ++ before := by
    rw [List.mem_append]
    exact not_or.2 ⟨notInFront, cut.first⟩
  have rejoined : text.toList = (front ++ before) ++ '=' :: (after ++ back) := by
    rw [split, cut.split]
    simp only [List.append_assoc, List.cons_append]
  have behind : text.toList.dropWhile (· != '=') = '=' :: (after ++ back) := by
    rw [rejoined, dropWhile_append_equals firstOfAll]
  have sameTrimmed : trimChars (after ++ back) = trimChars after :=
    trimChars_append_of_blank backBlank after
  rw [trim, trim, valueText, behind]
  simpa using congrArg String.ofList sameTrimmed

private theorem eq_nil_of_trim_eq_empty
    (cut : CutAt text before after)
    (empty : trim (String.ofList after) = "") :
    after = [] := by
  have blank : ∀ c ∈ after, isBlank c = true := by
    simpa using trim_eq_empty_iff.1 empty
  have split : trimChars text.toList = (before ++ ['=']) ++ after := by
    simpa using cut.split
  exact eq_nil_of_trimChars_eq_append split blank

end CutAt

/-- A text is read as a bare name or cut at its first equals sign. -/
theorem Assignment.read?_cases
    {text : String} {assignment : Assignment}
    (isRead : read? text = some assignment) :
    assignment = .bool (trim text) ∨
      ∃ before after, CutAt text before after ∧ trim (String.ofList before) ≠ "" ∧
        assignment =
          ofValue (trim (String.ofList before)) (trim (String.ofList after)) := by
  unfold read? at isRead
  simp only [toList_trim] at isRead
  split at isRead
  · split at isRead
    · cases isRead
    · exact .inl (Option.some.inj isRead).symm
  · rename_i sign after isCut
    split at isRead
    · cases isRead
    · rename_i accepted
      rw [Bool.or_eq_true, not_or, String.isEmpty_iff] at accepted
      refine .inr ⟨_, after, ⟨?_, ?_⟩, accepted.1, (Option.some.inj isRead).symm⟩
      · have isSign : sign = '=' := by
          have head := List.head_dropWhile_not (· != '=') (l := trimChars text.toList)
            (by rw [isCut]; exact List.cons_ne_nil _ _)
          simpa [isCut] using head
        subst isSign
        rw [← isCut, List.takeWhile_append_dropWhile]
      · intro member
        simpa using List.mem_takeWhile_imp member

namespace CutAt

variable {text : String} {before after : List Char}

/-- If the front of a cut text is free of operator characters, the equals sign
is the first one of the text. -/
theorem expression_read?_eq
    (cut : CutAt text before after)
    (free : isName (String.ofList before) = true) :
    Expression.read? text =
      if before.isEmpty || (after.dropWhile isOperatorChar).isEmpty ||
          (after.dropWhile isOperatorChar).any isOperatorChar then none
      else
        (Comparison.ofSymbol? ('=' :: after.takeWhile isOperatorChar)).map
          fun comparison =>
          .compare (trim (String.ofList before)) comparison
            (trim (String.ofList (after.dropWhile isOperatorChar))) := by
  have isEqualsSign : isOperatorChar '=' = true := rfl
  have notName : isName (trim text) = false := by
    simp [isName, cut.split, isEqualsSign]
  have noneBefore : ∀ c ∈ before, isOperatorChar c = false := fun c member =>
    isName_iff_forall.1 free c (by simpa using member)
  have scanned := scan_append_operatorChar noneBefore isEqualsSign after
  rw [Expression.read?_eq, notName, toList_trim, cut.split, piecesOf, scanned.1,
    scanned.2, List.takeWhile_cons_of_pos isEqualsSign,
    List.dropWhile_cons_of_pos isEqualsSign]
  rfl

private theorem expression_read?_of_isName
    (cut : CutAt text before after)
    (free : isName (String.ofList before) = true)
    (nonempty : before ≠ [])
    (valued : after ≠ [])
    (valueFree : isName (String.ofList after) = true) :
    Expression.read? text =
      some (.compare (trim (String.ofList before)) .equal
        (trim (String.ofList after))) := by
  apply Expression.read?_of_splits
  exact {
    whole := by
      rw [← String.toList_inj, toList_trim, cut.split]
      simp [Comparison.symbol]
    known := by decide
    someBefore := by simpa using nonempty
    someAfter := by simpa using valued
    freeBefore := free
    freeAfter := valueFree }

/-- It asks nothing if its value is empty or has operator characters, wherever
they stand. -/
theorem expression_read?_of_not_isName
    (cut : CutAt text before after)
    (free : isName (String.ofList before) = true)
    (malformed : after = [] ∨ isName (String.ofList after) = false) :
    Expression.read? text = none := by
  rw [cut.expression_read?_eq free]
  cases after with
  | nil =>
      simp
  | cons head tail =>
      have notFree : isName (String.ofList (head :: tail)) = false := by
        simpa using malformed
      by_cases isOperator : isOperatorChar head = true
      · rw [List.takeWhile_cons_of_pos isOperator]
        simp [Comparison.ofSymbol?]
      · have someOperator : (head :: tail).any isOperatorChar = true := by
          simpa only [isName, String.toList_ofList, Bool.not_eq_false'] using notFree
        rw [List.dropWhile_cons_of_neg isOperator, someOperator]
        simp

end CutAt

namespace Assignment

variable {assignment : Assignment} {store after : Store}

theorem name_ofValue (name value : String) : (ofValue name value).name = name := by
  unfold ofValue
  split
  · rfl
  · split <;> rfl

private theorem ofValue_ne_bool (name value other : String) :
    ofValue name value ≠ .bool other := by
  unfold ofValue
  split
  · simp
  · split <;> simp

/-- The name in an assignment that was read is trimmed. -/
theorem trim_name_of_read?
    {text : String}
    (isRead : read? text = some assignment) :
    trim assignment.name = assignment.name := by
  rcases read?_cases isRead with isBare | ⟨before, after, -, -, isValued⟩
  · rw [isBare, name, trim_trim]
  · rw [isValued, name_ofValue, trim_trim]

/-- No assignment is read without a name. -/
theorem name_ne_empty_of_read?
    {text : String}
    (isRead : read? text = some assignment) :
    assignment.name ≠ "" := by
  unfold read? at isRead
  dsimp only at isRead
  split at isRead
  · split at isRead
    · cases isRead
    · rename_i shows
      rw [String.isEmpty_iff] at shows
      rw [← Option.some.inj isRead]
      exact shows
  · split at isRead
    · cases isRead
    · rename_i accepted
      rw [← Option.some.inj isRead, name_ofValue]
      rw [Bool.or_eq_true, not_or, String.isEmpty_iff] at accepted
      exact accepted.1

private theorem isName_of_write? (isWritten : assignment.write? store = some after) :
    isName assignment.name = true := by
  cases assignment with
  | _ =>
      simp only [write?, Store.setBool?, Store.setInt?, Store.setFloat?,
        Store.setString?] at isWritten
      exact (of_map_name?_eq_some isWritten).1

private theorem hasBool_of_write?
    {name : String}
    (isWritten : (bool name).write? store = some after) :
    after.hasBool name = true := by
  simp only [write?, Store.setBool?] at isWritten
  obtain ⟨-, rfl⟩ := of_map_name?_eq_some isWritten
  simp [Store.hasBool, Bindings.contains]

private theorem same_self_of_isFinite
    {number : Number.Single} (finite : number.isFinite = true) :
    number.same number = true := by
  cases number with
  | finite negative rank =>
      simp [Number.Single.same, Number.Single.position]
  | _ =>
      cases finite

/-- The namespace in which a value is written is the one in which an equality
with it is asked. -/
theorem compareFlag_of_write?
    {name value : String}
    (trimmed : trim value = value)
    (isWritten : (ofValue name value).write? store = some after) :
    Expression.compareFlag after name .equal value = true := by
  unfold ofValue at isWritten
  cases asInt : Number.readInt32? value with
  | some integer =>
      simp only [asInt, write?] at isWritten
      rw [Expression.compareFlag_of_int asInt (Store.int?_of_setInt? isWritten)]
      simp [Comparison.holdsInt, Comparison.holds]
  | none =>
      cases asFloat : Number.readFinite? value with
      | some number =>
          have finite : number.isFinite = true :=
            (Option.filter_eq_some_iff.1 asFloat).2
          simp only [asInt, asFloat, write?] at isWritten
          rw [Expression.compareFlag_of_float (by simp [asInt]) asFloat
            (Store.float?_of_setFloat? isWritten)]
          simp [Comparison.holdsSingle, Comparison.holds, same_self_of_isFinite finite]
      | none =>
          simp only [asInt, asFloat, write?] at isWritten
          rw [Expression.compareFlag_of_string asInt asFloat
            (Store.string?_of_setString? isWritten)]
          simp [Comparison.holdsText, trimmed]

end Assignment

/-! ## Asking what was assigned -/

private theorem hasFlag_iff_of_cut
    {text : String} {before after : List Char} {store written : Store}
    (cut : CutAt text before after)
    (named : trim (String.ofList before) ≠ "")
    (isWritten : (Assignment.ofValue (trim (String.ofList before))
      (trim (String.ofList after))).write? store = some written) :
    written.hasFlag text = true ↔
      trim (valueText text) ≠ "" ∧ isName (trim (valueText text)) = true := by
  have free : isName (String.ofList before) = true := by
    have nameFree := Assignment.isName_of_write? isWritten
    rwa [Assignment.name_ofValue, isName_trim] at nameFree
  have nonempty : before ≠ [] := by
    rintro rfl
    exact named rfl
  rw [cut.trim_valueText, isName_trim, Store.hasFlag]
  by_cases fits : trim (String.ofList after) ≠ "" ∧ isName (String.ofList after) = true
  · obtain ⟨filled, valueFree⟩ := fits
    have valued : after ≠ [] := by
      rintro rfl
      exact filled rfl
    rw [cut.expression_read?_of_isName free nonempty valued valueFree]
    simp only [Expression.holds]
    exact iff_of_true (Assignment.compareFlag_of_write? (trim_trim _) isWritten)
      ⟨filled, valueFree⟩
  · have malformed : after = [] ∨ isName (String.ofList after) = false := by
      by_cases valueFree : isName (String.ofList after) = true
      · by_cases empty : trim (String.ofList after) = ""
        · exact .inl (cut.eq_nil_of_trim_eq_empty empty)
        · exact absurd ⟨empty, valueFree⟩ fits
      · exact .inr (by simpa using valueFree)
    rw [cut.expression_read?_of_not_isName free malformed]
    exact iff_of_false Bool.false_ne_true fits

private theorem hasFlag_of_write?_bool
    {text : String} {store written : Store}
    (isWritten : (Assignment.bool (trim text)).write? store = some written) :
    written.hasFlag text = true := by
  have free := Assignment.isName_of_write? isWritten
  simp only [Assignment.name] at free
  simp only [Store.hasFlag, Expression.read?, free, if_true, Expression.holds]
  exact Assignment.hasBool_of_write? isWritten

private theorem hasFlag_iff_of_write?
    {text : String} {assignment : Assignment} {store written : Store}
    (isRead : Assignment.read? text = some assignment)
    (isWritten : assignment.write? store = some written) :
    written.hasFlag text = true ↔
      (∃ name, assignment = .bool name) ∨
        (trim (valueText text) ≠ "" ∧ isName (trim (valueText text)) = true) := by
  rcases Assignment.read?_cases isRead with isBare |
    ⟨before, after, cut, named, isValued⟩
  · rw [isBare] at isWritten ⊢
    exact iff_of_true (hasFlag_of_write?_bool isWritten) (.inl ⟨trim text, rfl⟩)
  · rw [isValued] at isWritten ⊢
    have notBool : ¬ ∃ name, Assignment.ofValue (trim (String.ofList before))
        (trim (String.ofList after)) = .bool name := by
      rintro ⟨name, isBool⟩
      exact Assignment.ofValue_ne_bool _ _ name isBool
    rw [or_iff_right notBool]
    exact hasFlag_iff_of_cut cut named isWritten

/-- Assigning and asking agree: once the assignment that a text is read as has
been written, the text holds exactly if it is a bare name or what stands behind
its first equals sign is, trimmed, neither empty nor broken by an operator
character. What the store had held plays no part. -/
theorem hasFlag_after_assigning
    {text : String} {assignment : Assignment} {store written : Store}
    (isRead : Assignment.read? text = some assignment)
    (isWritten : assignment.write? store = some written) :
    (written.hasFlag text = true ↔
      (∃ name, assignment = .bool name) ∨
        (trim (valueText text) ≠ "" ∧ isName (trim (valueText text)) = true)) ∧
    ∀ other otherWritten, assignment.write? other = some otherWritten →
      otherWritten.hasFlag text = written.hasFlag text := by
  have holdsIff := hasFlag_iff_of_write? isRead isWritten
  refine ⟨holdsIff, fun other otherWritten isOtherWritten => ?_⟩
  rw [Bool.eq_iff_iff, holdsIff]
  exact hasFlag_iff_of_write? isRead isOtherWritten

/-- A number too large for an integer is assigned to a name that an integer and
a text also have. -/
theorem hasFlag_after_assigning_large_number :
    ∃ written,
      (Assignment.ofValue "gold" "3000000000").write?
          { ints := Bindings.empty.insert "gold" 7,
            strings := Bindings.empty.insert "gold" "3000000000" } = some written ∧
        written.hasFlag " gold = 3000000000 " = true := by
  have isRead : Assignment.read? " gold = 3000000000 " =
      some (Assignment.ofValue "gold" "3000000000") := by
    decide +kernel
  obtain ⟨written, isWritten⟩ := Option.isSome_iff_exists.1
    (show ((Assignment.ofValue "gold" "3000000000").write?
      { ints := Bindings.empty.insert "gold" 7,
        strings :=
          Bindings.empty.insert "gold" "3000000000" }).isSome = true by decide +kernel)
  have askable : trim (valueText " gold = 3000000000 ") ≠ "" ∧
      isName (trim (valueText " gold = 3000000000 ")) = true := by
    decide +kernel
  exact ⟨written, isWritten,
    (hasFlag_after_assigning isRead isWritten).1.2 (.inr askable)⟩

end Colloquy.Flag
