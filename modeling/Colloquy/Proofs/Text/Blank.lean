import Colloquy.Text.Blank
import Mathlib.Data.List.DropRight

/-!
# Trimmed texts

A trimmed text does not change when it is trimmed again, blanks around a text do
not change its trimmed form, and what is left of a text with characters that are
no blanks ends in one of them.
-/

namespace Colloquy.Text

theorem dropEndWhile_eq_rdropWhile (drop : Char → Bool) (characters : List Char) :
    dropEndWhile drop characters = characters.rdropWhile drop :=
  rfl

/-- Neither end of a trimmed list of characters is a blank. -/
theorem dropWhile_trimChars (characters : List Char) :
    (trimChars characters).dropWhile isBlank = trimChars characters := by
  have front : trimChars characters <+: characters.dropWhile isBlank := by
    rw [trimChars, dropEndWhile_eq_rdropWhile]
    exact List.rdropWhile_prefix isBlank _
  refine List.dropWhile_eq_self_iff.2 fun nonempty => ?_
  have longer : 0 < (characters.dropWhile isBlank).length :=
    Nat.lt_of_lt_of_le nonempty front.length_le
  rw [front.getElem nonempty]
  exact List.dropWhile_get_zero_not isBlank characters longer

@[simp]
theorem trimChars_trimChars (characters : List Char) :
    trimChars (trimChars characters) = trimChars characters := by
  have again := dropWhile_trimChars characters
  unfold trimChars at again ⊢
  rw [again, dropEndWhile_eq_rdropWhile, dropEndWhile_eq_rdropWhile,
    List.rdropWhile_idempotent]

@[simp]
theorem toList_trim (text : String) : (trim text).toList = trimChars text.toList :=
  String.toList_ofList

/-- Trimming a trimmed text changes nothing. -/
@[simp]
theorem trim_trim (text : String) : trim (trim text) = trim text := by
  simp [trim]

private theorem dropEndWhile_append_of_blank
    {back : List Char}
    (blank : ∀ c ∈ back, isBlank c = true)
    (characters : List Char) :
    dropEndWhile isBlank (characters ++ back) = dropEndWhile isBlank characters := by
  have reversed : ∀ c ∈ back.reverse, isBlank c = true := fun c member =>
    blank c (List.mem_reverse.1 member)
  rw [dropEndWhile, dropEndWhile, List.reverse_append,
    List.dropWhile_append_of_pos reversed]

theorem trimChars_append_of_blank
    {back : List Char}
    (blank : ∀ c ∈ back, isBlank c = true)
    (characters : List Char) :
    trimChars (characters ++ back) = trimChars characters := by
  rw [trimChars, trimChars, List.dropWhile_append]
  split
  · rename_i allBlank
    rw [List.isEmpty_iff.1 allBlank, List.dropWhile_eq_nil_iff.2 blank]
  · exact dropEndWhile_append_of_blank blank _

private theorem trimChars_eq_nil_iff {characters : List Char} :
    trimChars characters = [] ↔ ∀ c ∈ characters, isBlank c = true := by
  constructor
  · intro empty c member
    rw [trimChars, dropEndWhile_eq_rdropWhile, List.rdropWhile_eq_nil_iff] at empty
    rw [← List.takeWhile_append_dropWhile (p := isBlank) (l := characters)] at member
    rcases List.mem_append.1 member with inFront | behind
    · exact List.mem_takeWhile_imp inFront
    · exact empty c behind
  · intro blank
    exact trimChars_append_of_blank blank []

/-- Exactly the texts of blanks alone are trimmed to the empty one. -/
theorem trim_eq_empty_iff {text : String} :
    trim text = "" ↔ ∀ c ∈ text.toList, isBlank c = true := by
  rw [← String.toList_inj, toList_trim]
  exact trimChars_eq_nil_iff

/-- The end of a trimmed list of characters is not blank, unless it is empty. -/
theorem eq_nil_of_trimChars_eq_append
    {characters before after : List Char}
    (split : trimChars characters = before ++ after)
    (blank : ∀ c ∈ after, isBlank c = true) :
    after = [] := by
  have fixed : dropEndWhile isBlank (trimChars characters) = trimChars characters :=
    List.rdropWhile_idempotent isBlank _
  have shorter : (before ++ after).length ≤ before.length := by
    rw [← split, ← fixed, split, dropEndWhile_append_of_blank blank]
    exact (List.rdropWhile_prefix isBlank before).length_le
  rw [List.length_append] at shorter
  exact List.eq_nil_of_length_eq_zero (by omega)

/-- The beginning of a trimmed list of characters is not blank, unless it is empty. -/
theorem eq_nil_of_trimChars_eq_blanks_append
    {characters before after : List Char}
    (split : trimChars characters = before ++ after)
    (blank : ∀ c ∈ before, isBlank c = true) :
    before = [] := by
  have fixed : after.dropWhile isBlank = before ++ after := by
    rw [← List.dropWhile_append_of_pos blank, ← split]
    exact dropWhile_trimChars characters
  have shorter : (before ++ after).length ≤ after.length := by
    rw [← fixed]
    exact (List.dropWhile_suffix isBlank).length_le
  rw [List.length_append] at shorter
  exact List.eq_nil_of_length_eq_zero (by omega)

/-- A text without blanks is trimmed already. -/
theorem trim_of_solid
    {text : String}
    (solid : ∀ c ∈ text.toList, isBlank c = false) :
    trim text = text := by
  have front : text.toList.dropWhile isBlank = text.toList :=
    List.dropWhile_eq_self_iff.2 fun longer =>
      by simp [solid _ (List.getElem_mem longer)]
  have back : text.toList.rdropWhile isBlank = text.toList :=
    List.rdropWhile_eq_self_iff.2 fun nonempty =>
      by simp [solid _ (List.getLast_mem nonempty)]
  rw [trim, trimChars, front, dropEndWhile_eq_rdropWhile, back, String.ofList_toList]

private theorem trimChars_blanks_append
    {front : List Char}
    (blank : ∀ c ∈ front, isBlank c = true)
    (characters : List Char) :
    trimChars (front ++ characters) = trimChars characters := by
  rw [trimChars, trimChars, List.dropWhile_append_of_pos blank]

theorem trim_between_blanks
    {front back : String}
    (frontBlank : ∀ c ∈ front.toList, isBlank c = true)
    (backBlank : ∀ c ∈ back.toList, isBlank c = true)
    (text : String) :
    trim (front ++ text ++ back) = trim text := by
  rw [trim, trim, String.toList_append, String.toList_append,
    trimChars_append_of_blank backBlank, trimChars_blanks_append frontBlank]

theorem trimChars_dropWhile (characters : List Char) :
    trimChars (characters.dropWhile isBlank) = trimChars characters := by
  rw [trimChars, trimChars, List.dropWhile_idempotent]

theorem trimChars_dropEndWhile (characters : List Char) :
    trimChars (dropEndWhile isBlank characters) = trimChars characters := by
  have blank : ∀ c ∈ characters.rtakeWhile isBlank, isBlank c = true :=
    fun c => List.mem_rtakeWhile_imp
  rw [← trimChars_append_of_blank blank, dropEndWhile_eq_rdropWhile,
    List.rdropWhile_append_rtakeWhile]

/-- If the first and the last part of a text show, trimming the text takes
blanks from these parts only. -/
theorem trimChars_append_append
    {front back : List Char}
    (showsFront : trimChars front ≠ [])
    (showsBack : trimChars back ≠ [])
    (middle : List Char) :
    trimChars (front ++ middle ++ back) =
      front.dropWhile isBlank ++ middle ++ dropEndWhile isBlank back := by
  have frontLeft : ¬ (front.dropWhile isBlank).isEmpty = true := by
    intro nothing
    rw [← trimChars_dropWhile, List.isEmpty_iff.1 nothing] at showsFront
    exact showsFront rfl
  have backLeft : ¬ (back.reverse.dropWhile isBlank).isEmpty = true := by
    intro nothing
    rw [← trimChars_dropEndWhile, dropEndWhile, List.isEmpty_iff.1 nothing] at showsBack
    exact showsBack rfl
  rw [trimChars, List.append_assoc, List.dropWhile_append, if_neg frontLeft,
    ← List.append_assoc, dropEndWhile, List.reverse_append, List.dropWhile_append,
    if_neg backLeft, List.reverse_append, List.reverse_reverse, dropEndWhile]

end Colloquy.Text
