import Colloquy.Flag.Name
import Colloquy.Proofs.Text.Words

/-!
# What is a name

A text is a name exactly if none of its characters is one of operators. Blanks
are none of these, so a text is a name exactly if its trimmed form is, under
which flags are written.
-/

namespace Colloquy.Flag

open Text

private theorem not_isOperatorChar_of_isBlank {c : Char} (blank : isBlank c = true) :
    isOperatorChar c = false := by
  cases isOperator : isOperatorChar c with
  | false =>
      rfl
  | true =>
      have isListed : ((c = '>' ∨ c = '<') ∨ c = '=') ∨ c = '!' := by
        simpa [isOperatorChar] using isOperator
      rcases isListed with ((rfl | rfl) | rfl) | rfl <;> exact absurd blank (by decide)

theorem isName_iff_forall {text : String} :
    isName text = true ↔ ∀ c ∈ text.toList, isOperatorChar c = false := by
  simp [isName]

/-- Blanks are no operator characters, so trimming does not change whether a
text has some. -/
@[simp]
theorem isName_trim (text : String) : isName (trim text) = isName text := by
  obtain ⟨front, back, split, frontBlank, backBlank⟩ :=
    exists_eq_blanks_append text.toList
  have free : ∀ blanks : List Char, (∀ c ∈ blanks, isBlank c = true) →
      blanks.any isOperatorChar = false := by
    intro blanks blank
    rw [List.any_eq_false]
    intro c member
    simp [not_isOperatorChar_of_isBlank (blank c member)]
  unfold isName
  rw [toList_trim, split, List.any_append, List.any_append, free front frontBlank,
    free back backBlank, Bool.false_or, Bool.or_false, ← split]

/-- A text is accepted as a name if it is free of operator characters, and is
trimmed then. -/
theorem name?_eq_some_iff {text key : String} :
    name? text = some key ↔ isName text = true ∧ key = trim text := by
  rw [name?, isName_trim]
  by_cases free : isName text = true
  · simp [free, eq_comm]
  · simp [free]

/-- What is written under a name is written under the trimmed name. -/
theorem of_map_name?_eq_some
    {α : Type} {write : String → α} {written : α} {text : String}
    (isWritten : (name? text).map write = some written) :
    isName text = true ∧ written = write (trim text) := by
  obtain ⟨key, isKey, rfl⟩ := Option.map_eq_some_iff.1 isWritten
  obtain ⟨free, rfl⟩ := name?_eq_some_iff.1 isKey
  exact ⟨free, rfl⟩

/-- A scan for the first operator character stops behind the characters that are
none. -/
theorem scan_append_operatorChar
    {before : List Char} {c : Char}
    (free : ∀ c ∈ before, isOperatorChar c = false)
    (isOperator : isOperatorChar c = true)
    (rest : List Char) :
    (before ++ c :: rest).takeWhile (! isOperatorChar ·) = before ∧
      (before ++ c :: rest).dropWhile (! isOperatorChar ·) = c :: rest := by
  have noneBefore : ∀ c ∈ before, (! isOperatorChar c) = true := by
    intro c member
    simp [free c member]
  constructor
  · rw [List.takeWhile_append_of_pos noneBefore,
      List.takeWhile_cons_of_neg (by simp [isOperator]), List.append_nil]
  · rw [List.dropWhile_append_of_pos noneBefore,
      List.dropWhile_cons_of_neg (by simp [isOperator])]

theorem isName_append (front back : String) :
    isName (front ++ back) = (isName front && isName back) := by
  simp [isName]

theorem isName_of_blank {text : String} (blank : ∀ c ∈ text.toList, isBlank c = true) :
    isName text = true :=
  isName_iff_forall.2 fun c member => not_isOperatorChar_of_isBlank (blank c member)

end Colloquy.Flag
