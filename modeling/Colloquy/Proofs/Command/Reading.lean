import Colloquy.Command
import Colloquy.Proofs.Number.Digits
import Colloquy.Proofs.Text.Words

/-!
# What a line enters

A line that is a number, whatever blanks are around it, enters the selection of
that number, unless the number is beyond those that can be entered. A line of a
word and a text enters what the word makes of the words of the text.
-/

namespace Colloquy.Number

private theorem readNat?_showNat (bound number : Nat) :
    readNat? bound (showNat number) = if number < bound then some number else none := by
  obtain ⟨first, rest, digits, digit⟩ := exists_digitsOf_eq_cons number
  have allDigits : (digitsOf number).all isDigit = true :=
    List.all_eq_true.2 fun c member => isDigit_of_mem_digitsOf member
  have noPlus : first ≠ '+' := by
    rintro rfl
    cases digit
  have value := ofDigits_digitsOf number
  rw [digits] at allDigits value
  simp [readNat?, showNat, digits, noPlus, allDigits, value]

end Colloquy.Number

namespace Colloquy.Command

open Colloquy.Flag (Assignment)
open Colloquy.Number (isDigit showNat readNat?)

/-- A word that begins with a digit is none of the words that name commands. -/
theorem ofWord_of_digit
    {word : String} {first : Char} {rest : List Char}
    (starts : word.toList = first :: rest)
    (digit : isDigit first = true) :
    ofWord word =
      match readNat? numberBound word with
      | some number => .select number
      | none => .unknown := by
  unfold ofWord
  split
  case h_13 =>
    rfl
  all_goals
    cases starts
    cases digit

private theorem read_of_words_eq_singleton
    {line word : String}
    (single : Text.words line = [word]) :
    read line = ofWord word := by
  rw [read, single]

def Enters (line : String) (number : Nat) : Prop :=
  Text.trim line = showNat number

/-- A line that enters a number selects it, unless the number is too great for
any choice. -/
theorem read_of_enters
    {line : String} {number : Nat}
    (enters : Enters line number) :
    read line = if number < numberBound then .select number else .unknown := by
  obtain ⟨first, rest, digits, digit⟩ := Number.exists_digitsOf_eq_cons number
  have characters : (showNat number).toList = Number.digitsOf number :=
    String.toList_ofList
  have single : Text.words line = [showNat number] := by
    rw [← enters]
    refine Text.words_eq_singleton ?_ ?_
    · intro empty
      rw [enters.symm.trans empty, digits] at characters
      cases characters
    · intro c member
      rw [enters, characters] at member
      exact Number.isBlank_of_isDigit (Number.isDigit_of_mem_digitsOf member)
  rw [read_of_words_eq_singleton single,
    ofWord_of_digit (characters.trans digits) digit, Number.readNat?_showNat]
  by_cases below : number < numberBound
  · rw [if_pos below, if_pos below]
  · rw [if_neg below, if_neg below]

/-- A text behind a word is read as its words. -/
theorem read_word_append
    {word text : String}
    (isWord : Text.IsWord word)
    (worded : Text.words text ≠ []) :
    read (word ++ " " ++ text) = ofWords word (Text.words text) := by
  have lineWords : Text.words (word ++ " " ++ text) = word :: Text.words text := by
    rw [Text.words_append_space, Text.words_of_isWord isWord]
    rfl
  obtain ⟨first, others, isFirst⟩ := List.exists_cons_of_ne_nil worded
  rw [read, lineWords, isFirst]

private theorem isDeveloperOnly_ofWord (word : String) :
    (ofWord word).isDeveloperOnly = false := by
  unfold ofWord
  split
  case h_13 =>
    split
    · rfl
    · rfl
  all_goals
    rfl

private theorem ofWords_cases
    {word : String} {others : List String}
    (forDevelopers : (ofWords word others).isDeveloperOnly = true) :
    (∃ assignment, Assignment.read? (Text.joinWords others) = some assignment ∧
      ofWords word others = .set assignment) ∨
    ∃ name, others = [name] ∧ ofWords word others = .unset name := by
  unfold ofWords at forDevelopers ⊢
  split at forDevelopers
  case h_5 =>
    split at forDevelopers
    · rename_i assignment isRead
      exact .inl ⟨assignment, isRead, rfl⟩
    · cases forDevelopers
  case h_6 =>
    split at forDevelopers
    · exact .inr ⟨_, rfl, rfl⟩
    · cases forDevelopers
  all_goals
    cases forDevelopers

/-- A line for developers assigns what it reads or removes one word. -/
theorem read_cases_of_isDeveloperOnly
    {line : String}
    (forDevelopers : (read line).isDeveloperOnly = true) :
    (∃ text assignment, Assignment.read? text = some assignment ∧
      read line = .set assignment) ∨
      ∃ name, Text.IsWord name ∧ read line = .unset name := by
  unfold read at forDevelopers ⊢
  split at forDevelopers
  · cases forDevelopers
  · rw [isDeveloperOnly_ofWord] at forDevelopers
    cases forDevelopers
  · rename_i word others _ isSplit
    rcases ofWords_cases forDevelopers with ⟨assignment, isRead, isMade⟩ |
      ⟨name, single, isMade⟩
    · exact .inl ⟨_, assignment, isRead, isMade⟩
    · have member : name ∈ Text.words line := by
        simp [isSplit, single]
      exact .inr ⟨name, Text.isWord_of_mem_words member, single ▸ isMade⟩

/-- A line that sets a flag holds a text that is read as the assignment. -/
theorem exists_read?_of_read_eq_set
    {line : String} {assignment : Assignment}
    (isSet : read line = .set assignment) :
    ∃ text, Assignment.read? text = some assignment := by
  have forDevelopers : (read line).isDeveloperOnly = true := by
    rw [isSet]
    rfl
  rcases read_cases_of_isDeveloperOnly forDevelopers with ⟨text, other, isRead, same⟩ |
    ⟨_, _, same⟩
  · cases isSet.symm.trans same
    exact ⟨text, isRead⟩
  · cases isSet.symm.trans same

/-- Only names of one word can be removed. -/
theorem isWord_of_read_eq_unset
    {line name : String}
    (isUnset : read line = .unset name) :
    Text.IsWord name := by
  have forDevelopers : (read line).isDeveloperOnly = true := by
    rw [isUnset]
    rfl
  rcases read_cases_of_isDeveloperOnly forDevelopers with ⟨_, _, _, same⟩ |
    ⟨other, isWord, same⟩
  · cases isUnset.symm.trans same
  · cases isUnset.symm.trans same
    exact isWord

def unsetLine (name : String) : String :=
  "unset " ++ name

section UnsetLine

variable {name : String}

private theorem read_unsetLine (worded : Text.words name ≠ []) :
    read (unsetLine name) = ofWords "unset" (Text.words name) := by
  have unsetIsWord : Text.IsWord "unset" := Text.isWord_of_all (by decide) (by decide)
  have split : unsetLine name = "unset" ++ " " ++ name := rfl
  rw [split]
  exact read_word_append unsetIsWord worded

theorem read_unsetLine_of_isWord (isWord : Text.IsWord name) :
    read (unsetLine name) = .unset name := by
  have single : Text.words name = [name] := Text.words_of_isWord isWord
  rw [read_unsetLine (by simp [single]), single]
  rfl

/-- A name of several words cannot be entered for removal. -/
theorem read_unsetLine_of_not_isWord
    (nonempty : name ≠ "")
    (trimmed : Text.trim name = name)
    (notWord : ¬ Text.IsWord name) :
    read (unsetLine name) = .unknown := by
  have worded : Text.words name ≠ [] := by
    refine Text.words_ne_nil ?_
    rwa [trimmed]
  rw [read_unsetLine worded]
  match parts : Text.words name with
  | [] => exact absurd parts worded
  | [word] => exact absurd (Text.isWord_of_words_eq_singleton trimmed parts) notWord
  | first :: second :: rest => rfl

end UnsetLine

end Colloquy.Command
