import Colloquy.Ron.Lexeme
import Colloquy.Text.Quoted

/-!
# Quoted text

Every text written between double quotes reads back as itself, whichever
characters are escaped: the reader undoes each of the escapes, and a character
that stands for itself is none that it minds.
-/

namespace Colloquy.Ron

open Colloquy.Text (codePointEscape hexDigits quoteChar)

private theorem hexValue?_digitChar {digit : Nat} (small : digit < 16) :
    hexValue? digit.digitChar = some digit := by
  revert digit
  decide

private theorem hexDigits_of_lt {value : Nat} (small : value < 16) :
    hexDigits value = [value.digitChar] :=
  Nat.toDigits_of_lt_base small

private theorem hexDigits_of_le {value : Nat} (large : 16 ≤ value) :
    hexDigits value = hexDigits (value / 16) ++ [(value % 16).digitChar] :=
  Nat.toDigits_of_base_le (by decide) large

private theorem forall_isSome_hexValue? (value : Nat) :
    ∀ c ∈ hexDigits value, (hexValue? c).isSome = true := by
  induction value using Nat.strongRecOn with
  | ind value inductionHypothesis =>
      by_cases small : value < 16
      · simp [hexDigits_of_lt small, hexValue?_digitChar small]
      · have lastSmall : value % 16 < 16 := Nat.mod_lt value (by decide)
        rw [hexDigits_of_le (by omega), List.forall_mem_append]
        exact ⟨inductionHypothesis (value / 16) (by omega), by
          simp [hexValue?_digitChar lastSmall]⟩

private theorem hexNumber?_append_digit
    {digits : List Char} {value digit : Nat}
    (front : hexNumber? digits = some value)
    (small : digit < 16) :
    hexNumber? (digits ++ [digit.digitChar]) = some (value * 16 + digit) := by
  simp only [hexNumber?] at front ⊢
  simp [List.foldlM_append, front, hexValue?_digitChar small]

private theorem hexNumber?_hexDigits (value : Nat) :
    hexNumber? (hexDigits value) = some value := by
  induction value using Nat.strongRecOn with
  | ind value inductionHypothesis =>
      by_cases small : value < 16
      · have only : hexNumber? ([] ++ [value.digitChar]) = some (0 * 16 + value) :=
          hexNumber?_append_digit rfl small
        rw [hexDigits_of_lt small]
        simpa using only
      · rw [hexDigits_of_le (by omega),
          hexNumber?_append_digit (inductionHypothesis (value / 16) (by omega))
            (Nat.mod_lt value (by decide))]
        congr 1
        omega

private theorem charOfCode?_toNat (c : Char) : charOfCode? c.toNat = some c := by
  have valid : c.toNat.isValidChar := c.valid
  simp [charOfCode?, valid]

private theorem length_hexDigits_toNat_le (c : Char) :
    (hexDigits c.toNat).length ≤ 6 := by
  refine (Nat.length_toDigits_le_iff (by decide) (by decide)).2 ?_
  have valid : c.toNat.isValidChar := c.valid
  rcases valid with low | ⟨_, high⟩
  · omega
  · omega

/-- An escape by code point reads back as its character. -/
theorem codePointEscape?_hexDigits (c : Char) (rest : List Char) :
    codePointEscape? (hexDigits c.toNat ++ '\x7d' :: rest) = some (c, rest) := by
  have digitsRead :
      (hexDigits c.toNat ++ '\x7d' :: rest).takeWhile (fun c => (hexValue? c).isSome) =
        hexDigits c.toNat := by
    rw [List.takeWhile_append_of_pos (forall_isSome_hexValue? c.toNat)]
    simp [hexValue?]
  have someDigits : (hexDigits c.toNat).isEmpty = false := by
    simp [hexDigits]
  have notMany : ¬ 6 < (hexDigits c.toNat).length := by
    have bound := length_hexDigits_toNat_le c
    omega
  simp [codePointEscape?, digitsRead, someDigits, notMany, hexNumber?_hexDigits,
    charOfCode?_toNat]

theorem bind_some_eq_map {α β : Type} (read : Option α) (change : α → β) :
    (read.bind fun found => some (change found)) = read.map change := by
  cases read with
  | none =>
      rfl
  | some found =>
      rfl

private theorem quotedFrom_of_escape
    {literal : Literal} {escaped rest : List Char} {c : Char}
    (escape : escape? literal escaped = some (c, rest))
    (fuel : Nat) :
    quotedFrom literal (fuel + 1) ('\\' :: escaped) =
      (quotedFrom literal fuel rest).map fun read => (c :: read.1, read.2) := by
  simp [quotedFrom, escape, bind_some_eq_map]

private theorem quotedFrom_of_plain
    {literal : Literal} {c : Char}
    (notQuote : c ≠ '"')
    (notBackslash : c ≠ '\\')
    (fuel : Nat) (rest : List Char) :
    quotedFrom literal (fuel + 1) (c :: rest) =
      (quotedFrom literal fuel rest).map fun read => (c :: read.1, read.2) := by
  simp [quotedFrom, bind_some_eq_map]

/-- A written character reads back in one step of the reader. -/
theorem quotedFrom_quoteChar
    (apostrophe : Bool) (fuel : Nat) (c : Char) (rest : List Char) :
    quotedFrom .text (fuel + 1) (quoteChar apostrophe c ++ rest) =
      (quotedFrom .text fuel rest).map fun read => (c :: read.1, read.2) := by
  unfold quoteChar
  by_cases isNull : c = '\x00'
  · subst isNull
    exact quotedFrom_of_escape rfl fuel
  by_cases isTab : c = '\t'
  · subst isTab
    exact quotedFrom_of_escape rfl fuel
  by_cases isReturn : c = '\r'
  · subst isReturn
    exact quotedFrom_of_escape rfl fuel
  by_cases isFeed : c = '\n'
  · subst isFeed
    exact quotedFrom_of_escape rfl fuel
  simp only [isNull, isTab, isReturn, isFeed, if_false]
  split
  · rename_i escaped
    have escape : escape? .text ([c] ++ rest) = some (c, rest) := by
      rcases escaped with isQuote | isBackslash | ⟨isApostrophe, _⟩
      · subst isQuote
        rfl
      · subst isBackslash
        rfl
      · subst isApostrophe
        rfl
    exact quotedFrom_of_escape escape fuel
  · rename_i plain
    have notQuote : c ≠ '"' := fun isQuote => plain (.inl isQuote)
    have notBackslash : c ≠ '\\' := fun isBackslash => plain (.inr (.inl isBackslash))
    split
    · exact quotedFrom_of_plain notQuote notBackslash fuel rest
    · have escape :
          escape? .text ('u' :: '\x7b' :: (hexDigits c.toNat ++ '\x7d' :: rest)) =
          some (c, rest) :=
        codePointEscape?_hexDigits c rest
      have text : codePointEscape c ++ rest =
          '\\' :: 'u' :: '\x7b' :: (hexDigits c.toNat ++ '\x7d' :: rest) := by
        simp [codePointEscape]
      rw [text]
      exact quotedFrom_of_escape escape fuel

/-- The content of a quoted text, up to the closing quote, reads back whole. -/
theorem quotedFrom_flatMap_quoteChar
    (apostrophe : Bool) (characters rest : List Char) (fuel : Nat)
    (enough : characters.length < fuel) :
    quotedFrom .text fuel (characters.flatMap (quoteChar apostrophe) ++ '"' :: rest) =
      some (characters, rest) := by
  induction characters generalizing fuel with
  | nil =>
      obtain ⟨fuel, rfl⟩ := Nat.exists_eq_succ_of_ne_zero (Nat.ne_of_gt enough)
      rfl
  | cons c others inductionHypothesis =>
      obtain ⟨fuel, rfl⟩ :=
        Nat.exists_eq_succ_of_ne_zero (Nat.ne_of_gt (Nat.zero_lt_of_lt enough))
      have enoughLeft : others.length < fuel := by
        simpa using enough
      rw [List.flatMap_cons, List.append_assoc, quotedFrom_quoteChar,
        inductionHypothesis fuel enoughLeft]
      rfl

private theorem quoteChar_ne_nil (apostrophe : Bool) (c : Char) :
    quoteChar apostrophe c ≠ [] := by
  unfold quoteChar codePointEscape
  repeat' split
  all_goals simp

private theorem length_le_length_flatMap_quoteChar
    (apostrophe : Bool) (characters : List Char) :
    characters.length ≤ (characters.flatMap (quoteChar apostrophe)).length := by
  induction characters with
  | nil =>
      simp
  | cons c others inductionHypothesis =>
      have written : 0 < (quoteChar apostrophe c).length :=
        List.length_pos_iff.2 (quoteChar_ne_nil apostrophe c)
      simp only [List.flatMap_cons, List.length_append, List.length_cons]
      omega

/-- Escaped characters read back up to the closing quotation mark. -/
theorem quoted?_flatMap_quoteChar (apostrophe : Bool) (characters rest : List Char) :
    quoted? .text (characters.flatMap (quoteChar apostrophe) ++ '"' :: rest) =
      some (characters, rest) := by
  refine quotedFrom_flatMap_quoteChar apostrophe characters rest _ ?_
  have longer := length_le_length_flatMap_quoteChar apostrophe characters
  simp only [List.length_append]
  omega

end Colloquy.Ron
