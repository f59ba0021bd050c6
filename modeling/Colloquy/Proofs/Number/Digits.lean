import Colloquy.Number.Decimal
import Colloquy.Text.Blank
import Mathlib.Tactic.Ring

/-!
# Decimal digits

Writing a natural number in decimal digits and reading the digits gives the number back.
-/

namespace Colloquy.Number

theorem isDigit_iff {c : Char} : isDigit c = true ↔ c.isDigit = true := by
  simp [isDigit, Char.isDigit, Char.le_def]

theorem isBlank_of_isDigit {c : Char} (digit : isDigit c = true) :
    Text.isBlank c = false := by
  have range : '0' ≤ c ∧ c ≤ '9' := by
    simpa [isDigit] using digit
  have lower : '0'.toNat ≤ c.toNat := range.1
  have upper : c.toNat ≤ '9'.toNat := range.2
  have zero : '0'.toNat = 48 := rfl
  have nine : '9'.toNat = 57 := rfl
  simp only [Text.isBlank, Bool.or_eq_false_iff, Bool.and_eq_false_iff,
    decide_eq_false_iff_not, beq_eq_false_iff_ne]
  omega

theorem digitValue_lt {c : Char} (digit : isDigit c = true) : digitValue c < 10 := by
  have range : '0' ≤ c ∧ c ≤ '9' := by
    simpa [isDigit] using digit
  have upper : c.toNat ≤ '9'.toNat := range.2
  have nine : '9'.toNat = '0'.toNat + 9 := rfl
  unfold digitValue
  omega

theorem isDigit_of_mem_digitsOf {value : Nat} {c : Char} (member : c ∈ digitsOf value) :
    isDigit c = true :=
  isDigit_iff.2 (Nat.isDigit_of_mem_toDigits (by decide) (by decide) member)

theorem digitsOf_ne_nil (value : Nat) : digitsOf value ≠ [] :=
  Nat.toDigits_ne_nil

/-- The digits of a number, with a first one. -/
theorem exists_digitsOf_eq_cons (value : Nat) :
    ∃ first rest, digitsOf value = first :: rest ∧ isDigit first = true := by
  cases equal : digitsOf value with
  | nil =>
      exact absurd equal (digitsOf_ne_nil value)
  | cons first rest =>
      exact ⟨first, rest, rfl,
        isDigit_of_mem_digitsOf (by rw [equal]; exact List.mem_cons_self)⟩

private theorem ofDigits_eq_ofDigitChars (digits : List Char) :
    ofDigits digits = Nat.ofDigitChars 10 digits 0 := by
  simp [ofDigits, Nat.ofDigitChars, digitValue, Nat.mul_comm]

/-- The digits of a number read as that number. -/
@[simp]
theorem ofDigits_digitsOf (value : Nat) : ofDigits (digitsOf value) = value := by
  rw [ofDigits_eq_ofDigitChars]
  exact Nat.ofDigitChars_ten_toDigits

theorem ofDigits_append (front back : List Char) :
    ofDigits (front ++ back) = ofDigits front * 10 ^ back.length + ofDigits back := by
  rw [ofDigits_eq_ofDigitChars, Nat.ofDigitChars_append,
    Nat.ofDigitChars_eq_ofDigitChars_zero, ofDigits_eq_ofDigitChars,
    ofDigits_eq_ofDigitChars, Nat.mul_comm]

@[simp]
theorem ofDigits_replicate_zero (count : Nat) :
    ofDigits (List.replicate count '0') = 0 := by
  rw [ofDigits_eq_ofDigitChars, Nat.ofDigitChars_replicate_zero, Nat.mul_zero]

/-- Exactly the numbers below a power of ten have no more digits than its
exponent counts. -/
theorem length_digitsOf_le_iff {value count : Nat} (positive : 0 < count) :
    (digitsOf value).length ≤ count ↔ value < 10 ^ count :=
  Nat.length_toDigits_le_iff (by decide) positive

end Colloquy.Number
