import Colloquy.Text.Blank
import Mathlib.Algebra.Group.Nat.Defs

/-!
# The order of bytes

Texts are ordered by code points. The bytes of their encoding in UTF-8 are
ordered alike: a greater code point has a greater first byte, or else the same
first byte and the greater digits behind it.
-/

namespace Colloquy.Text

def bytes (text : String) : List UInt8 :=
  text.toUTF8.data.toList

theorem bytes_eq_flatMap (text : String) :
    bytes text = text.toList.flatMap String.utf8EncodeChar := by
  rw [bytes, String.toUTF8_eq_toByteArray, ← String.utf8Encode_toList, List.utf8Encode,
    List.data_toByteArray]

/-- The bytes behind the first one: the lowest digits of a code point to the base 64. -/
def continuation : Nat → Nat → List UInt8
  | 0, _ => []
  | count + 1, code => continuation count (code / 64) ++ [UInt8.ofNat (code % 64 + 128)]

private theorem ofNat_lt_ofNat
    {left right : Nat}
    (bound : right < 256)
    (less : left < right) :
    UInt8.ofNat left < UInt8.ofNat right :=
  (UInt8.ofNat_lt_iff_lt (Nat.lt_trans less bound) bound).2 less

/-- Code points with the same leading digits are ordered like their remaining ones. -/
theorem continuation_append_lt
    {count left right : Nat}
    (less : left < right)
    (sameLead : left / 64 ^ count = right / 64 ^ count)
    (first second : List UInt8) :
    continuation count left ++ first < continuation count right ++ second := by
  induction count generalizing left right first second with
  | zero =>
      simp only [Nat.pow_zero, Nat.div_one] at sameLead
      exact absurd sameLead (Nat.ne_of_lt less)
  | succ count inductionHypothesis =>
      simp only [continuation, List.append_assoc, List.singleton_append]
      by_cases higherLess : left / 64 < right / 64
      · apply inductionHypothesis higherLess
        rw [Nat.div_div_eq_div_mul, Nat.div_div_eq_div_mul, ← Nat.pow_succ']
        exact sameLead
      · have higherSame : left / 64 = right / 64 := by omega
        have lowerLess : left % 64 + 128 < right % 64 + 128 := by omega
        rw [higherSame]
        apply List.append_left_lt
        apply List.cons_lt_cons_iff.2
        exact Or.inl (ofNat_lt_ofNat (by omega) lowerLess)

/-- How many bytes stand behind the first one. -/
def continuationCount (code : Nat) : Nat :=
  if code ≤ 127 then 0 else if code ≤ 2047 then 1 else if code ≤ 65535 then 2 else 3

/-- What is added to the leading digit to tell how many bytes follow. -/
def marker : Nat → Nat
  | 0 => 0
  | 1 => 192
  | 2 => 224
  | _ => 240

def leadByte (code : Nat) : Nat :=
  code / 64 ^ continuationCount code + marker (continuationCount code)

private theorem continuationCount_cases (code : Nat) :
    (code ≤ 127 ∧ continuationCount code = 0) ∨
      (127 < code ∧ code ≤ 2047 ∧ continuationCount code = 1) ∨
        (2047 < code ∧ code ≤ 65535 ∧ continuationCount code = 2) ∨
          (65535 < code ∧ continuationCount code = 3) := by
  unfold continuationCount
  by_cases one : code ≤ 127
  · simp [one]
  · by_cases two : code ≤ 2047
    · simp [one, two]
      omega
    · by_cases three : code ≤ 65535
      · simp [one, two, three]
        omega
      · simp [one, two, three]
        omega

theorem toNat_lt (c : Char) : c.toNat < 0x110000 := by
  rcases c.valid with low | high
  · exact Nat.lt_trans low (by decide)
  · exact high.2

theorem leadByte_lt {code : Nat} (bound : code < 0x110000) : leadByte code < 256 := by
  rcases continuationCount_cases code with
    ⟨_, count⟩ | ⟨_, _, count⟩ | ⟨_, _, count⟩ | ⟨_, count⟩
  all_goals
    simp only [leadByte, count, marker]
    omega

/-- The encoding of a character is its leading byte, then the continuation bytes. -/
theorem utf8EncodeChar_eq_cons (c : Char) :
    String.utf8EncodeChar c =
      UInt8.ofNat (leadByte c.toNat) ::
        continuation (continuationCount c.toNat) c.toNat := by
  have bound := toNat_lt c
  unfold String.utf8EncodeChar
  change (let code := c.toNat; _) = _
  rcases continuationCount_cases c.toNat with
    ⟨most, count⟩ | ⟨least, most, count⟩ | ⟨least, most, count⟩ | ⟨least, count⟩
  · simp [leadByte, count, marker, continuation, most]
  · have small : c.toNat / 64 % 32 = c.toNat / 64 := Nat.mod_eq_of_lt (by omega)
    simp [leadByte, count, marker, continuation, Nat.not_le.2 least, most, small]
  · have notOne : ¬ c.toNat ≤ 127 := by omega
    have small : c.toNat / 4096 % 16 = c.toNat / 4096 := Nat.mod_eq_of_lt (by omega)
    simp [leadByte, count, marker, continuation, notOne, Nat.not_le.2 least, most,
      small]
  · have notOne : ¬ c.toNat ≤ 127 := by omega
    have notTwo : ¬ c.toNat ≤ 2047 := by omega
    have small : c.toNat / 262144 % 8 = c.toNat / 262144 := Nat.mod_eq_of_lt (by omega)
    simp [leadByte, count, marker, continuation, notOne, notTwo, Nat.not_le.2 least,
      small, Nat.div_div_eq_div_mul]

/-- A greater code point has a greater first byte, or as many bytes and the same
first one. -/
theorem leadByte_cases {left right : Nat} (less : left < right) :
    leadByte left < leadByte right ∨
      (leadByte left = leadByte right ∧
        continuationCount left = continuationCount right ∧
        left / 64 ^ continuationCount right = right / 64 ^ continuationCount right) :=
        by
  by_cases sameCount : continuationCount left = continuationCount right
  · rw [leadByte, leadByte, sameCount]
    have digits :
        left / 64 ^ continuationCount right ≤ right / 64 ^ continuationCount right :=
      Nat.div_le_div_right (Nat.le_of_lt less)
    rcases Nat.lt_or_eq_of_le digits with fewer | same
    · exact Or.inl (Nat.add_lt_add_right fewer _)
    · exact Or.inr ⟨by rw [same], rfl, same⟩
  · left
    rcases continuationCount_cases left with
      ⟨_, leftCount⟩ | ⟨_, _, leftCount⟩ | ⟨_, _, leftCount⟩ | ⟨_, leftCount⟩
    all_goals
      rcases continuationCount_cases right with
        ⟨_, rightCount⟩ | ⟨_, _, rightCount⟩ | ⟨_, _, rightCount⟩ | ⟨_, rightCount⟩
    all_goals
      rw [leftCount, rightCount] at sameCount
      simp only [leadByte, leftCount, rightCount, marker]
      omega

private theorem utf8EncodeChar_append_lt
    {left right : Char}
    (less : left < right)
    (first second : List UInt8) :
    String.utf8EncodeChar left ++ first < String.utf8EncodeChar right ++ second := by
  have lessCode : left.toNat < right.toNat := UInt32.lt_iff_toNat_lt.1 less
  rw [utf8EncodeChar_eq_cons, utf8EncodeChar_eq_cons, List.cons_append,
    List.cons_append]
  apply List.cons_lt_cons_iff.2
  rcases leadByte_cases lessCode with leadLess | ⟨leadSame, countSame, digitsSame⟩
  · exact Or.inl (ofNat_lt_ofNat (leadByte_lt (toNat_lt right)) leadLess)
  · refine Or.inr ⟨by rw [leadSame], ?_⟩
    rw [countSame]
    exact continuation_append_lt lessCode digitsSame first second

private theorem flatMap_utf8EncodeChar_lt
    {left right : List Char}
    (less : left < right) :
    left.flatMap String.utf8EncodeChar < right.flatMap String.utf8EncodeChar := by
  induction left generalizing right with
  | nil =>
      cases right with
      | nil =>
          exact absurd less (List.lt_irrefl [])
      | cons head tail =>
          rw [List.flatMap_nil, List.flatMap_cons, utf8EncodeChar_eq_cons,
            List.cons_append]
          exact List.nil_lt_cons _ _
  | cons first rest inductionHypothesis =>
      cases right with
      | nil =>
          exact absurd less (List.not_lt_nil _)
      | cons head tail =>
          rw [List.flatMap_cons, List.flatMap_cons]
          rcases List.cons_lt_cons_iff.1 less with headLess | ⟨rfl, tailLess⟩
          · exact utf8EncodeChar_append_lt headLess _ _
          · exact List.append_left_lt (inductionHypothesis tailLess)

private theorem bytes_lt_of_lt
    {left right : String} (less : left < right) : bytes left < bytes right := by
  have lessList : left.toList < right.toList := less
  rw [bytes_eq_flatMap, bytes_eq_flatMap]
  exact flatMap_utf8EncodeChar_lt lessList

/-- The order of texts is that of their bytes. -/
theorem lt_iff_bytes_lt {left right : String} :
    left < right ↔ bytes left < bytes right := by
  constructor
  · exact bytes_lt_of_lt
  · intro bytesLess
    have notGreater : ¬ right < left := fun greater =>
      List.lt_asymm bytesLess (bytes_lt_of_lt greater)
    have different : left ≠ right := fun same =>
      List.lt_irrefl _ (same ▸ bytesLess)
    by_cases less : left < right
    · exact less
    · exact absurd (String.le_antisymm notGreater less) different

/-- Texts of the same bytes are the same. -/
theorem eq_of_bytes_eq
    {left right : String} (same : bytes left = bytes right) : left = right := by
  have notLess : ¬ left < right := by
    rw [lt_iff_bytes_lt, same]
    exact List.lt_irrefl _
  have notGreater : ¬ right < left := by
    rw [lt_iff_bytes_lt, same]
    exact List.lt_irrefl _
  exact String.le_antisymm notGreater notLess

end Colloquy.Text
