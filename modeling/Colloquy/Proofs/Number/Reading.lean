import Colloquy.Proofs.Number.Shortest
import Mathlib.Data.List.TakeWhile

/-!
# Reading decimal text

The decimal text of an integer reads back as the integer, and that of a
fractional number as the number. The digits of the latter are those of the
shortest decimal, with zeros and a point among them, so that they write a
decimal that is nearest to the number's rank.
-/

namespace Colloquy.Number

theorem ne_of_isDigit
    {c other : Char}
    (digit : isDigit c = true)
    (notDigit : isDigit other = false) :
    c ≠ other := by
  rintro rfl
  rw [digit] at notDigit
  cases notDigit

theorem splitSign_of_isDigit
    {c : Char}
    (digit : isDigit c = true)
    (rest : List Char) :
    splitSign (c :: rest) = (false, c :: rest) := by
  have notMinus : c ≠ '-' := ne_of_isDigit digit (by decide)
  have notPlus : c ≠ '+' := ne_of_isDigit digit (by decide)
  simp [splitSign, notMinus, notPlus]

/-- The digits of an integer behind its sign. -/
theorem splitSign_showInt (value : Int) :
    splitSign (showInt value).toList = (decide (value < 0), digitsOf value.natAbs) := by
  obtain ⟨first, others, digits, digit⟩ := exists_digitsOf_eq_cons value.natAbs
  by_cases negative : value < 0
  · simp [showInt, negative, splitSign]
  · simp [showInt, negative, digits, splitSign_of_isDigit digit]

theorem signed_natAbs (value : Int) :
    (if decide (value < 0) then -(value.natAbs : Int) else value.natAbs) = value := by
  by_cases negative : value < 0
  · rw [if_pos (by simpa using negative)]
    omega
  · rw [if_neg (by simpa using negative)]
    omega

private theorem readInt?_showInt (value : Int) :
    readInt? (showInt value) = some value := by
  have allDigits : (digitsOf value.natAbs).all isDigit = true :=
    List.all_eq_true.2 fun c member => isDigit_of_mem_digitsOf member
  simp only [readInt?, splitSign_showInt, ofDigits_digitsOf, signed_natAbs]
  simp [digitsOf_ne_nil, allDigits]

theorem int32?_toInt (value : Int32) : int32? value.toInt = some value := by
  have low : -0x80000000 ≤ value.toInt := Int32.le_toInt value
  have high : value.toInt < 0x80000000 := Int32.toInt_lt value
  simp [int32?, low, high]

/-- An integer that is shown is read back. -/
theorem readInt32?_showInt (value : Int32) :
    readInt32? (showInt value.toInt) = some value := by
  rw [readInt32?, readInt?_showInt, Option.bind_some, int32?_toInt]

theorem isDigit_or_eq_minus_of_mem_showInt
    {value : Int} {c : Char}
    (member : c ∈ (showInt value).toList) :
    isDigit c = true ∨ c = '-' := by
  rw [showInt, String.toList_ofList] at member
  rcases List.mem_append.1 member with sign | digit
  · split at sign
    · exact .inr (List.mem_singleton.1 sign)
    · cases sign
  · exact .inl (isDigit_of_mem_digitsOf digit)

/-- Digits, the first of them before a point and some of them behind it. -/
structure PointForm (characters whole fraction : List Char) : Prop where
  written : characters = whole ++ '.' :: fraction
  someWhole : whole ≠ []
  someFraction : fraction ≠ []
  wholeDigits : ∀ c ∈ whole, isDigit c = true
  fractionDigits : ∀ c ∈ fraction, isDigit c = true

theorem PointForm.first
    {characters whole fraction : List Char}
    (form : PointForm characters whole fraction) :
    ∃ c rest, characters = c :: rest ∧ isDigit c = true := by
  obtain ⟨c, rest, isWhole⟩ := List.exists_cons_of_ne_nil form.someWhole
  refine ⟨c, rest ++ '.' :: fraction, by rw [form.written, isWhole]; rfl, ?_⟩
  exact form.wholeDigits c (by rw [isWhole]; exact List.mem_cons_self)

theorem PointForm.isDigit_or_eq_point
    {characters whole fraction : List Char} {c : Char}
    (form : PointForm characters whole fraction)
    (member : c ∈ characters) :
    isDigit c = true ∨ c = '.' := by
  rw [form.written] at member
  rcases List.mem_append.1 member with before | after
  · exact .inl (form.wholeDigits c before)
  · rcases List.mem_cons.1 after with point | behind
    · exact .inr point
    · exact .inl (form.fractionDigits c behind)

private theorem readMagnitude?_of_pointForm
    {characters whole fraction : List Char}
    (form : PointForm characters whole fraction)
    (negative : Bool) :
    readMagnitude? negative characters =
      some (.ofDecimal negative (ofDigits (whole ++ fraction)) (-fraction.length)) := by
  obtain ⟨rfl, someWhole, _, wholeDigits, fractionDigits⟩ := form
  have wholeRead : (whole ++ '.' :: fraction).takeWhile isDigit = whole ∧
      (whole ++ '.' :: fraction).dropWhile isDigit = '.' :: fraction := by
    have notDigit : isDigit '.' = false := by
      decide
    rw [List.takeWhile_append_of_pos wholeDigits,
      List.dropWhile_append_of_pos wholeDigits]
    simp [notDigit]
  have fractionRead :
      fraction.takeWhile isDigit = fraction ∧ fraction.dropWhile isDigit = [] :=
    ⟨List.takeWhile_eq_self_iff.2 fractionDigits,
      List.dropWhile_eq_nil_iff.2 fractionDigits⟩
  simp [readMagnitude?, wholeRead, fractionRead, someWhole, readExponent?]

private theorem ofDigits_padded (count significand : Nat) :
    ofDigits (List.replicate count '0' ++ digitsOf significand) = significand := by
  rw [ofDigits_append, ofDigits_replicate_zero, Nat.zero_mul, Nat.zero_add,
    ofDigits_digitsOf]

private theorem isDigit_of_mem_replicate_zero
    {count : Nat} {c : Char}
    (member : c ∈ List.replicate count '0') :
    isDigit c = true := by
  rw [List.eq_of_mem_replicate member]
  decide

private theorem point_not_mem
    {characters : List Char}
    (digits : ∀ c ∈ characters, isDigit c = true) :
    '.' ∉ characters := by
  intro member
  cases digits '.' member

/-- Digits with a point among them are shown for a decimal, and write one that
is nearest to the same rank. -/
def IsShown (decimal : Scientific) : Prop :=
  ∃ whole fraction, PointForm (keepDecimal (positional decimal)) whole fraction ∧
    ∀ rank, NearestDecimal decimal.significand decimal.exponent rank →
      NearestDecimal (ofDigits (whole ++ fraction)) (-fraction.length) rank

/-- Zeros are shown behind the digits of a whole number, and one behind the point. -/
theorem isShown_of_whole {decimal : Scientific} (isWhole : 0 ≤ decimal.exponent) :
    IsShown decimal := by
  let whole := digitsOf decimal.significand ++ List.replicate decimal.exponent.toNat '0'
  have wholeDigits : ∀ c ∈ whole, isDigit c = true := by
    intro c member
    rcases List.mem_append.1 member with digit | zero
    · exact isDigit_of_mem_digitsOf digit
    · exact isDigit_of_mem_replicate_zero zero
  have shown : keepDecimal (positional decimal) = whole ++ '.' :: ['0'] := by
    simp [positional, isWhole, keepDecimal, point_not_mem wholeDigits, whole]
  have zeroDigits : ∀ c ∈ ['0'], isDigit c = true := List.all_eq_true.1 (by decide)
  refine ⟨whole, ['0'], ⟨shown, by simp [whole, digitsOf_ne_nil], by simp, wholeDigits,
    zeroDigits⟩, fun rank nearest => ?_⟩
  have written : ofDigits (whole ++ ['0']) =
      decimal.significand * 10 ^ decimal.exponent.toNat * 10 := by
    rw [ofDigits_append, ofDigits_append, ofDigits_digitsOf, ofDigits_replicate_zero,
      List.length_replicate]
    rfl
  have exponent :
      (-(['0'].length : Int)) + 1 + decimal.exponent.toNat = decimal.exponent := by
    simp only [List.length_cons, List.length_nil]
    omega
  rw [written, nearestDecimal_mul_ten_iff, nearestDecimal_mul_pow_iff, exponent]
  exact nearest

/-- Zeros are shown before the digits of a number with places behind the point,
if they are too few. -/
theorem isShown_of_places {decimal : Scientific} (somePlaces : ¬ 0 ≤ decimal.exponent) :
    IsShown decimal := by
  let places := decimal.exponent.natAbs
  let padded :=
    List.replicate (places + 1 - (digitsOf decimal.significand).length) '0' ++
    digitsOf decimal.significand
  have longer : places < padded.length := by
    simp only [padded, List.length_append, List.length_replicate]
    omega
  have digits : ∀ c ∈ padded, isDigit c = true := by
    intro c member
    rcases List.mem_append.1 member with zero | digit
    · exact isDigit_of_mem_replicate_zero zero
    · exact isDigit_of_mem_digitsOf digit
  have shown : keepDecimal (positional decimal) =
      padded.take (padded.length - places) ++ '.' ::
        padded.drop (padded.length - places) := by
    simp [positional, somePlaces, keepDecimal, padded, places]
  have behind : (padded.drop (padded.length - places)).length = places := by
    rw [List.length_drop]
    omega
  refine ⟨_, _, ⟨shown, ?_, ?_, fun c member => digits c (List.mem_of_mem_take member),
    fun c member => digits c (List.mem_of_mem_drop member)⟩, fun rank nearest => ?_⟩
  · refine List.ne_nil_of_length_pos ?_
    rw [List.length_take]
    omega
  · refine List.ne_nil_of_length_pos ?_
    rw [behind]
    omega
  · have exponent : -(places : Int) = decimal.exponent := by
      omega
    rw [List.take_append_drop, behind, exponent, ofDigits_padded]
    exact nearest

/-- Each decimal is shown by digits with a point among them. -/
theorem isShown (decimal : Scientific) : IsShown decimal := by
  by_cases isWhole : 0 ≤ decimal.exponent
  · exact isShown_of_whole isWhole
  · exact isShown_of_places isWhole

/-! ## Reading back -/

private theorem toLower_of_isDigit
    {c : Char} (digit : isDigit c = true) : c.toLower = c := by
  have range : '0' ≤ c ∧ c ≤ '9' := by
    simpa [isDigit] using digit
  have notUpper : ¬ (c.val ≥ 'A'.val ∧ c.val ≤ 'Z'.val) := fun upper =>
    absurd (UInt32.le_trans upper.1 range.2) (by decide)
  exact dif_neg notUpper

/-- What begins with a digit is none of the words for numbers. -/
theorem readSingle?_of_pointForm
    {characters whole fraction : List Char} {text : String} {negative : Bool}
    (form : PointForm characters whole fraction)
    (written : text.toList = (if negative then ['-'] else []) ++ characters) :
    readSingle? text = readMagnitude? negative characters := by
  obtain ⟨first, rest, rfl, digit⟩ := form.first
  have signed : splitSign text.toList = (negative, first :: rest) := by
    rw [written]
    cases negative with
    | false =>
        exact splitSign_of_isDigit digit rest
    | true =>
        rfl
  have notWord :
      ∀ word : String, (∀ c, word.toList.head? = some c → isDigit c = false) →
      String.ofList ((first :: rest).map Char.toLower) ≠ word := by
    intro word noDigit isWord
    have head : word.toList.head? = some first := by
      rw [← isWord, String.toList_ofList, List.map_cons, toLower_of_isDigit digit]
      rfl
    rw [noDigit first head] at digit
    cases digit
  have notInf := notWord "inf" (by simp; decide)
  have notInfinity := notWord "infinity" (by simp; decide)
  have notNan := notWord "nan" (by simp; decide)
  simp only [readSingle?, signed]
  rw [if_neg (not_or.2 ⟨notInf, notInfinity⟩), if_neg notNan]

/-- The decimal text of a number reads back as the number. -/
theorem readSingle?_decimalText (value : Single) :
    readSingle? value.decimalText = some value := by
  cases value with
  | nan =>
      decide +kernel
  | infinite negative =>
      cases negative with
      | false =>
          decide +kernel
      | true =>
          decide +kernel
  | finite negative rank =>
      obtain ⟨whole, fraction, form, writes⟩ := isShown (shortest rank)
      have written : (Single.finite negative rank).decimalText.toList =
          (if negative then ['-'] else []) ++
            keepDecimal (positional (shortest rank)) := by
        simp [Single.decimalText, showWith]
      rw [readSingle?_of_pointForm form written, readMagnitude?_of_pointForm form,
        ofDecimal_eq_of_nearestDecimal
          (writes rank (nearestDecimal_shortest rank)) rank.isLt]
      simp [Single.ofRank]

end Colloquy.Number
