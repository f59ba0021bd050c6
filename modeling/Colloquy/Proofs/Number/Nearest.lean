import Colloquy.Number.Shortest
import Colloquy.Proofs.Number.Digits
import Colloquy.Proofs.Number.Rounding

/-!
# Decimals near a rank

A decimal is read as the rank that its exact value is nearest to. Which rank
that is depends on the value alone, not on how many zeros stand at the end of
its digits.
-/

namespace Colloquy.Number

open Single (Nearest doubleMidpoint unitsOfRank)

def unitsNumerator (significand : Nat) (exponent : Int) : Nat :=
  significand * 2 ^ 149 * 10 ^ exponent.toNat

def unitsDenominator (exponent : Int) : Nat :=
  10 ^ (-exponent).toNat

theorem unitsDenominator_pos (exponent : Int) : 0 < unitsDenominator exponent :=
  Nat.pow_pos (by decide)

/-- A decimal is nearest to a rank. -/
def NearestDecimal (significand : Nat) (exponent : Int) (rank : Nat) : Prop :=
  Nearest (unitsNumerator significand exponent) (unitsDenominator exponent) rank

private theorem nearest_of_mul_eq
    {numerator denominator otherNumerator otherDenominator rank : Nat}
    (same : numerator * otherDenominator = otherNumerator * denominator)
    (positive : 0 < denominator)
    (otherPositive : 0 < otherDenominator)
    (nearest : Nearest numerator denominator rank) :
    Nearest otherNumerator otherDenominator rank := by
  have crossLe : ∀ midpoint, midpoint * denominator ≤ 2 * numerator →
      midpoint * otherDenominator ≤ 2 * otherNumerator := by
    intro midpoint atMost
    refine Nat.le_of_mul_le_mul_right ?_ positive
    calc midpoint * otherDenominator * denominator
        = midpoint * denominator * otherDenominator := by ring
      _ ≤ 2 * numerator * otherDenominator := Nat.mul_le_mul_right _ atMost
      _ = 2 * otherNumerator * denominator := by rw [Nat.mul_assoc, same, Nat.mul_assoc]
  have crossGe : ∀ midpoint, 2 * numerator ≤ midpoint * denominator →
      2 * otherNumerator ≤ midpoint * otherDenominator := by
    intro midpoint atLeast
    refine Nat.le_of_mul_le_mul_right ?_ positive
    calc 2 * otherNumerator * denominator
        = 2 * numerator * otherDenominator := by
          rw [Nat.mul_assoc, ← same, Nat.mul_assoc]
      _ ≤ midpoint * denominator * otherDenominator := Nat.mul_le_mul_right _ atLeast
      _ = midpoint * otherDenominator * denominator := by ring
  have crossEq : ∀ midpoint, midpoint * otherDenominator = 2 * otherNumerator →
      midpoint * denominator = 2 * numerator := by
    intro midpoint equal
    refine Nat.eq_of_mul_eq_mul_right otherPositive ?_
    calc midpoint * denominator * otherDenominator
        = midpoint * otherDenominator * denominator := by ring
      _ = 2 * numerator * otherDenominator := by
        rw [equal, Nat.mul_assoc, ← same, Nat.mul_assoc]
  refine ⟨fun below isNext => ?_, crossGe _ nearest.below.1, fun equal => ?_⟩
  · obtain ⟨atMost, even⟩ := nearest.above below isNext
    exact ⟨crossLe _ atMost, fun equal => even (crossEq _ equal)⟩
  · exact nearest.below.2 (crossEq _ equal.symm).symm

/-- A zero at the end of the digits counts as one more in the exponent. -/
theorem nearestDecimal_mul_ten_iff {significand rank : Nat} {exponent : Int} :
    NearestDecimal (significand * 10) exponent rank ↔
      NearestDecimal significand (exponent + 1) rank := by
  have same :
      unitsNumerator (significand * 10) exponent * unitsDenominator (exponent + 1) =
      unitsNumerator significand (exponent + 1) * unitsDenominator exponent := by
    unfold unitsNumerator unitsDenominator
    by_cases negative : exponent < 0
    · obtain ⟨places, isPlaces⟩ : ∃ places : Nat, exponent = -((places : Int) + 1) :=
        ⟨(-exponent - 1).toNat, by omega⟩
      have here : (-exponent).toNat = places + 1 := by omega
      have next : (-(exponent + 1)).toNat = places := by omega
      have noPower : exponent.toNat = 0 ∧ (exponent + 1).toNat = 0 := by omega
      rw [here, next, noPower.1, noPower.2, Nat.pow_succ]
      ring
    · have next : (exponent + 1).toNat = exponent.toNat + 1 := by omega
      have noPlaces : (-exponent).toNat = 0 ∧ (-(exponent + 1)).toNat = 0 := by omega
      rw [next, noPlaces.1, noPlaces.2, Nat.pow_succ]
      ring
  exact ⟨nearest_of_mul_eq same (unitsDenominator_pos _) (unitsDenominator_pos _),
    nearest_of_mul_eq same.symm (unitsDenominator_pos _) (unitsDenominator_pos _)⟩

/-- Zeros at the end of a significand can be counted by the exponent instead. -/
theorem nearestDecimal_mul_pow_iff
    {significand rank : Nat} {exponent : Int} (count : Nat) :
    NearestDecimal (significand * 10 ^ count) exponent rank ↔
      NearestDecimal significand (exponent + count) rank := by
  induction count generalizing exponent with
  | zero =>
      simp
  | succ count inductionHypothesis =>
      have regrouped : exponent + ((count + 1 : Nat) : Int) = exponent + 1 + count := by
        omega
      rw [Nat.pow_succ, ← Nat.mul_assoc, nearestDecimal_mul_ten_iff,
        inductionHypothesis, regrouped]

/-! ## Reading a decimal -/

theorem nearest_zero {denominator : Nat} : Nearest 0 denominator 0 :=
  ⟨fun below isNext => absurd isNext (Nat.succ_ne_zero below), by simp, fun _ => rfl⟩

private theorem lt_pow_length_digitsOf (value : Nat) :
    value < 10 ^ (digitsOf value).length :=
  (length_digitsOf_le_iff (List.length_pos_iff.2 (digitsOf_ne_nil value))).1
    (Nat.le_refl _)

private theorem pow_le_of_length_digitsOf
    {value count : Nat}
    (positive : value ≠ 0)
    (isLength : (digitsOf value).length = count + 1) :
    10 ^ count ≤ value := by
  by_cases noMore : count = 0
  · rw [noMore, Nat.pow_zero]
    exact Nat.pos_of_ne_zero positive
  · refine Nat.not_lt.1 fun less => ?_
    have short := (length_digitsOf_le_iff (Nat.pos_of_ne_zero noMore)).2 less
    omega

/-- A decimal with its leading digit far behind the point is nearest to zero. -/
theorem eq_zero_of_nearestDecimal
    {significand rank : Nat} {exponent : Int}
    (nearest : NearestDecimal significand exponent rank)
    (tiny : exponent + (digitsOf significand).length < -60) :
    rank = 0 := by
  cases rank with
  | zero =>
      rfl
  | succ below =>
      have atMost := (nearest.above below rfl).1
      have someMidpoint : 0 < doubleMidpoint below :=
        Nat.lt_of_le_of_lt (Nat.zero_le (unitsOfRank below))
          (Nat.lt_add_of_pos_right (Nat.zero_lt_of_lt
            (Single.unitsOfRank_lt_succ below)))
      have noPower : exponent.toNat = 0 := by omega
      have far : (digitsOf significand).length + 46 ≤ (-exponent).toNat := by omega
      have contradiction :
          2 * unitsNumerator significand exponent < unitsDenominator exponent := by
        calc 2 * unitsNumerator significand exponent
            = significand * 2 ^ 150 := by
              rw [unitsNumerator, noPower]
              ring
          _ < 10 ^ (digitsOf significand).length * 2 ^ 150 :=
              Nat.mul_lt_mul_of_pos_right (lt_pow_length_digitsOf significand)
                (by decide)
          _ ≤ 10 ^ (digitsOf significand).length * 10 ^ 46 :=
            Nat.mul_le_mul_left _ (by decide)
          _ = 10 ^ ((digitsOf significand).length + 46) := (Nat.pow_add 10 _ 46).symm
          _ ≤ unitsDenominator exponent := Nat.pow_le_pow_right (by decide) far
      have one := Nat.mul_le_mul_right (unitsDenominator exponent) someMidpoint
      omega

/-- A decimal with its leading digit far before the point is not nearest to a
finite number. -/
theorem not_finite_of_nearestDecimal
    {significand rank : Nat} {exponent : Int}
    (nearest : NearestDecimal significand exponent rank)
    (someDigit : significand ≠ 0)
    (huge : 60 < exponent + (digitsOf significand).length) :
    ¬ rank < finiteRanks := by
  intro finite
  have largest : unitsOfRank finiteRanks = 2 ^ 149 * 2 ^ 128 := by
    have isScaled : finiteRanks = 254 * binade + binade := by decide
    rw [isScaled, Single.unitsOfRank_scaled 254 (Nat.le_refl _) (by decide)]
    decide
  have midpoint : doubleMidpoint rank ≤ 2 ^ 150 * 2 ^ 128 := by
    have here : unitsOfRank rank ≤ unitsOfRank finiteRanks :=
      Single.unitsOfRank_strictMono.monotone (Nat.le_of_lt finite)
    have next : unitsOfRank (rank + 1) ≤ unitsOfRank finiteRanks :=
      Single.unitsOfRank_strictMono.monotone finite
    rw [largest] at here next
    unfold doubleMidpoint
    omega
  obtain ⟨count, isLength⟩ := Nat.exists_eq_succ_of_ne_zero
    (Nat.ne_of_gt (List.length_pos_iff.2 (digitsOf_ne_nil significand)))
  have leading := pow_le_of_length_digitsOf someDigit isLength
  have far : 39 + (-exponent).toNat ≤ count + exponent.toNat := by omega
  have contradiction : doubleMidpoint rank * unitsDenominator exponent <
      2 * unitsNumerator significand exponent := by
    calc doubleMidpoint rank * unitsDenominator exponent
        ≤ 2 ^ 150 * 2 ^ 128 * unitsDenominator exponent :=
          Nat.mul_le_mul_right _ midpoint
      _ = 2 ^ 150 * (2 ^ 128 * unitsDenominator exponent) := Nat.mul_assoc _ _ _
      _ < 2 ^ 150 * (10 ^ 39 * unitsDenominator exponent) := by
          refine Nat.mul_lt_mul_of_pos_left ?_ (by decide)
          exact Nat.mul_lt_mul_of_pos_right (by decide) (unitsDenominator_pos exponent)
      _ = 2 ^ 150 * 10 ^ (39 + (-exponent).toNat) := by
          rw [unitsDenominator, Nat.pow_add]
      _ ≤ 2 ^ 150 * 10 ^ (count + exponent.toNat) :=
          Nat.mul_le_mul_left _ (Nat.pow_le_pow_right (by decide) far)
      _ = 2 ^ 150 * (10 ^ count * 10 ^ exponent.toNat) := by rw [Nat.pow_add]
      _ ≤ 2 ^ 150 * (significand * 10 ^ exponent.toNat) :=
          Nat.mul_le_mul_left _ (Nat.mul_le_mul_right _ leading)
      _ = 2 * unitsNumerator significand exponent := by
          rw [unitsNumerator]
          ring
  exact absurd nearest.below.1 (Nat.not_le.2 contradiction)

/-- A decimal is read as the finite number that it is nearest to. -/
theorem ofDecimal_eq_of_nearestDecimal
    {significand rank : Nat} {exponent : Int}
    (nearest : NearestDecimal significand exponent rank)
    (finite : rank < finiteRanks)
    (negative : Bool) :
    Single.ofDecimal negative significand exponent = .ofRank negative rank := by
  have read :=
    Single.rankOfQuotient_eq_of_nearest (unitsDenominator_pos exponent) nearest
  simp only [Single.ofDecimal, Nat.pow_eq]
  split
  · rename_i small
    rcases small with rfl | tiny
    · have isZero : rank = 0 :=
        Single.Nearest.unique (unitsDenominator_pos exponent) nearest
          (by simpa [unitsNumerator] using nearest_zero)
      rw [isZero]
    · rw [eq_zero_of_nearestDecimal nearest tiny]
  · rename_i notSmall
    split
    · rename_i huge
      exact absurd finite
        (not_finite_of_nearestDecimal nearest (fun none => notSmall (.inl none)) huge)
    · unfold Single.ofQuotient
      split
      · rename_i whole
        have noPlaces : (-exponent).toNat = 0 := by omega
        rw [unitsNumerator, unitsDenominator, noPlaces, Nat.pow_zero] at read
        rw [read]
      · rename_i places
        have noPower : exponent.toNat = 0 := by omega
        have same : (-exponent).toNat = exponent.natAbs := by omega
        rw [unitsNumerator, unitsDenominator, noPower, same, Nat.pow_zero,
          Nat.mul_one] at read
        rw [read]

end Colloquy.Number
