import Colloquy.Proofs.Number.Nearest

/-!
# The shortest decimal

The shortest decimal of a rank is nearest to that rank. Some grid of at most
nine digits has a point that rounds to the rank, because the gap below a
magnitude is at least the 2²⁴th part of it.
-/

namespace Colloquy.Number

open Single (Nearest doubleMidpoint unitsOfRank)

private theorem gridStep_eq (exponent : Int) :
    gridStep exponent = 10 ^ (exponent + 60).toNat * 2 ^ 150 :=
  rfl

private theorem gridStep_pos (exponent : Int) : 0 < gridStep exponent := by
  rw [gridStep_eq]
  exact Nat.mul_pos (Nat.pow_pos (by decide)) (by decide)

private theorem gridStep_add
    {exponent : Int}
    (inGrid : -60 ≤ exponent)
    (count : Nat) :
    gridStep (exponent + count) = 10 ^ count * gridStep exponent := by
  have power : (exponent + count + 60).toNat = count + (exponent + 60).toNat := by omega
  rw [gridStep_eq, gridStep_eq, power, Nat.pow_add, Nat.mul_assoc]

private theorem scaledMagnitude_eq (rank : Nat) :
    scaledMagnitude rank = 2 * (unitsOfRank rank * 10 ^ 60) := by
  unfold scaledMagnitude gridBase
  rw [Nat.pow_eq, Nat.mul_assoc]

/-- The ends of the interval of a rank are the scaled midpoints. -/
theorem halfway_eq (rank : Nat) :
    (scaledMagnitude rank + scaledMagnitude (rank + 1)) / 2 =
      doubleMidpoint rank * 10 ^ 60 := by
  rw [scaledMagnitude_eq, scaledMagnitude_eq, doubleMidpoint, Nat.add_mul]
  omega

/-- A point of the grid in the units of ranks. -/
theorem point_mul_unitsDenominator
    {exponent : Int}
    (inGrid : -60 ≤ exponent)
    (point : Nat) :
    point * gridStep exponent * unitsDenominator exponent =
      2 * unitsNumerator point exponent * 10 ^ 60 := by
  have powers : 10 ^ (exponent + 60).toNat * 10 ^ (-exponent).toNat =
      10 ^ exponent.toNat * 10 ^ 60 := by
    rw [← Nat.pow_add, ← Nat.pow_add]
    congr 1
    omega
  calc point * gridStep exponent * unitsDenominator exponent
      = point * 2 ^ 150 * (10 ^ (exponent + 60).toNat * 10 ^ (-exponent).toNat) := by
        rw [gridStep_eq, unitsDenominator]
        ring
    _ = point * 2 ^ 150 * (10 ^ exponent.toNat * 10 ^ 60) := by rw [powers]
    _ = 2 * unitsNumerator point exponent * 10 ^ 60 := by
        rw [unitsNumerator]
        ring

/-- What rounds to a rank is nearest to it. -/
theorem nearestDecimal_of_roundsTo
    {rank point : Nat} {exponent : Int}
    (positive : rank ≠ 0)
    (inGrid : -60 ≤ exponent)
    (rounds : roundsTo rank (point * gridStep exponent) = true) :
    NearestDecimal point exponent rank := by
  have scaled := point_mul_unitsDenominator inGrid point
  have cancel : ∀ {left right : Nat}, left * 10 ^ 60 ≤ right * 10 ^ 60 → left ≤ right :=
    fun atMost => Nat.le_of_mul_le_mul_right atMost (by decide)
  have above : ∀ midpoint, midpoint * 10 ^ 60 ≤ point * gridStep exponent →
      midpoint * unitsDenominator exponent ≤ 2 * unitsNumerator point exponent := by
    intro midpoint atMost
    refine cancel ?_
    rw [← scaled, Nat.mul_right_comm]
    exact Nat.mul_le_mul_right _ atMost
  have below : ∀ midpoint, point * gridStep exponent ≤ midpoint * 10 ^ 60 →
      2 * unitsNumerator point exponent ≤ midpoint * unitsDenominator exponent := by
    intro midpoint atLeast
    refine cancel ?_
    rw [← scaled, Nat.mul_right_comm midpoint]
    exact Nat.mul_le_mul_right _ atLeast
  obtain ⟨previous, rfl⟩ := Nat.exists_eq_succ_of_ne_zero positive
  have meets :
      ∀ midpoint, midpoint * unitsDenominator exponent =
        2 * unitsNumerator point exponent →
      midpoint * 10 ^ 60 = point * gridStep exponent := by
    intro midpoint equal
    refine Nat.eq_of_mul_eq_mul_right (unitsDenominator_pos exponent) ?_
    rw [scaled, ← equal, Nat.mul_right_comm]
  simp only [roundsTo, Nat.succ_eq_add_one, Nat.add_sub_cancel, halfway_eq] at rounds
  by_cases even : (previous + 1) % 2 = 0
  · rw [if_pos even, Bool.and_eq_true, decide_eq_true_eq, decide_eq_true_eq] at rounds
    refine ⟨fun under isNext => ?_, below _ rounds.2, fun _ => even⟩
    rw [Nat.succ.inj isNext]
    exact ⟨above _ rounds.1, fun _ => even⟩
  · rw [if_neg even, Bool.and_eq_true, decide_eq_true_eq, decide_eq_true_eq] at rounds
    refine ⟨fun under isNext => ?_, below _ (Nat.le_of_lt rounds.2), fun equal => ?_⟩
    · rw [Nat.succ.inj isNext]
      exact ⟨above _ (Nat.le_of_lt rounds.1),
        fun equal => absurd (meets _ equal) (Nat.ne_of_lt rounds.1)⟩
    · exact absurd (meets _ equal.symm) (Nat.ne_of_gt rounds.2)

/-! ## The grid of nine digits -/

private theorem roundsTo_of_gridPoint?
    {rank point : Nat} {exponent : Int}
    (found : gridPoint? rank exponent = some point) :
    roundsTo rank (point * gridStep exponent) = true := by
  simp only [gridPoint?] at found
  split at found
  · rename_i floorHits
    simp only [Bool.and_eq_true] at floorHits
    rw [← Option.some.inj found]
    exact floorHits.1.2
  · split at found
    · rename_i ceilHits
      rw [← Option.some.inj found]
      exact ceilHits
    · cases found

/-- The gap below a magnitude is at least the 2²⁴th part of it. -/
theorem unitsOfRank_succ_le_gap (rank : Nat) :
    unitsOfRank (rank + 1) ≤ 2 ^ 24 * (unitsOfRank (rank + 1) - unitsOfRank rank) := by
  obtain ⟨scale, step, _, here, next, high, _⟩ := Single.exists_scale rank
  have gap : unitsOfRank (rank + 1) - unitsOfRank rank = 2 ^ scale := by
    rw [here, next, Nat.add_mul, Nat.one_mul, Nat.add_sub_cancel_left]
  rw [gap, next]
  exact Nat.mul_le_mul_right _ high

/-- A grid with at least nine digits has a point that rounds to the rank: the
one below it. -/
theorem exists_gridPoint
    {rank : Nat} {exponent : Int}
    (positive : rank ≠ 0)
    (fine : 10 ^ 8 * gridStep exponent ≤ scaledMagnitude rank) :
    ∃ point, gridPoint? rank exponent = some point := by
  have stepPositive := gridStep_pos exponent
  have whole := Nat.div_add_mod (scaledMagnitude rank) (gridStep exponent)
  have rest := Nat.mod_lt (scaledMagnitude rank) stepPositive
  rw [Nat.mul_comm] at whole
  have someFloor : scaledMagnitude rank / gridStep exponent ≠ 0 := by
    refine Nat.ne_of_gt (Nat.div_pos ?_ stepPositive)
    exact Nat.le_trans (Nat.le_mul_of_pos_left _ (by decide)) fine
  have floorHits : roundsTo rank
      (scaledMagnitude rank / gridStep exponent * gridStep exponent) = true := by
    obtain ⟨previous, rfl⟩ := Nat.exists_eq_succ_of_ne_zero positive
    have gap := unitsOfRank_succ_le_gap previous
    have closer := Single.unitsOfRank_lt_succ previous
    have further := Single.unitsOfRank_lt_succ (previous + 1)
    rw [Nat.succ_eq_add_one] at whole rest fine ⊢
    generalize scaledMagnitude (previous + 1) / gridStep exponent * gridStep exponent =
      point
      at whole ⊢
    have magnitude := scaledMagnitude_eq (previous + 1)
    have inside : doubleMidpoint previous * 10 ^ 60 < point ∧
        point < doubleMidpoint (previous + 1) * 10 ^ 60 := by
      unfold doubleMidpoint
      omega
    simp only [roundsTo, Nat.add_sub_cancel, halfway_eq]
    split
    · rw [Bool.and_eq_true, decide_eq_true_eq, decide_eq_true_eq]
      exact ⟨Nat.le_of_lt inside.1, Nat.le_of_lt inside.2⟩
    · rw [Bool.and_eq_true, decide_eq_true_eq, decide_eq_true_eq]
      exact inside
  simp only [gridPoint?, someFloor, floorHits, ne_eq, not_false_eq_true, decide_true,
    Bool.true_and]
  split
  · exact ⟨_, rfl⟩
  · rename_i ceilOnly
    simp only [Bool.or_eq_true, Bool.not_eq_true', not_or,
      Bool.not_eq_false] at ceilOnly
    rw [if_pos ceilOnly.1]
    exact ⟨_, rfl⟩

/-- A magnitude is at least the power of ten before the least one above it. -/
theorem leadingPower_spec {magnitude : Nat} (atLeast : gridStep (-48) ≤ magnitude) :
    -47 ≤ leadingPower magnitude ∧
      gridStep (leadingPower magnitude - 1) ≤ magnitude := by
  unfold leadingPower
  split
  · rename_i place found
    obtain ⟨under, _, notBefore⟩ := List.find?_range_eq_some.1 found
    have notFirst : place ≠ 0 := by
      rintro rfl
      exact absurd (of_decide_eq_true under) (Nat.not_lt.2 atLeast)
    have previous := notBefore (place - 1) (by omega)
    have exponent : ((place - 1 : Nat) : Int) - 48 = (place : Int) - 48 - 1 := by omega
    rw [exponent] at previous
    exact ⟨by omega, by simpa using previous⟩
  · rename_i notFound
    have last := List.find?_eq_none.1 notFound 89 (List.mem_range.2 (by decide))
    exact ⟨by decide, by simpa using last⟩

private theorem leadingExponent_spec {rank : Nat} (positive : rank ≠ 0) :
    -47 ≤ leadingExponent rank ∧
      gridStep (leadingExponent rank - 1) ≤ scaledMagnitude rank := by
  have smallest : unitsOfRank 1 ≤ unitsOfRank rank :=
    Single.unitsOfRank_strictMono.monotone (Nat.pos_of_ne_zero positive)
  refine leadingPower_spec ?_
  rw [scaledMagnitude_eq]
  calc gridStep (-48) ≤ 2 * (unitsOfRank 1 * 10 ^ 60) := by decide +kernel
    _ ≤ 2 * (unitsOfRank rank * 10 ^ 60) :=
      Nat.mul_le_mul_left _ (Nat.mul_le_mul_right _ smallest)

private theorem nearestDecimal_stripZeros
    {rank : Nat} {decimal : Scientific} (fuel : Nat)
    (nearest : NearestDecimal decimal.significand decimal.exponent rank) :
    NearestDecimal (stripZeros fuel decimal).significand
      (stripZeros fuel decimal).exponent
      rank := by
  induction fuel generalizing decimal with
  | zero =>
      exact nearest
  | succ fuel inductionHypothesis =>
      simp only [stripZeros]
      split
      · rename_i zeroAtEnd
        refine inductionHypothesis (nearestDecimal_mul_ten_iff.1 ?_)
        rwa [Nat.div_mul_cancel (Nat.dvd_of_mod_eq_zero zeroAtEnd)]
      · exact nearest

private theorem nearestDecimal_of_coarsestPoint?
    {rank : Nat} {decimal : Scientific}
    (positive : rank ≠ 0)
    (found : coarsestPoint? rank = some decimal) :
    NearestDecimal decimal.significand decimal.exponent rank := by
  have lowest := (leadingExponent_spec positive).1
  obtain ⟨count, inRange, isFound⟩ := List.exists_of_findSome?_eq_some found
  obtain ⟨point, onGrid, rfl⟩ := Option.map_eq_some_iff.1 isFound
  have fewDigits := List.mem_range.1 inRange
  have inGrid : -60 ≤ leadingExponent rank - ((count : Int) + 1) := by omega
  exact nearestDecimal_of_roundsTo positive inGrid (roundsTo_of_gridPoint? onGrid)

/-- At the latest the grid of nine digits has a point. -/
theorem coarsestPoint?_ne_none {rank : Nat} (positive : rank ≠ 0) :
    coarsestPoint? rank ≠ none := by
  intro missing
  obtain ⟨lowest, leading⟩ := leadingExponent_spec positive
  have fine : 10 ^ 8 * gridStep (leadingExponent rank - ((8 : Nat) + 1)) ≤
      scaledMagnitude rank := by
    have ninth :
        leadingExponent rank - ((8 : Nat) + 1) + (8 : Nat) =
          leadingExponent rank - 1 := by
      omega
    rw [← gridStep_add (by omega), ninth]
    exact leading
  obtain ⟨point, onGrid⟩ := exists_gridPoint positive fine
  have notNinth := List.findSome?_eq_none_iff.1 missing 8 (List.mem_range.2 (by decide))
  rw [Option.map_eq_none_iff, onGrid] at notNinth
  cases notNinth

/-- The shortest decimal of a rank is nearest to it. -/
theorem nearestDecimal_shortest (rank : Nat) :
    NearestDecimal (shortest rank).significand (shortest rank).exponent rank := by
  unfold shortest
  by_cases isZero : rank = 0
  · rw [if_pos isZero, isZero]
    exact nearest_zero
  · rw [if_neg isZero]
    cases found : coarsestPoint? rank with
    | none =>
        exact absurd found (coarsestPoint?_ne_none isZero)
    | some decimal =>
        exact nearestDecimal_stripZeros 10
          (nearestDecimal_of_coarsestPoint? isZero found)

end Colloquy.Number
