import Colloquy.Number.Single
import Mathlib.Tactic.Linarith
import Mathlib.Tactic.Ring

/-!
# Rounding to nearest

The magnitudes of successive ranks increase, and within a scale they are evenly
spaced. A quotient is rounded to a rank exactly if it lies between the midpoints
on both sides of the rank's magnitude, a midpoint belonging to the even rank
beside it.
-/

namespace Colloquy.Number.Single

private theorem unitsOfRank_of_le
    {rank : Nat} (small : rank ≤ 2 * binade) : unitsOfRank rank = rank := by
  unfold unitsOfRank binade at *
  split
  · rfl
  · by_cases top : rank = 2 * 0x800000
    · rw [top]
    · have quotient : rank / 0x800000 - 1 = 0 := by omega
      rw [quotient, Nat.pow_eq, Nat.pow_zero]
      omega

/-- From one power of two to the next, ranks count steps of one size. -/
theorem unitsOfRank_scaled
    (scale : Nat) {step : Nat}
    (low : binade ≤ step)
    (high : step ≤ 2 * binade) :
    unitsOfRank (scale * binade + step) = step * 2 ^ scale := by
  unfold unitsOfRank
  have notSmall : ¬ scale * binade + step < binade := by omega
  rw [if_neg notSmall]
  by_cases top : step = 2 * binade
  · have isMultiple : scale * binade + step = (scale + 2) * binade := by
      rw [top]
      ring
    have quotient : (scale + 2) * binade / binade - 1 = scale + 1 := by
      rw [Nat.mul_div_cancel _ (by decide)]
      rfl
    rw [isMultiple, Nat.mul_mod_left, quotient, top, Nat.pow_eq, Nat.pow_succ]
    ring
  · obtain ⟨rest, rfl⟩ := Nat.exists_eq_add_of_le low
    have small : rest < binade := by omega
    have regrouped :
        scale * binade + (binade + rest) = rest + (scale + 1) * binade := by
      ring
    rw [regrouped, Nat.add_mul_mod_self_right, Nat.mod_eq_of_lt small,
      Nat.add_mul_div_right _ _ (by decide), Nat.div_eq_of_lt small, Nat.pow_eq]
    simp

/-- The same, with the ranks below the first power of two as a scale without a
lower end. -/
theorem unitsOfRank_of_scale
    {scale step : Nat}
    (low : scale = 0 ∨ binade ≤ step)
    (high : step ≤ 2 * binade) :
    unitsOfRank (scale * binade + step) = step * 2 ^ scale := by
  rcases low with rfl | low
  · rw [Nat.zero_mul, Nat.zero_add, Nat.pow_zero, Nat.mul_one, unitsOfRank_of_le high]
  · exact unitsOfRank_scaled scale low high

/-- The scale of a rank: how large its magnitude is in steps, and that the next
one is a step away. -/
theorem exists_scale (rank : Nat) :
    ∃ scale step, rank = scale * binade + step ∧ unitsOfRank rank = step * 2 ^ scale ∧
      unitsOfRank (rank + 1) = (step + 1) * 2 ^ scale ∧ step < 2 * binade ∧
        (scale = 0 ∨ binade ≤ step) := by
  obtain ⟨scale, step, rfl, high, low⟩ : ∃ scale step, rank = scale * binade + step ∧
      step < 2 * binade ∧ (scale = 0 ∨ binade ≤ step) := by
    have positive : 0 < binade := by decide
    have below := Nat.mod_lt rank positive
    have whole := Nat.div_add_mod rank binade
    cases isScale : rank / binade with
    | zero =>
        rw [isScale] at whole
        exact ⟨0, rank, by omega, by omega, .inl rfl⟩
    | succ scale =>
        rw [isScale] at whole
        refine ⟨scale, binade + rank % binade, ?_, by omega, .inr (by omega)⟩
        linarith [Nat.mul_comm binade (scale + 1), Nat.succ_mul scale binade]
  refine ⟨scale, step, rfl, unitsOfRank_of_scale low (by omega), ?_, high, low⟩
  rw [Nat.add_assoc]
  exact unitsOfRank_of_scale (low.imp_right (by omega)) (by omega)

/-- The next rank's magnitude is at least a step away, also at the end of a scale. -/
theorem unitsOfRank_succ_of_scale
    {scale step : Nat}
    (low : scale = 0 ∨ binade ≤ step)
    (high : step ≤ 2 * binade) :
    (step + 1) * 2 ^ scale ≤ unitsOfRank (scale * binade + step + 1) := by
  by_cases top : step = 2 * binade
  · have regrouped :
        scale * binade + step + 1 = (scale + 1) * binade + (binade + 1) := by
      rw [top]
      ring
    have more : (binade + 1) * (2 ^ scale * 2) = (2 * binade + 2) * 2 ^ scale := by
      ring
    rw [regrouped, unitsOfRank_scaled (scale + 1) (by omega) (by decide), top,
      Nat.pow_succ, more]
    exact Nat.mul_le_mul_right _ (by omega)
  · rw [Nat.add_assoc, unitsOfRank_of_scale (low.imp_right (by omega)) (by omega)]

theorem unitsOfRank_lt_succ (rank : Nat) :
    unitsOfRank rank < unitsOfRank (rank + 1) := by
  obtain ⟨scale, step, _, here, next, _, _⟩ := exists_scale rank
  rw [here, next]
  exact Nat.mul_lt_mul_of_pos_right (Nat.lt_succ_self step) (Nat.two_pow_pos scale)

/-- Numbers of a higher rank are greater. -/
theorem unitsOfRank_strictMono : StrictMono unitsOfRank :=
  strictMono_nat_of_lt_succ unitsOfRank_lt_succ

/-- Twice the midpoint between a rank's magnitude and the next. -/
def doubleMidpoint (rank : Nat) : Nat :=
  unitsOfRank rank + unitsOfRank (rank + 1)

private theorem doubleMidpoint_lt {left right : Nat} (less : left < right) :
    doubleMidpoint left < doubleMidpoint right :=
  Nat.add_lt_add (unitsOfRank_strictMono less)
    (unitsOfRank_strictMono (Nat.succ_lt_succ less))

/-- A quotient lies between the midpoints beside a rank; only an even rank has
the midpoints themselves. -/
structure Nearest (numerator denominator rank : Nat) : Prop where
  above : ∀ below, below + 1 = rank →
    doubleMidpoint below * denominator ≤ 2 * numerator ∧
    (doubleMidpoint below * denominator = 2 * numerator → rank % 2 = 0)
  below : 2 * numerator ≤ doubleMidpoint rank * denominator ∧
    (2 * numerator = doubleMidpoint rank * denominator → rank % 2 = 0)

/-- Of two nearest numbers none is below the other. -/
theorem Nearest.not_lt
    {numerator denominator left right : Nat}
    (positive : 0 < denominator)
    (nearLeft : Nearest numerator denominator left)
    (nearRight : Nearest numerator denominator right) :
    ¬ left < right := by
  intro less
  obtain ⟨below, rfl⟩ :=
    Nat.exists_eq_succ_of_ne_zero (Nat.ne_of_gt (Nat.zero_lt_of_lt less))
  obtain ⟨above, evenRight⟩ := nearRight.above below rfl
  obtain ⟨under, evenLeft⟩ := nearLeft.below
  rcases Nat.lt_or_eq_of_le (Nat.le_of_lt_succ less) with further | rfl
  · have apart := Nat.mul_lt_mul_of_pos_right (doubleMidpoint_lt further) positive
    omega
  · have right := evenRight (by omega)
    have left := evenLeft (by omega)
    omega

/-- At most one rank is nearest. -/
theorem Nearest.unique
    {numerator denominator left right : Nat}
    (positive : 0 < denominator)
    (nearLeft : Nearest numerator denominator left)
    (nearRight : Nearest numerator denominator right) :
    left = right :=
  Nat.le_antisymm (Nat.not_lt.1 (nearRight.not_lt positive nearLeft))
    (Nat.not_lt.1 (nearLeft.not_lt positive nearRight))

/-! ## Rounding -/

/-- A whole number lies around a quotient, at a distance of at most a half, and
of exactly a half only if it is even. -/
structure Around (numerator denominator whole : Nat) : Prop where
  above : ∀ below, below + 1 = whole → (2 * below + 1) * denominator ≤ 2 * numerator ∧
    ((2 * below + 1) * denominator = 2 * numerator → whole % 2 = 0)
  below : 2 * numerator ≤ (2 * whole + 1) * denominator ∧
    (2 * numerator = (2 * whole + 1) * denominator → whole % 2 = 0)

private theorem around_roundQuotient
    (numerator : Nat) {denominator : Nat}
    (positive : 0 < denominator) :
    Around numerator denominator (roundQuotient numerator denominator) := by
  have whole := Nat.div_add_mod numerator denominator
  have small := Nat.mod_lt numerator positive
  have isRounded : roundQuotient numerator denominator =
      if 2 * (numerator % denominator) < denominator then numerator / denominator
      else if denominator < 2 * (numerator % denominator) then
        numerator / denominator + 1
      else numerator / denominator + numerator / denominator % 2 := rfl
  generalize numerator / denominator = quotient at whole isRounded
  generalize numerator % denominator = rest at whole small isRounded
  rw [Nat.mul_comm] at whole
  have halfAbove :
      (2 * quotient + 1) * denominator =
        2 * (quotient * denominator) + denominator := by
    ring
  have more : (2 * (quotient + 1) + 1) * denominator =
      2 * (quotient * denominator) + 3 * denominator := by
    ring
  have less : ∀ below, below + 1 = quotient →
      (2 * below + 1) * denominator + denominator = 2 * (quotient * denominator) := by
    rintro below rfl
    ring
  rw [isRounded]
  split
  · refine ⟨fun below isNext => ?_, by omega, by omega⟩
    have distance := less below isNext
    exact ⟨by omega, by omega⟩
  · split
    · refine ⟨fun below isNext => ?_, by omega, by omega⟩
      rw [Nat.succ.inj isNext]
      exact ⟨by omega, by omega⟩
    · have tie : denominator = 2 * rest := by omega
      by_cases even : quotient % 2 = 0
      · rw [even, Nat.add_zero]
        refine ⟨fun below isNext => ?_, by omega, fun _ => even⟩
        have distance := less below isNext
        exact ⟨by omega, fun _ => even⟩
      · have odd : quotient % 2 = 1 := by omega
        rw [odd]
        refine ⟨fun below isNext => ?_, by omega, by omega⟩
        rw [Nat.succ.inj isNext]
        exact ⟨by omega, by omega⟩

private theorem roundQuotient_bounds (numerator denominator : Nat) :
    numerator / denominator ≤ roundQuotient numerator denominator ∧
      roundQuotient numerator denominator ≤ numerator / denominator + 1 := by
  simp only [roundQuotient]
  split
  · omega
  · split
    · omega
    · omega

section Scale

variable {numerator denominator scale step : Nat}

private theorem Around.above_midpoint
    (around : Around numerator (denominator * 2 ^ scale) step)
    (positive : 0 < denominator)
    (high : step ≤ 2 * binade)
    (low : scale = 0 ∨ (binade ≤ step ∧ binade * (denominator * 2 ^ scale) ≤ numerator))
    (below : Nat)
    (isNext : below + 1 = scale * binade + step) :
    doubleMidpoint below * denominator ≤ 2 * numerator ∧
      (doubleMidpoint below * denominator = 2 * numerator → step % 2 = 0) := by
  have here : unitsOfRank (scale * binade + step) = step * 2 ^ scale :=
    unitsOfRank_of_scale (low.imp_right And.left) high
  by_cases inScale : scale = 0 ∨ binade < step
  · obtain ⟨previous, rfl⟩ : ∃ previous, step = previous + 1 := by
      refine Nat.exists_eq_succ_of_ne_zero fun none => ?_
      rcases inScale with rfl | more
      · omega
      · omega
    have isBelow : below = scale * binade + previous := by omega
    have lower : unitsOfRank below = previous * 2 ^ scale := by
      rw [isBelow]
      exact unitsOfRank_of_scale (inScale.imp_right Nat.le_of_lt_succ) (by omega)
    have midpoint : doubleMidpoint below * denominator =
        (2 * previous + 1) * (denominator * 2 ^ scale) := by
      rw [doubleMidpoint, isNext, here, lower]
      ring
    rw [midpoint]
    exact around.above previous rfl
  · obtain ⟨notZero, notMore⟩ := not_or.1 inScale
    obtain ⟨atLeast, enough⟩ := low.resolve_left notZero
    have first : step = binade := by omega
    have closer := unitsOfRank_lt_succ below
    rw [isNext, here, first] at closer
    have less : doubleMidpoint below < 2 * (binade * 2 ^ scale) := by
      rw [doubleMidpoint, isNext, here, first]
      omega
    have apart := Nat.mul_lt_mul_of_pos_right less positive
    have regrouped : 2 * (binade * 2 ^ scale) * denominator =
        2 * (binade * (denominator * 2 ^ scale)) := by
      ring
    exact ⟨by omega, by omega⟩

private theorem Around.below_midpoint
    (around : Around numerator (denominator * 2 ^ scale) step)
    (high : step ≤ 2 * binade)
    (low : scale = 0 ∨ binade ≤ step) :
    2 * numerator ≤ doubleMidpoint (scale * binade + step) * denominator ∧
      (2 * numerator = doubleMidpoint (scale * binade + step) * denominator →
        step % 2 = 0) := by
  have reaches : (2 * step + 1) * (denominator * 2 ^ scale) ≤
      doubleMidpoint (scale * binade + step) * denominator := by
    have regrouped : (2 * step + 1) * (denominator * 2 ^ scale) =
        (step * 2 ^ scale + (step + 1) * 2 ^ scale) * denominator := by
      ring
    rw [regrouped, doubleMidpoint, unitsOfRank_of_scale low high]
    exact Nat.mul_le_mul_right _
      (Nat.add_le_add_left (unitsOfRank_succ_of_scale low high) _)
  obtain ⟨under, evenStep⟩ := around.below
  exact ⟨under.trans reaches,
    fun tie => evenStep (Nat.le_antisymm under (tie ▸ reaches))⟩

/-- A whole number around a quotient of steps of a scale is a rank nearest to
the quotient. -/
theorem nearest_of_around
    (positive : 0 < denominator)
    (around : Around numerator (denominator * 2 ^ scale) step)
    (high : step ≤ 2 * binade)
    (low : scale = 0 ∨
      (binade ≤ step ∧ binade * (denominator * 2 ^ scale) ≤ numerator)) :
    Nearest numerator denominator (scale * binade + step) := by
  have even : (scale * binade + step) % 2 = step % 2 := by
    unfold binade
    omega
  constructor
  · rw [even]
    exact around.above_midpoint positive high low
  · rw [even]
    exact around.below_midpoint high (low.imp_right And.left)

end Scale

/-- The scale of a quotient whose whole part is too large for the scale without
a lower end. -/
theorem exists_scale_of_quotient
    {numerator denominator : Nat}
    (positive : 0 < denominator)
    (large : binade ≤ numerator / denominator) :
    ∃ scale, (numerator / denominator).log2 = scale + 23 ∧
      binade * (denominator * 2 ^ scale) ≤ numerator ∧
        numerator < 2 * binade * (denominator * 2 ^ scale) := by
  have someWhole : numerator / denominator ≠ 0 :=
    Nat.ne_of_gt (Nat.lt_of_lt_of_le (by decide) large)
  have atLeast : 23 ≤ (numerator / denominator).log2 :=
    (Nat.le_log2 someWhole).2 large
  obtain ⟨scale, isScale⟩ := Nat.exists_eq_add_of_le' atLeast
  have lowest := Nat.log2_self_le someWhole
  have highest : numerator / denominator < 2 ^ ((numerator / denominator).log2 + 1) :=
    Nat.lt_log2_self
  have power : 2 ^ (scale + 23) * denominator = binade * (denominator * 2 ^ scale) := by
    rw [Nat.pow_add, binade]
    ring
  rw [isScale, Nat.le_div_iff_mul_le positive, power] at lowest
  rw [isScale, Nat.div_lt_iff_lt_mul positive, Nat.pow_succ, Nat.mul_right_comm, power,
    Nat.mul_comm _ 2, ← Nat.mul_assoc] at highest
  exact ⟨scale, isScale, lowest, highest⟩

private theorem nearest_rankOfQuotient
    (numerator : Nat) {denominator : Nat}
    (positive : 0 < denominator) :
    Nearest numerator denominator (rankOfQuotient numerator denominator) := by
  simp only [rankOfQuotient, Nat.pow_eq]
  split
  · rename_i small
    have bounds := roundQuotient_bounds numerator denominator
    have around :
        Around numerator (denominator * 2 ^ 0)
          (roundQuotient numerator denominator) := by
      rw [Nat.pow_zero, Nat.mul_one]
      exact around_roundQuotient numerator positive
    have nearest := nearest_of_around positive around (by omega) (.inl rfl)
    rwa [Nat.zero_mul, Nat.zero_add] at nearest
  · rename_i large
    have wholeIsLarge : binade ≤ numerator / denominator :=
      Nat.le_trans (by decide) (Nat.not_lt.1 large)
    obtain ⟨scale, isScale, lowest, highest⟩ :=
      exists_scale_of_quotient positive wholeIsLarge
    have positiveStep : 0 < denominator * 2 ^ scale :=
      Nat.mul_pos positive (Nat.two_pow_pos scale)
    have bounds := roundQuotient_bounds numerator (denominator * 2 ^ scale)
    have lowStep := (Nat.le_div_iff_mul_le positiveStep).2 lowest
    have highStep := (Nat.div_lt_iff_lt_mul positiveStep).2 highest
    rw [isScale, Nat.add_sub_cancel]
    exact nearest_of_around positive (around_roundQuotient numerator positiveStep)
      (by omega)
      (.inr ⟨by omega, lowest⟩)

/-- A quotient is rounded to the rank that is nearest to it. -/
theorem rankOfQuotient_eq_of_nearest
    {numerator denominator rank : Nat}
    (positive : 0 < denominator)
    (nearest : Nearest numerator denominator rank) :
    rankOfQuotient numerator denominator = rank :=
  (nearest_rankOfQuotient numerator positive).unique positive nearest

end Colloquy.Number.Single
