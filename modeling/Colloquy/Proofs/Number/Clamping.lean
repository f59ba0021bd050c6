import Colloquy.Number.Decimal
import Mathlib.Data.List.Infix

/-!
# Clamped sums

A clamped sum of two integers is the 32-bit integer nearest to their exact sum.
Clamping is not associative, so that a sum of several integers may depend on
their order. It does not if none of the partial sums leaves the range, and if
the summands have one sign: then the exact sum may as well be clamped at the
end.
-/

namespace Colloquy.Number

def InRange32 (value : Int) : Prop :=
  -0x80000000 ≤ value ∧ value < 0x80000000

instance (value : Int) : Decidable (InRange32 value) :=
  inferInstanceAs (Decidable (_ ∧ _))

/-- An integer, or the nearer end of the 32-bit range if it lies outside. -/
def clamp32 (value : Int) : Int :=
  max (-0x80000000) (min value 0x7FFFFFFF)

/-- Any other 32-bit integer is farther from the exact value. -/
def IsNearest32 (nearest : Int32) (exact : Int) : Prop :=
  ∀ other : Int32, other ≠ nearest →
    (nearest.toInt - exact).natAbs < (other.toInt - exact).natAbs

private theorem inRange32_toInt (value : Int32) : InRange32 value.toInt :=
  ⟨value.le_toInt, value.toInt_lt⟩

private theorem clamp32_of_inRange32
    {value : Int} (inRange : InRange32 value) : clamp32 value = value := by
  unfold InRange32 at inRange
  unfold clamp32
  omega

private theorem toInt_addClamped (left right : Int32) :
    (addClamped left right).toInt = clamp32 (left.toInt + right.toInt) := by
  have lowest : Int32.minValue.toInt = -0x80000000 := rfl
  have highest : Int32.maxValue.toInt = 0x7FFFFFFF := rfl
  unfold addClamped Int32.ofIntClamp clamp32
  split
  · split
    · rw [Int32.toInt_ofIntLE]
      omega
    · omega
  · omega

/-- A clamped sum is the integer in range that is nearest to the sum. -/
theorem isNearest32_addClamped (left right : Int32) :
    IsNearest32 (addClamped left right) (left.toInt + right.toInt) := by
  intro other different
  have otherValue : other.toInt ≠ (addClamped left right).toInt :=
    fun equal => different (Int32.toInt_inj.1 equal)
  have otherInRange := inRange32_toInt other
  rw [toInt_addClamped] at otherValue ⊢
  unfold InRange32 at otherInRange
  unfold clamp32 at otherValue ⊢
  omega

def exactSum : List Int32 → Int
  | [] => 0
  | head :: tail => head.toInt + exactSum tail

/-- Adds integers one after another and clamps each sum. -/
def sumClamped (start : Int32) (summands : List Int32) : Int32 :=
  summands.foldl addClamped start

/-- No two integers have opposite signs. -/
def OneSign (summands : List Int32) : Prop :=
  (∀ summand ∈ summands, 0 ≤ summand.toInt) ∨ ∀ summand ∈ summands, summand.toInt ≤ 0

instance (summands : List Int32) : Decidable (OneSign summands) :=
  decidable_of_iff
    (summands.all (fun summand => 0 ≤ summand.toInt) ∨
      summands.all fun summand => summand.toInt ≤ 0)
    (by simp [OneSign])

section

variable {start head : Int32} {summands tail : List Int32}

private theorem exactSum_append (front back : List Int32) :
    exactSum (front ++ back) = exactSum front + exactSum back := by
  induction front with
  | nil =>
      rw [List.nil_append, exactSum, Int.zero_add]
  | cons head tail inductionHypothesis =>
      rw [List.cons_append, exactSum, exactSum, inductionHypothesis, Int.add_assoc]

theorem sumClamped_cons (start head : Int32) (tail : List Int32) :
    sumClamped start (head :: tail) = sumClamped (addClamped start head) tail :=
  List.foldl_cons ..

/-- What sums share with their summands. -/
theorem exactSum_of_forall
    (property : Int → Prop)
    (zero : property 0)
    (add : ∀ left right, property left → property right → property (left + right))
    (each : ∀ summand ∈ summands, property summand.toInt) :
    property (exactSum summands) := by
  induction summands with
  | nil =>
      exact zero
  | cons head tail inductionHypothesis =>
      rw [List.forall_mem_cons] at each
      exact add head.toInt (exactSum tail) each.1 (inductionHypothesis each.2)

private theorem exactSum_nonneg (nonneg : ∀ summand ∈ summands, 0 ≤ summand.toInt) :
    0 ≤ exactSum summands :=
  exactSum_of_forall (0 ≤ ·) (Int.le_refl 0) (fun _ _ => Int.add_nonneg) nonneg

private theorem exactSum_nonpos (nonpos : ∀ summand ∈ summands, summand.toInt ≤ 0) :
    exactSum summands ≤ 0 :=
  exactSum_of_forall (· ≤ 0) (Int.le_refl 0) (fun _ _ => Int.add_nonpos) nonpos

/-- As long as no partial sum leaves the range, there is nothing to clamp. -/
theorem toInt_sumClamped_of_inRange32
    (inRange : ∀ front ∈ summands.inits, InRange32 (start.toInt + exactSum front)) :
    (sumClamped start summands).toInt = start.toInt + exactSum summands := by
  induction summands generalizing start with
  | nil =>
      simp [sumClamped, exactSum]
  | cons head tail inductionHypothesis =>
      have headMember : [head] ∈ (head :: tail).inits :=
        (List.mem_inits _ _).2 (List.prefix_append [head] tail)
      have headInRange : InRange32 (start.toInt + head.toInt) := by
        simpa [exactSum] using inRange [head] headMember
      have headSum : (addClamped start head).toInt = start.toInt + head.toInt := by
        rw [toInt_addClamped, clamp32_of_inRange32 headInRange]
      have tailInRange : ∀ front ∈ tail.inits,
          InRange32 ((addClamped start head).toInt + exactSum front) := by
        intro front member
        have longer : head :: front ∈ (head :: tail).inits :=
          (List.mem_inits _ _).2
            (List.prefix_cons_inj head |>.2 ((List.mem_inits _ _).1 member))
        have whole := inRange (head :: front) longer
        rwa [exactSum, ← Int.add_assoc, ← headSum] at whole
      rw [sumClamped_cons, inductionHypothesis tailInRange, headSum, exactSum,
        Int.add_assoc]

theorem OneSign.of_cons (oneSign : OneSign (head :: tail)) : OneSign tail :=
  oneSign.imp (fun nonneg => (List.forall_mem_cons.1 nonneg).2)
    fun nonpos => (List.forall_mem_cons.1 nonpos).2

private theorem OneSign.head_and_exactSum (oneSign : OneSign (head :: tail)) :
    (0 ≤ head.toInt ∧ 0 ≤ exactSum tail) ∨ (head.toInt ≤ 0 ∧ exactSum tail ≤ 0) := by
  rcases oneSign with nonneg | nonpos
  · rw [List.forall_mem_cons] at nonneg
    exact Or.inl ⟨nonneg.1, exactSum_nonneg nonneg.2⟩
  · rw [List.forall_mem_cons] at nonpos
    exact Or.inr ⟨nonpos.1, exactSum_nonpos nonpos.2⟩

/-- Summands of one sign may be clamped once at the end: a sum that has left the
range does not come back. -/
theorem toInt_sumClamped_of_oneSign (oneSign : OneSign summands) :
    (sumClamped start summands).toInt = clamp32 (start.toInt + exactSum summands) := by
  induction summands generalizing start with
  | nil =>
      rw [exactSum, Int.add_zero, clamp32_of_inRange32 (inRange32_toInt start),
        sumClamped, List.foldl_nil]
  | cons head tail inductionHypothesis =>
      have startInRange := inRange32_toInt start
      rw [sumClamped_cons, inductionHypothesis oneSign.of_cons, toInt_addClamped,
        exactSum]
      unfold InRange32 at startInRange
      unfold clamp32
      rcases oneSign.head_and_exactSum with nonneg | nonpos
      · omega
      · omega

end

/-! ## Regrouped sums -/

/-- `SumsOf groups sums` means that the sums are the exact ones of the groups. -/
def SumsOf (groups : List (List Int32)) (sums : List Int32) : Prop :=
  List.Forall₂ (fun group sum => sum.toInt = exactSum group) groups sums

private theorem exactSum_of_sumsOf
    {groups : List (List Int32)} {sums : List Int32}
    (sumsOf : SumsOf groups sums) :
    exactSum sums = exactSum groups.flatten := by
  induction sumsOf with
  | nil =>
      rfl
  | cons headSum tailSums inductionHypothesis =>
      rw [exactSum, headSum, inductionHypothesis, List.flatten_cons, exactSum_append]

private theorem exactSum_of_perm
    {left right : List Int32}
    (perm : left.Perm right) :
    exactSum left = exactSum right := by
  induction perm with
  | nil =>
      rfl
  | cons head _ inductionHypothesis =>
      rw [exactSum, exactSum, inductionHypothesis]
  | swap first second rest =>
      simp only [exactSum, Int.add_left_comm]
  | trans _ _ first second =>
      exact first.trans second

/-- Having one sign does not depend on the order. -/
theorem OneSign.of_perm
    {left right : List Int32}
    (oneSign : OneSign right)
    (perm : left.Perm right) :
    OneSign left :=
  oneSign.imp (fun nonneg summand member => nonneg summand (perm.subset member))
    fun nonpos summand member => nonpos summand (perm.subset member)

private theorem forall_mem_of_sumsOf
    (property : Int → Prop) {groups : List (List Int32)} {sums : List Int32}
    (zero : property 0)
    (add : ∀ left right, property left → property right → property (left + right))
    (each : ∀ summand ∈ groups.flatten, property summand.toInt)
    (sumsOf : SumsOf groups sums) :
    ∀ sum ∈ sums, property sum.toInt := by
  induction sumsOf with
  | nil =>
      intro sum member
      cases member
  | cons headSum tailSums inductionHypothesis =>
      rw [List.flatten_cons, List.forall_mem_append] at each
      rw [List.forall_mem_cons, headSum]
      exact ⟨exactSum_of_forall property zero add each.1, inductionHypothesis each.2⟩

private theorem OneSign.of_sumsOf
    {groups : List (List Int32)} {sums : List Int32}
    (oneSign : OneSign groups.flatten)
    (sumsOf : SumsOf groups sums) :
    OneSign sums := by
  rcases oneSign with nonneg | nonpos
  · apply Or.inl
    exact forall_mem_of_sumsOf (0 ≤ ·) (Int.le_refl 0)
      (fun _ _ => Int.add_nonneg) nonneg sumsOf
  · apply Or.inr
    exact forall_mem_of_sumsOf (· ≤ 0) (Int.le_refl 0)
      (fun _ _ => Int.add_nonpos) nonpos sumsOf

/-- Summands of one sign may be put in another order. -/
theorem sumClamped_of_perm
    {left right : List Int32}
    (oneSign : OneSign right)
    (perm : left.Perm right)
    (start : Int32) :
    sumClamped start left = sumClamped start right := by
  have leftOneSign : OneSign left := oneSign.of_perm perm
  rw [← Int32.toInt_inj, toInt_sumClamped_of_oneSign leftOneSign,
    toInt_sumClamped_of_oneSign oneSign, exactSum_of_perm perm]

/-- Summands of one sign may be replaced by sums of some of them that stay in
the range. -/
theorem sumClamped_of_sumsOf
    {groups : List (List Int32)} {sums : List Int32}
    (oneSign : OneSign groups.flatten)
    (sumsOf : SumsOf groups sums)
    (start : Int32) :
    sumClamped start sums = sumClamped start groups.flatten := by
  have sumsOneSign : OneSign sums := oneSign.of_sumsOf sumsOf
  rw [← Int32.toInt_inj, toInt_sumClamped_of_oneSign sumsOneSign,
    toInt_sumClamped_of_oneSign oneSign, exactSum_of_sumsOf sumsOf]

end Colloquy.Number
