/-!
# Single-precision numbers

The numbers of IEEE 754 binary32, with one NaN. A finite magnitude is named by
its rank among the finite magnitudes, so that every value has one form and the
order of magnitudes is the order of ranks. All arithmetic is exact arithmetic
followed by one rounding to nearest, ties to even.
-/

namespace Colloquy.Number

/-- How many finite magnitudes there are; the next rank would be infinity. -/
def finiteRanks : Nat := 0x7F800000

/-- How many magnitudes share an exponent: two to the 23rd. -/
def binade : Nat := 0x800000

inductive Single where
  | nan
  | infinite (negative : Bool)
  /-- A finite number: its sign and the rank of its magnitude, zero having rank 0. -/
  | finite (negative : Bool) (rank : Fin finiteRanks)
  deriving DecidableEq, Repr

namespace Single

/-- The magnitude of a rank in units of 2⁻¹⁴⁹, the smallest positive magnitude. -/
def unitsOfRank (rank : Nat) : Nat :=
  if rank < binade then rank
  else (binade + rank % binade) * Nat.pow 2 (rank / binade - 1)

/-- A quotient rounded to the nearest whole number, a half going to the even
neighbour. -/
def roundQuotient (numerator denominator : Nat) : Nat :=
  let whole := numerator / denominator
  let rest := numerator % denominator
  if 2 * rest < denominator then whole
  else if denominator < 2 * rest then whole + 1
  else whole + whole % 2

/-- The rank nearest to a quotient of units, without an upper end. -/
def rankOfQuotient (numerator denominator : Nat) : Nat :=
  let whole := numerator / denominator
  if whole < 2 * binade then roundQuotient numerator denominator
  else
    let shift := whole.log2 - 23
    shift * binade + roundQuotient numerator (denominator * Nat.pow 2 shift)

/-- The number of a sign and a rank; ranks beyond the finite ones are infinity. -/
def ofRank (negative : Bool) (rank : Nat) : Single :=
  if inRange : rank < finiteRanks then
    .finite negative ⟨rank, inRange⟩
  else
    .infinite negative

def ofQuotient (negative : Bool) (numerator denominator : Nat) : Single :=
  ofRank negative (rankOfQuotient numerator denominator)

def zero : Single := .finite false ⟨0, by decide⟩

instance : Inhabited Single := ⟨zero⟩

def isFinite : Single → Bool
  | .finite .. => true
  | _ => false

/-- A finite number's rank with its sign. Both zeros have 0. -/
def signedRank (negative : Bool) (rank : Nat) : Int :=
  if negative then -(rank : Int) else rank

/-- The place of a number on the extended line, if it has one. -/
def position : Single → Option Int
  | .nan => none
  | .infinite negative => some (signedRank negative finiteRanks)
  | .finite negative rank => some (signedRank negative rank)

/-- Numeric equality: zeros are equal, NaN equals nothing. -/
def same (left right : Single) : Bool :=
  match left.position, right.position with
  | some l, some r => l == r
  | _, _ => false

/-- Numeric order; NaN is below nothing. -/
def below (left right : Single) : Bool :=
  match left.position, right.position with
  | some l, some r => l < r
  | _, _ => false

def signedUnits (negative : Bool) (rank : Nat) : Int :=
  if negative then -(unitsOfRank rank : Int) else unitsOfRank rank

/-- The sum rounded to nearest. Opposite infinities have no sum; a sum of zero
is negative only if both terms are. -/
def add : Single → Single → Single
  | .nan, _ => .nan
  | _, .nan => .nan
  | .infinite left, .infinite right => if left == right then .infinite left else .nan
  | .infinite left, .finite .. => .infinite left
  | .finite .., .infinite right => .infinite right
  | .finite leftNegative left, .finite rightNegative right =>
    let sum := signedUnits leftNegative left + signedUnits rightNegative right
    if sum = 0 then ofRank (leftNegative && rightNegative) 0
    else ofQuotient (sum < 0) sum.natAbs 1

instance : Add Single := ⟨add⟩

/-- The number of an interchange bit pattern, for hosts that hold numbers in
this form. All NaN patterns are the one NaN. -/
def ofBits (bits : UInt32) : Single :=
  let negative := 0x80000000 ≤ bits.toNat
  let rank := bits.toNat % 0x80000000
  if finiteRanks < rank then .nan else ofRank negative rank

end Single

end Colloquy.Number
