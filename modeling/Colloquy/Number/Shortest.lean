import Colloquy.Number.Decimal

/-!
# Shortest decimal text

The fewest digits that read back as the number, and of those the nearest; and
the three notations in which numbers are shown: plain, with a kept decimal, and
for diagnostics.
-/

namespace Colloquy.Number

structure Scientific where
  significand : Nat
  /-- The power of ten of the last digit. -/
  exponent : Int
  deriving DecidableEq, Repr

/-- The power of ten below which no digit of a finite magnitude is needed. -/
def gridBase : Nat := 60

/-- The step of the decimal grid of digits at `10 ^ exponent`, in units of 2⁻¹⁵⁰
· 10⁻⁶⁰. -/
def gridStep (exponent : Int) : Nat :=
  Nat.pow 10 (exponent + gridBase).toNat * Nat.pow 2 150

/-- The magnitude of a rank, doubled and scaled to the unit of `gridStep`. -/
def scaledMagnitude (rank : Nat) : Nat :=
  2 * Single.unitsOfRank rank * Nat.pow 10 gridBase

/-- Whether a point, in the unit of `gridStep`, rounds to the rank. The ends of
the interval belong to the even rank beside them. -/
def roundsTo (rank : Nat) (point : Nat) : Bool :=
  let low := (scaledMagnitude (rank - 1) + scaledMagnitude rank) / 2
  let high := (scaledMagnitude rank + scaledMagnitude (rank + 1)) / 2
  if rank % 2 = 0 then low ≤ point && point ≤ high else low < point && point < high

/-- The best point of the grid at `10 ^ exponent` that rounds to the rank: one
of the magnitude's two neighbours, the nearer if both do. -/
def gridPoint? (rank : Nat) (exponent : Int) : Option Nat :=
  let step := gridStep exponent
  let value := scaledMagnitude rank
  let floor := value / step
  let floorHits := floor ≠ 0 && roundsTo rank (floor * step)
  let ceilHits := roundsTo rank ((floor + 1) * step)
  if floorHits && (!ceilHits || 2 * (value % step) < step) then some floor
  else if ceilHits then some (floor + 1)
  else none

/-- The least power of ten above a positive magnitude, in the unit of `gridStep`. -/
def leadingPower (magnitude : Nat) : Int :=
  match (List.range 90).find? fun (k : Nat) => magnitude < gridStep (k - 48 : Int) with
  | some k => (k : Int) - 48
  | none => 42

def leadingExponent (rank : Nat) : Int :=
  leadingPower (scaledMagnitude rank)

def stripZeros : Nat → Scientific → Scientific
  | 0, decimal => decimal
  | fuel + 1, decimal =>
    if decimal.significand % 10 = 0 then
      stripZeros fuel ⟨decimal.significand / 10, decimal.exponent + 1⟩
    else decimal

/-- The best point of the coarsest grid that has one. Nine digits always suffice. -/
def coarsestPoint? (rank : Nat) : Option Scientific :=
  (List.range 9).findSome? fun (count : Nat) =>
    let exponent : Int := leadingExponent rank - (count + 1)
    (gridPoint? rank exponent).map fun point => Scientific.mk point exponent

def shortest (rank : Nat) : Scientific :=
  if rank = 0 then ⟨0, 0⟩
  else ((coarsestPoint? rank).map (stripZeros 10)).getD ⟨0, 0⟩

/-- Positional digits, with a point only if there is a fraction. -/
def positional (decimal : Scientific) : List Char :=
  let digits := digitsOf decimal.significand
  if 0 ≤ decimal.exponent then digits ++ List.replicate decimal.exponent.toNat '0'
  else
    let places := decimal.exponent.natAbs
    let padded := List.replicate (places + 1 - digits.length) '0' ++ digits
    padded.take (padded.length - places) ++ '.' :: padded.drop (padded.length - places)

/-- One digit before the point and the power of ten behind an `e`. -/
def exponential (decimal : Scientific) : List Char :=
  let digits := digitsOf decimal.significand
  let power := decimal.exponent + (digits.length - 1 : Nat)
  digits.take 1 ++ (if digits.length ≤ 1 then [] else '.' :: digits.drop 1) ++
    'e' :: (showInt power).toList

def keepDecimal (digits : List Char) : List Char :=
  if digits.contains '.' then digits else digits ++ ['.', '0']

def showWith (magnitudeText : Nat → List Char) : Single → String
  | .nan => "NaN"
  | .infinite negative => if negative then "-inf" else "inf"
  | .finite negative rank =>
    String.ofList ((if negative then ['-'] else []) ++ magnitudeText rank)

/-- Plain text: positional, whole numbers without a point. -/
def Single.text : Single → String :=
  showWith fun rank => positional (shortest rank)

def Single.decimalText : Single → String :=
  showWith fun rank => keepDecimal (positional (shortest rank))

/-- Text for diagnostics: at least one decimal, but an exponent for magnitudes
from 10¹⁶ on and below 10⁻⁴. -/
def Single.diagnosticText : Single → String :=
  showWith fun rank =>
    let decimal := shortest rank
    let lead := decimal.exponent + (digitsOf decimal.significand).length
    if decimal.significand ≠ 0 ∧ (16 < lead ∨ lead < -3) then exponential decimal
    else keepDecimal (positional decimal)

end Colloquy.Number
