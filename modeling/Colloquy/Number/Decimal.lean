import Colloquy.Number.Single

/-!
# Decimal text

Reading whole and fractional numbers from decimal text, and writing whole
numbers. A reader takes the entire text or refuses it.
-/

namespace Colloquy.Number

def isDigit (c : Char) : Bool :=
  '0' ≤ c && c ≤ '9'

def digitValue (c : Char) : Nat :=
  c.toNat - '0'.toNat

/-- The number that digits write, the first being the highest. -/
def ofDigits (digits : List Char) : Nat :=
  digits.foldl (fun value c => value * 10 + digitValue c) 0

def digitsOf (value : Nat) : List Char :=
  Nat.toDigits 10 value

/-- Splits a sign off the front; the flag tells whether it is a minus. -/
def splitSign : List Char → Bool × List Char
  | '-' :: rest => (true, rest)
  | '+' :: rest => (false, rest)
  | characters => (false, characters)

/-- Reads a natural number below `bound`: digits, after an optional plus. -/
def readNat? (bound : Nat) (text : String) : Option Nat :=
  let digits := match text.toList with
    | '+' :: rest => rest
    | characters => characters
  if digits.isEmpty || !digits.all isDigit then none
  else
    let value := ofDigits digits
    if value < bound then some value else none

def readInt? (text : String) : Option Int :=
  let (negative, digits) := splitSign text.toList
  if digits.isEmpty || !digits.all isDigit then none
  else some (if negative then -(ofDigits digits : Int) else ofDigits digits)

def int32? (value : Int) : Option Int32 :=
  if -0x80000000 ≤ value ∧ value < 0x80000000 then some (Int32.ofInt value) else none

def readInt32? (text : String) : Option Int32 :=
  (readInt? text).bind int32?

def showInt (value : Int) : String :=
  String.ofList ((if value < 0 then ['-'] else []) ++ digitsOf value.natAbs)

def showNat (value : Nat) : String :=
  String.ofList (digitsOf value)

/-- The sum of two 32-bit integers, kept at the nearer end of the range if it
leaves it. -/
def addClamped (left right : Int32) : Int32 :=
  Int32.ofIntClamp (left.toInt + right.toInt)

/-- The number nearest to `significand · 10 ^ exponent`. Exponents far outside
the range of the format are settled without computing the power. -/
def Single.ofDecimal (negative : Bool) (significand : Nat) (exponent : Int) : Single :=
  let magnitude := exponent + (digitsOf significand).length
  if significand = 0 ∨ magnitude < -60 then .ofRank negative 0
  else if 60 < magnitude then .infinite negative
  else
    let units := significand * Nat.pow 2 149
    if 0 ≤ exponent then .ofQuotient negative (units * Nat.pow 10 exponent.toNat) 1
    else .ofQuotient negative units (Nat.pow 10 exponent.natAbs)

/-- Reads the exponent part: nothing, or a mark with an optionally signed run of
digits. -/
def readExponent? : List Char → Option Int
  | [] => some 0
  | mark :: rest =>
    let (negative, digits) := splitSign rest
    if (mark == 'e' || mark == 'E') && !digits.isEmpty && digits.all isDigit then
      some (if negative then -(ofDigits digits : Int) else ofDigits digits)
    else none

/-- Reads an unsigned decimal: digits with at most one point among or beside
them, then an exponent. -/
def readMagnitude? (negative : Bool) (characters : List Char) : Option Single :=
  let whole := characters.takeWhile isDigit
  let afterWhole := characters.dropWhile isDigit
  let (fraction, tail) := match afterWhole with
    | '.' :: rest => (rest.takeWhile isDigit, rest.dropWhile isDigit)
    | _ => ([], afterWhole)
  if whole.isEmpty && fraction.isEmpty then none
  else
    (readExponent? tail).map fun exponent =>
      Single.ofDecimal negative (ofDigits (whole ++ fraction))
        (exponent - fraction.length)

/-- Reads a number, the words `inf`, `infinity` and `nan` in any case included. -/
def readSingle? (text : String) : Option Single :=
  let (negative, characters) := splitSign text.toList
  let word := String.ofList (characters.map Char.toLower)
  if word = "inf" ∨ word = "infinity" then some (.infinite negative)
  else if word = "nan" then some .nan
  else readMagnitude? negative characters

/-- Reads a finite number. Words, and magnitudes beyond the format, are refused. -/
def readFinite? (text : String) : Option Single :=
  (readSingle? text).filter Single.isFinite

end Colloquy.Number
