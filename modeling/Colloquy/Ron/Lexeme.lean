import Colloquy.Number.Decimal
import Colloquy.Text.Letter

/-!
# RON lexemes

Blanks and comments, names, text literals and the written forms of numbers. Each
reader takes the rest of the input and returns what it read with what is left,
or nothing if the input is malformed.
-/

namespace Colloquy.Ron

/-- Reads a prefix of the input. -/
abbrev Reader (α : Type) := List Char → Option (α × List Char)

def isBlank (c : Char) : Bool :=
  c ∈ [' ', '\t', '\n', '\r', '\x0b', '\x0c', '\u0085', '\u200e', '\u200f', '\u2028',
    '\u2029']

inductive Skipping where
  | blank
  /-- In a comment that ends with its line. -/
  | line
  /-- In block comments; the number tells how many enclose the innermost. -/
  | block (enclosing : Nat)

/-- Skips blanks and comments from a given state. A lone slash and an open block
comment are malformed. -/
def skipFrom : Skipping → List Char → Option (List Char)
  | .blank, '/' :: '/' :: rest => skipFrom .line rest
  | .blank, '/' :: '*' :: rest => skipFrom (.block 0) rest
  | .blank, '/' :: _ => none
  | .blank, c :: rest => if isBlank c then skipFrom .blank rest else some (c :: rest)
  | .blank, [] => some []
  | .line, c :: rest => if c = '\n' then skipFrom .blank rest else skipFrom .line rest
  | .line, [] => some []
  | .block enclosing, '*' :: '/' :: rest =>
    match enclosing with
    | 0 => skipFrom .blank rest
    | outer + 1 => skipFrom (.block outer) rest
  | .block enclosing, '/' :: '*' :: rest => skipFrom (.block (enclosing + 1)) rest
  | .block enclosing, _ :: rest => skipFrom (.block enclosing) rest
  | .block _, [] => none

def skip (input : List Char) : Option (List Char) :=
  skipFrom .blank input

def isRawNameChar (c : Char) : Bool :=
  Text.continuesIdentifier c || c == '.' || c == '+' || c == '-'

/-- Reads a name: an identifier, or a raw name after `r#`. An identifier that
runs on into characters of raw names is malformed. -/
def name? : Reader String
  | 'r' :: '#' :: rest =>
    let word := rest.takeWhile isRawNameChar
    if word.isEmpty then
      none
    else
      some (String.ofList word, rest.dropWhile isRawNameChar)
  | c :: rest =>
    if Text.startsIdentifier c || c == '_' then
      let after := rest.dropWhile Text.continuesIdentifier
      if (after.takeWhile isRawNameChar).isEmpty then
        some (String.ofList (c :: rest.takeWhile Text.continuesIdentifier), after)
      else none
    else none
  | [] => none

def hexValue? (c : Char) : Option Nat :=
  if '0' ≤ c ∧ c ≤ '9' then some (c.toNat - '0'.toNat)
  else if 'a' ≤ c ∧ c ≤ 'f' then some (c.toNat - 'a'.toNat + 10)
  else if 'A' ≤ c ∧ c ≤ 'F' then some (c.toNat - 'A'.toNat + 10)
  else none

def hexNumber? (digits : List Char) : Option Nat :=
  digits.foldlM (fun value c => (hexValue? c).map (value * 16 + ·)) 0

def charOfCode? (code : Nat) : Option Char :=
  if code.isValidChar then some (Char.ofNat code) else none

/-- Whether a byte continues a character of several bytes. -/
def isContinuation (byte : Nat) : Bool :=
  0x80 ≤ byte && byte < 0xC0

/-- The character that two to four bytes encode, in its shortest encoding. -/
def charOfBytes? : List Nat → Option Char
  | [a, b] =>
    if 0xC2 ≤ a ∧ a < 0xE0 ∧ isContinuation b then
      charOfCode? ((a - 0xC0) * 64 + (b - 0x80))
    else none
  | [a, b, c] =>
    let code := (a - 0xE0) * 4096 + (b - 0x80) * 64 + (c - 0x80)
    if 0xE0 ≤ a ∧ a < 0xF0 ∧ isContinuation b ∧ isContinuation c ∧ 0x800 ≤ code then
      charOfCode? code
    else none
  | [a, b, c, d] =>
    let code := (a - 0xF0) * 262144 + (b - 0x80) * 4096 + (c - 0x80) * 64 + (d - 0x80)
    if 0xF0 ≤ a ∧ a < 0xF5 ∧ isContinuation b ∧ isContinuation c ∧ isContinuation d ∧
        0x10000 ≤ code then
      charOfCode? code
    else none
  | _ => none

def hexByte? : Reader Nat
  | high :: low :: rest => (hexNumber? [high, low]).map fun byte => (byte, rest)
  | _ => none

/-- Reads further byte escapes until the bytes make a character. Four bytes
always settle it. -/
def bytesEscape? : Nat → List Nat → Reader Char
  | 0, _, _ => none
  | fuel + 1, bytes, '\\' :: 'x' :: input => do
    let (byte, rest) ← hexByte? input
    let longer := bytes ++ [byte]
    match charOfBytes? longer with
    | some c => some (c, rest)
    | none => bytesEscape? fuel longer rest
  | _, _, _ => none

/-- Reads an escape by code point, after its opening brace. -/
def codePointEscape? (input : List Char) : Option (Char × List Char) :=
  let digits := input.takeWhile fun c => (hexValue? c).isSome
  match input.drop digits.length with
  | '\x7d' :: rest =>
    if digits.isEmpty || 6 < digits.length then none
    else do
      let code ← hexNumber? digits
      let c ← charOfCode? code
      some (c, rest)
  | _ => none

/-- Which literal an escape stands in. -/
inductive Literal where
  | text
  /-- Between single quotes, where byte escapes are ASCII. -/
  | character
  /-- In bytes, where there are no code points and byte escapes stand for themselves. -/
  | bytes
  deriving DecidableEq

def escape? (literal : Literal) : Reader Char
  | '\x27' :: rest => some ('\x27', rest)
  | '"' :: rest => some ('"', rest)
  | '\\' :: rest => some ('\\', rest)
  | 'n' :: rest => some ('\n', rest)
  | 'r' :: rest => some ('\r', rest)
  | 't' :: rest => some ('\t', rest)
  | '0' :: rest => some ('\x00', rest)
  | 'x' :: input => do
    let (byte, rest) ← hexByte? input
    if byte < 0x80 || literal = .bytes then some (Char.ofNat byte, rest)
    else if literal = .character then none
    else bytesEscape? 3 [byte] rest
  | 'u' :: '\x7b' :: input => if literal = .bytes then none else codePointEscape? input
  | _ => none

/-- Reads the content of a literal between double quotes, and its closing quote.
The fuel is the length of the input. -/
def quotedFrom (literal : Literal) : Nat → Reader (List Char)
  | 0, _ => none
  | fuel + 1, input =>
    match input with
    | [] => none
    | '"' :: rest => some ([], rest)
    | '\\' :: escaped => do
      let (c, rest) ← escape? literal escaped
      let (others, rest) ← quotedFrom literal fuel rest
      some (c :: others, rest)
    | c :: rest => do
      let (others, rest) ← quotedFrom literal fuel rest
      some (c :: others, rest)

def quoted? (literal : Literal) (input : List Char) : Option (List Char × List Char) :=
  quotedFrom literal (input.length + 1) input

/-- Reads raw content up to a quote with as many hashes as opened it. -/
def rawFrom (closing : List Char) : Reader (List Char)
  | [] => none
  | c :: rest =>
    if closing.isPrefixOf (c :: rest) then some ([], (c :: rest).drop closing.length)
    else (rawFrom closing rest).map fun read => (c :: read.1, read.2)

def raw? (input : List Char) : Option (List Char × List Char) :=
  let hashes := input.takeWhile (· == '#')
  match input.drop hashes.length with
  | '"' :: rest => rawFrom ('"' :: hashes) rest
  | _ => none

def single? (literal : Literal) : Reader Char
  | '\\' :: escaped => do
    let (c, rest) ← escape? literal escaped
    match rest with
    | '\x27' :: rest => some (c, rest)
    | _ => none
  | c :: '\x27' :: rest =>
    if literal = .bytes ∧ 0x80 ≤ c.toNat then none else some (c, rest)
  | _ => none

/-! ## Numbers -/

def isNumberChar (c : Char) : Bool :=
  c.isAlphanum || c == '_' || c == '.' || c == '+' || c == '-'

def isIntegerChar (c : Char) : Bool :=
  (hexValue? c).isSome || c == '_'

def isFractionChar (c : Char) : Bool :=
  Number.isDigit c || c == 'e' || c == 'E' || c == '.' || c == '+' || c == '-' ||
    c == '_'

def splitBase : List Char → Nat × List Char
  | '0' :: 'b' :: rest => (2, rest)
  | '0' :: 'o' :: rest => (8, rest)
  | '0' :: 'x' :: rest => (16, rest)
  | digits => (10, digits)

/-- The value of digits in a base. Underscores may follow a digit; other
characters are refused. -/
def digitsIn? (base : Nat) (digits : List Char) : Option Nat :=
  match digits with
  | [] => none
  | first :: _ =>
    if first = '_' then none
    else
      (digits.filter (· != '_')).foldlM (fun value c => do
        let digit ← hexValue? c
        if digit < base then some (value * base + digit) else none) 0

/-- The types of integers that a suffix can name: whether signed, and how many bits. -/
def integerSuffixes : List (List Char × Bool × Nat) :=
  [(['i', '8'], true, 8), (['i', '1', '6'], true, 16), (['i', '3', '2'], true, 32),
    (['i', '6', '4'], true, 64), (['u', '8'], false, 8), (['u', '1', '6'], false, 16),
    (['u', '3', '2'], false, 32), (['u', '6', '4'], false, 64)]

def fits (signed : Bool) (bits : Nat) (value : Int) : Bool :=
  let bound := Int.ofNat (Nat.pow 2 (if signed then bits - 1 else bits))
  (if signed then -bound else 0) ≤ value && value < bound

/-- Reads an integer: sign, digits in a base, and a suffix that names its type,
if any. The suffix is looked for behind the hexadecimal digits at the front. -/
def readInteger? (lexeme : List Char) : Option (Int × Option (Bool × Nat)) := do
  let (negative, body) := Number.splitSign lexeme
  let suffix := body.dropWhile isIntegerChar
  let found := integerSuffixes.find? fun entry => entry.1 = suffix
  let digits := if found.isSome then body.takeWhile isIntegerChar else body
  let (base, digits) := splitBase digits
  let magnitude ← digitsIn? base digits
  some (if negative then -(magnitude : Int) else magnitude, found.map (·.2))

/-- The 32-bit integer that a number writes. A suffix must name its type. -/
def int32? (lexeme : String) : Option Int32 := do
  let (value, suffix) ← readInteger? lexeme.toList
  if suffix = none ∨ suffix = some (true, 32) then Number.int32? value else none

/-- Removes underscores, each of which must follow a digit or an exponent mark. -/
def dropUnderscores (allowed : Bool) : List Char → Option (List Char)
  | [] => some []
  | '_' :: rest => if allowed then dropUnderscores true rest else none
  | c :: rest =>
    let next :=
      if c = '.' then false else allowed || Number.isDigit c || c == 'e' || c == 'E'
    (dropUnderscores next rest).map (c :: ·)

def readFraction? (lexeme : List Char) : Option (Number.Single × List Char) :=
  let (negative, body) := Number.splitSign lexeme
  match body with
  | 'i' :: 'n' :: 'f' :: suffix => some (.infinite negative, suffix)
  | 'N' :: 'a' :: 'N' :: suffix => some (.nan, suffix)
  | _ => do
    let digits ← dropUnderscores false (lexeme.takeWhile isFractionChar)
    let value ← Number.readSingle? (String.ofList digits)
    some (value, lexeme.dropWhile isFractionChar)

def single32? (lexeme : String) : Option Number.Single := do
  let (value, suffix) ← readFraction? lexeme.toList
  if suffix = [] ∨ suffix = ['f', '3', '2'] then some value else none

/-- Whether a number is well formed when nothing is known of its type. -/
def isNumber (lexeme : String) : Bool :=
  let asInteger := match readInteger? lexeme.toList with
    | some (value, some (signed, bits)) => fits signed bits value
    | some (value, none) => fits false 64 value || fits true 64 value
    | none => false
  let asFraction := match readFraction? lexeme.toList with
    | some (_, suffix) => suffix ∈ [[], ['f', '3', '2'], ['f', '6', '4']]
    | none => false
  asInteger || asFraction

end Colloquy.Ron
