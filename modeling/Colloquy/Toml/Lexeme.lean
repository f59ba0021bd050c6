import Colloquy.Ron.Lexeme

/-!
# TOML lexemes

Blanks and comments, the four kinds of texts, keys, numbers, dates and times.
Each reader takes the rest of the input and returns what it read with what is
left, or nothing if the input is malformed.
-/

namespace Colloquy.Toml

open Colloquy.Ron (Reader hexValue? hexNumber? charOfCode?)

def dropBlanks (input : List Char) : List Char :=
  input.dropWhile fun c => c == ' ' || c == '\t'

/-- A character that may stand in a line: no control character but the tab. -/
def isLineChar (c : Char) : Bool :=
  c == '\t' || (32 ≤ c.toNat && c.toNat ≠ 127)

def dropComment : List Char → List Char
  | '#' :: rest => rest.dropWhile isLineChar
  | input => input

def lineBreak? : List Char → Option (List Char)
  | '\n' :: rest => some rest
  | '\r' :: '\n' :: rest => some rest
  | _ => none

/-- Reads the end of a line, or of the document, after blanks and a comment. -/
def lineEnd? (input : List Char) : Option (List Char) :=
  match dropComment (dropBlanks input) with
  | [] => some []
  | rest => lineBreak? rest

/-- Drops blanks, comments and line breaks. The fuel is the length of the input. -/
def dropLines : Nat → List Char → List Char
  | 0, input => input
  | fuel + 1, input =>
    let rest := dropComment (dropBlanks input)
    match lineBreak? rest with
    | some rest => dropLines fuel rest
    | none => rest

def codePoint? (count : Nat) (input : List Char) : Option (Char × List Char) :=
  let digits := input.take count
  if digits.length = count then do
    let c ← charOfCode? (← hexNumber? digits)
    some (c, input.drop count)
  else none

def escape? : Reader Char
  | 'b' :: rest => some ('\x08', rest)
  | 't' :: rest => some ('\t', rest)
  | 'n' :: rest => some ('\n', rest)
  | 'f' :: rest => some ('\x0c', rest)
  | 'r' :: rest => some ('\r', rest)
  | '"' :: rest => some ('"', rest)
  | '\\' :: rest => some ('\\', rest)
  | 'u' :: rest => codePoint? 4 rest
  | 'U' :: rest => codePoint? 8 rest
  | _ => none

def prepend (c : Char) (read : Option (List Char × List Char)) :
    Option (List Char × List Char) :=
  read.map fun found => (c :: found.1, found.2)

/-- Reads a text in one line, after its opening quote. Escapes count only
between double quotes. The fuel is the length of the input. -/
def lineText (quote : Char) : Nat → Reader (List Char)
  | 0, _ => none
  | _, [] => none
  | fuel + 1, c :: rest =>
    if c = quote then some ([], rest)
    else if c = '\\' ∧ quote = '"' then do
      let (escaped, rest) ← escape? rest
      prepend escaped (lineText quote fuel rest)
    else if isLineChar c then prepend c (lineText quote fuel rest)
    else none

/-- Drops all blanks and line breaks. The fuel is the length of the input. -/
def dropBlankLines : Nat → List Char → List Char
  | 0, input => input
  | fuel + 1, input =>
    let rest := dropBlanks input
    match lineBreak? rest with
    | some rest => dropBlankLines fuel rest
    | none => rest

/-- Reads a text over several lines, after its opening quotes. Up to two quotes
may stand before the closing ones, and a backslash at the end of a line drops
the blanks that follow. -/
def blockText (quote : Char) : Nat → Reader (List Char)
  | 0, _ => none
  | _, [] => none
  | fuel + 1, c :: rest =>
    if c = quote then
      let run := (c :: rest).takeWhile (· == quote)
      let count := min run.length 5
      if 3 ≤ count then some (List.replicate (count - 3) quote, (c :: rest).drop count)
      else prepend c (blockText quote fuel rest)
    else if c = '\\' ∧ quote = '"' then
      match lineBreak? (dropBlanks rest) with
      | some next => blockText quote fuel (dropBlankLines next.length next)
      | none => do
        let (escaped, rest) ← escape? rest
        prepend escaped (blockText quote fuel rest)
    else if isLineChar c then prepend c (blockText quote fuel rest)
    else
      match lineBreak? (c :: rest) with
      | some next => prepend '\n' (blockText quote fuel next)
      | none => none

def text? (quote : Char) (input : List Char) : Option (String × List Char) :=
  let found :=
    if [quote, quote, quote].isPrefixOf input then
      let body := input.drop 3
      blockText quote (input.length + 1) ((lineBreak? body).getD body)
    else lineText quote (input.length + 1) (input.drop 1)
  found.map fun read => (String.ofList read.1, read.2)

def isBareKeyChar (c : Char) : Bool :=
  c.isAlphanum || c == '_' || c == '-'

def keyPart? (input : List Char) : Option (String × List Char) :=
  match input with
  | '"' :: rest =>
    (lineText '"' (rest.length + 1) rest).map fun read => (String.ofList read.1, read.2)
  | '\x27' :: rest =>
    (lineText '\x27' (rest.length + 1) rest).map fun read =>
      (String.ofList read.1, read.2)
  | _ =>
    let word := input.takeWhile isBareKeyChar
    if word.isEmpty then
      none
    else
      some (String.ofList word, input.dropWhile isBareKeyChar)

/-- Reads the parts of a key, with points between them. The fuel is the length
of the input. -/
def keyFrom : Nat → Reader (List String)
  | 0, _ => none
  | fuel + 1, input => do
    let (part, rest) ← keyPart? (dropBlanks input)
    match dropBlanks rest with
    | '.' :: more =>
      let (parts, rest) ← keyFrom fuel more
      some (part :: parts, rest)
    | rest => some ([part], rest)

/-- How deep values nest, and how many parts a key has, at most. -/
def nestingLimit : Nat := 79

def key? (input : List Char) : Option (List String × List Char) := do
  let (parts, rest) ← keyFrom (input.length + 1) input
  if nestingLimit < parts.length then none else some (parts, rest)

def isDecimal (c : Char) : Bool := Number.isDigit c

/-- Whether characters are digits with single underscores between them. -/
def areDigits (isDigit : Char → Bool) : List Char → Bool
  | [] => false
  | [c] => isDigit c
  | c :: '_' :: rest => isDigit c && areDigits isDigit rest
  | c :: rest => isDigit c && areDigits isDigit rest

/-- Whether characters are a decimal integer without a sign: digits without a
leading zero. -/
def isWhole (digits : List Char) : Bool :=
  areDigits isDecimal digits && (digits.length ≤ 1 || digits.head? ≠ some '0')

def valueIn (base : Nat) (digits : List Char) : Nat :=
  digits.foldl (fun value c => match hexValue? c with
    | some digit => value * base + digit
    | none => value) 0

/-- The integer that characters write, if it fits into 64 bits. -/
def integer? (lexeme : List Char) : Option Int :=
  let written : Option Int := match lexeme with
    | '0' :: 'x' :: digits =>
      if areDigits (fun c => (hexValue? c).isSome) digits then
        some (valueIn 16 digits)
      else
        none
    | '0' :: 'o' :: digits =>
      if areDigits (fun c => '0' ≤ c && c ≤ '7') digits then
        some (valueIn 8 digits)
      else
        none
    | '0' :: 'b' :: digits =>
      if areDigits (fun c => c == '0' || c == '1') digits then
        some (valueIn 2 digits)
      else
        none
    | _ =>
      let (negative, digits) := Number.splitSign lexeme
      if isWhole digits then
        some (if negative then -(valueIn 10 digits : Int) else valueIn 10 digits)
      else none
  written.filter fun value => -0x8000000000000000 ≤ value && value < 0x8000000000000000

/-- Whether a decimal is beyond the range of double precision. -/
def overflows (significand : Nat) (exponent : Int) : Bool :=
  let magnitude := exponent + (Number.digitsOf significand).length
  if significand = 0 ∨ magnitude < 300 then false
  else if 320 < magnitude then true
  else
    let bound := (Nat.pow 2 54 - 1) * Nat.pow 2 970
    if 0 ≤ exponent then bound ≤ significand * Nat.pow 10 exponent.toNat
    else bound * Nat.pow 10 exponent.natAbs ≤ significand

/-- Whether characters write a number with a fraction, an exponent, or both, or
one of the words for infinity and for no number. Positive numbers beyond double
precision are refused. -/
def isFloat (lexeme : List Char) : Bool :=
  let (negative, body) := Number.splitSign lexeme
  if body = ['i', 'n', 'f'] ∨ body = ['n', 'a', 'n'] then true
  else
    let isPlain : Char → Bool := fun c => isDecimal c || c == '_'
    let whole := body.takeWhile isPlain
    let afterWhole := body.dropWhile isPlain
    let (fraction, afterFraction, hasPoint) := match afterWhole with
      | '.' :: rest => (rest.takeWhile isPlain, rest.dropWhile isPlain, true)
      | _ => ([], afterWhole, false)
    let (exponent, hasExponent, ended) := match afterFraction with
      | [] => ([], false, true)
      | mark :: rest => (rest, true, mark == 'e' || mark == 'E')
    let (exponentNegative, exponentDigits) := Number.splitSign exponent
    let shaped := isWhole whole && (hasPoint || hasExponent) && ended &&
      (!hasPoint || areDigits isDecimal fraction) &&
      (!hasExponent || areDigits isDecimal exponentDigits)
    let power : Int := valueIn 10 exponentDigits
    let places : Int := (fraction.filter (· != '_')).length
    shaped && (negative || !overflows (valueIn 10 (whole ++ fraction))
      ((if exponentNegative then -power else power) - places))

/-! ## Dates and times -/

/-- Reads a fixed number of digits whose value lies in a range. -/
def digits? (count low high : Nat) (input : List Char) : Option (Nat × List Char) :=
  let digits := input.take count
  let value := Number.ofDigits digits
  if digits.length = count && digits.all isDecimal && low ≤ value && value ≤ high then
    some (value, input.drop count)
  else none

def char? (c : Char) : List Char → Option (List Char)
  | d :: rest => if d = c then some rest else none
  | [] => none

def daysOf (year month : Nat) : Nat :=
  if month = 2 then
    if year % 4 = 0 ∧ (year % 100 ≠ 0 ∨ year % 400 = 0) then 29 else 28
  else if month ∈ [4, 6, 9, 11] then 30
  else 31

def date? (input : List Char) : Option (List Char) := do
  let (year, rest) ← digits? 4 0 9999 input
  let rest ← char? '-' rest
  let (month, rest) ← digits? 2 1 12 rest
  let rest ← char? '-' rest
  let (_, rest) ← digits? 2 1 (daysOf year month) rest
  some rest

def startsTime (input : List Char) : Bool :=
  match digits? 2 0 23 input with
  | some (_, ':' :: _) => true
  | _ => false

/-- Reads a time of day, to the second or finer. -/
def time? (input : List Char) : Option (List Char) := do
  let (_, rest) ← digits? 2 0 23 input
  let rest ← char? ':' rest
  let (_, rest) ← digits? 2 0 59 rest
  let rest ← char? ':' rest
  let (_, rest) ← digits? 2 0 60 rest
  match rest with
  | '.' :: fraction =>
    if (fraction.takeWhile isDecimal).isEmpty then some rest
    else some (fraction.dropWhile isDecimal)
  | _ => some rest

/-- Drops an offset from universal time, if one is written here. -/
def dropOffset (input : List Char) : Option (List Char) :=
  match input with
  | 'Z' :: rest => some rest
  | 'z' :: rest => some rest
  | sign :: rest =>
    if sign = '+' ∨ sign = '-' then do
      let (_, rest) ← digits? 2 0 23 rest
      let rest ← char? ':' rest
      let (_, rest) ← digits? 2 0 59 rest
      some rest
    else some input
  | [] => some []

def datetime? (input : List Char) : Option (List Char) :=
  if startsTime input then time? input
  else do
    let rest ← date? input
    match rest with
    | mark :: more =>
      if (mark = 'T' ∨ mark = 't' ∨ mark = ' ') ∧ startsTime more then
        dropOffset (← time? more)
      else some rest
    | [] => some []

def startsDate (input : List Char) : Bool :=
  match input with
  | a :: b :: c :: d :: '-' :: _ => [a, b, c, d].all isDecimal
  | _ => false

end Colloquy.Toml
