import Colloquy.Toml.Lexeme
import Colloquy.Toml.Value

/-!
# Reading TOML

Reads a document line by line into the entries of its top table.
-/

namespace Colloquy.Toml

open Colloquy.Ron (Reader)

def isNumberChar (c : Char) : Bool :=
  c.isAlphanum || c == '_' || c == '.' || c == '+' || c == '-'

def numeric? (input : List Char) : Option (Value × List Char) :=
  if startsTime input || startsDate input then
    (datetime? input).map fun rest => (.datetime, rest)
  else
    let lexeme := input.takeWhile isNumberChar
    let rest := input.dropWhile isNumberChar
    match integer? lexeme with
    | some value => some (.integer value, rest)
    | none => if isFloat lexeme then some (.float, rest) else none

/-- Reads the elements of an array, up to its closing bracket. The fuel is the
length of the input.
-/
def elementsFrom (element : Reader Value) : Nat → Reader (List Value)
  | 0, _ => none
  | fuel + 1, input =>
    match dropLines input.length input with
    | ']' :: rest => some ([], rest)
    | inside => do
      let (first, rest) ← element inside
      match dropLines rest.length rest with
      | ',' :: more =>
        let (others, rest) ← elementsFrom element fuel more
        some (first :: others, rest)
      | ']' :: rest => some ([first], rest)
      | _ => none

def pair? (element : Reader Value) (input : List Char) :
    Option ((List String × Value) × List Char) := do
  let (key, rest) ← key? input
  let rest ← char? '=' rest
  let (value, rest) ← element (dropBlanks rest)
  some ((key, value), rest)

def assign (entries : Entries) (key : List String) (value : Value) :
    Option Entries := do
  let last ← key.getLast?
  insertKey entries last value key.dropLast

/-- Reads the pairs of a table in braces, after at least one is known to follow.
The fuel is the length of the input. -/
def pairsFrom (element : Reader Value) : Nat → Entries → Reader Entries
  | 0, _, _ => none
  | fuel + 1, entries, input => do
    let ((key, value), rest) ← pair? element (dropBlanks input)
    let entries ← assign entries key value
    match dropBlanks rest with
    | ',' :: more => pairsFrom element fuel entries more
    | '\x7d' :: rest => some (entries, rest)
    | _ => none

/-- Reads a value whose parts are read by `element`. -/
def valueWith (element : Reader Value) : Reader Value
  | '"' :: rest => (text? '"' ('"' :: rest)).map fun read => (.text read.1, read.2)
  | '\x27' :: rest =>
      (text? '\x27' ('\x27' :: rest)).map fun read => (.text read.1, read.2)
  | '[' :: inside =>
    (elementsFrom element (inside.length + 1) inside).map fun read =>
      (.array read.1, read.2)
  | '\x7b' :: inside =>
    match dropBlanks inside with
    | '\x7d' :: rest => some (.table .braces [], rest)
    | inside =>
      (pairsFrom element (inside.length + 1) [] inside).map fun read =>
        (.table .braces read.1, read.2)
  | 't' :: 'r' :: 'u' :: 'e' :: rest => some (.boolean true, rest)
  | 'f' :: 'a' :: 'l' :: 's' :: 'e' :: rest => some (.boolean false, rest)
  | input => numeric? input

def value : Nat → Reader Value
  | 0 => fun input =>
    match input with
    | '[' :: _ => none
    | '\x7b' :: _ => none
    | input => valueWith (fun _ => none) input
  | budget + 1 => valueWith (value budget)

structure Draft where
  entries : Entries := []
  /-- The table that the next pairs belong to. -/
  current : List String := []
  deriving Inhabited

/-- Reads a header after its opening bracket, or brackets. -/
def header?
    (closing : List Char) (openAt : Entries → List String → Option Entries)
    (draft : Draft)
    (input : List Char) : Option (Draft × List Char) := do
  let (path, rest) ← key? input
  if closing.isPrefixOf rest then
    some ({ entries := ← openAt draft.entries path, current := path },
      rest.drop closing.length)
  else none

def line? (draft : Draft) : Reader Draft
  | '[' :: '[' :: rest => header? [']', ']'] openElement draft rest
  | '[' :: rest => header? [']'] openTable draft rest
  | input => do
    let ((key, found), rest) ← pair? (value nestingLimit) input
    let entries ← updateAt (fun entries => assign entries key found) draft.entries
      draft.current
    some ({ draft with entries }, rest)

/-- Reads lines up to the end of the document. The fuel is the length of the input. -/
def linesFrom : Nat → Draft → List Char → Option Draft
  | 0, _, _ => none
  | fuel + 1, draft, input =>
    match dropLines input.length input with
    | [] => some draft
    | content => do
      let (draft, rest) ← line? draft content
      linesFrom fuel draft (← lineEnd? rest)

inductive Fault where
  | malformed
  | mismatch
  deriving DecidableEq, Repr

def Fault.message : Fault → String
  | .malformed => "malformed TOML document"
  | .mismatch => "unexpected content in TOML document"

/-- The entries of a document, after an optional mark of the byte order. -/
def readDocument (text : String) : Except Fault Entries :=
  let input := match text.toList with
    | '\ufeff' :: rest => rest
    | characters => characters
  match linesFrom (input.length + 1) {} input with
  | some draft => .ok draft.entries
  | none => .error .malformed

end Colloquy.Toml
