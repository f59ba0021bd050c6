import Colloquy.Ron.Lexeme
import Colloquy.Ron.Value

/-!
# Reading RON

Reads a document into a value. Nesting is bounded: each container, and each
element within it, takes one from a budget, and so does an optional value. The
budget is also what the recursion goes down on.
-/

namespace Colloquy.Ron

/-- Reads items up to a closing character: a comma between neighbours, and
possibly one at the end. The fuel is the length of the input. -/
def itemsFrom {α : Type} (item : Reader α) (close : Char) : Nat → Reader (List α)
  | 0, _ => none
  | fuel + 1, input => do
    let input ← skip input
    match input with
    | [] => none
    | c :: rest =>
      if c = close then some ([], rest)
      else
        let (first, after) ← item input
        let after ← skip after
        match after with
        | [] => none
        | d :: more =>
          if d = ',' then
            let (others, rest) ← itemsFrom item close fuel more
            some (first :: others, rest)
          else if d = close then some ([first], more)
          else none

def items {α : Type} (item : Reader α) (close : Char) (input : List Char) :
    Option (List α × List Char) :=
  itemsFrom item close (input.length + 1) input

/-- Reads a colon, with blanks on both sides. -/
def colon? (input : List Char) : Option (List Char) := do
  match ← skip input with
  | ':' :: rest => skip rest
  | _ => none

def field (inner : Reader Value) (input : List Char) :
    Option ((String × Value) × List Char) := do
  let (name, rest) ← name? input
  let rest ← colon? rest
  let (value, rest) ← inner rest
  some ((name, value), rest)

def entry (inner : Reader Value) (input : List Char) :
    Option ((Value × Value) × List Char) := do
  let (key, rest) ← inner input
  let rest ← colon? rest
  let (value, rest) ← inner rest
  some ((key, value), rest)

def startsField (input : List Char) : Bool :=
  match name? input with
  | none => false
  | some (_, rest) => (colon? rest).isSome

/-- How far values may nest from here. -/
structure Nesting where
  container : Bool
  /-- Reads the content of an optional value. -/
  optional : Reader Value
  element : Reader Value

def parenthesized (nesting : Nesting) (name : Option String) (input : List Char) :
    Option (Value × List Char) := do
  let inside ← skip input
  match inside with
  | ')' :: rest => some (if name.isNone then .unit else .tuple name [], rest)
  | _ =>
    if !nesting.container then none
    else if startsField inside then
      let (entries, rest) ← items (field nesting.element) ')' inside
      some (.fields name entries, rest)
    else
      let (elements, rest) ← items nesting.element ')' inside
      some (.tuple name elements, rest)

def optional (nesting : Nesting) (input : List Char) : Option (Value × List Char) := do
  match ← skip input with
  | '(' :: inside =>
    let (value, rest) ← nesting.optional (← skip inside)
    match ← skip rest with
    | ',' :: rest =>
      match ← skip rest with
      | ')' :: rest => some (.present value, rest)
      | _ => none
    | ')' :: rest => some (.present value, rest)
    | _ => none
  | _ => none

def numberWords : List String :=
  ["inf", "inff32", "inff64", "NaN", "NaNf32", "NaNf64"]

/-- Reads what a name begins: a keyword, a bare name, or a name before parentheses. -/
def named (nesting : Nesting) (word : String) (rest : List Char) :
    Option (Value × List Char) :=
  if word = "true" then some (.bool true, rest)
  else if word = "false" then some (.bool false, rest)
  else if word = "None" then some (.absent, rest)
  else if word = "Some" then optional nesting rest
  else if word ∈ numberWords then some (.number word, rest)
  else
    match skip rest with
    | some ('(' :: inside) => parenthesized nesting (some word) inside
    | _ => some (.name word, rest)

def valueWith (nesting : Nesting) : Reader Value
  | '(' :: inside => parenthesized nesting none inside
  | '[' :: inside =>
    if nesting.container then
      (items nesting.element ']' inside).map fun read => (.list read.1, read.2)
    else none
  | '\x7b' :: inside =>
    if nesting.container then
      (items (entry nesting.element) '\x7d' inside).map fun read =>
        (.map read.1, read.2)
    else none
  | '"' :: inside =>
    (quoted? .text inside).map fun read => (.text (String.ofList read.1), read.2)
  | '\x27' :: inside =>
      (single? .character inside).map fun read => (.character read.1, read.2)
  | 'b' :: '\x27' :: inside => (single? .bytes inside).map fun read => (.bytes, read.2)
  | 'b' :: '"' :: inside => (quoted? .bytes inside).map fun read => (.bytes, read.2)
  | 'b' :: 'r' :: '"' :: inside =>
      (raw? ('"' :: inside)).map fun read => (.bytes, read.2)
  | 'b' :: 'r' :: '#' :: inside =>
      (raw? ('#' :: inside)).map fun read => (.bytes, read.2)
  | 'r' :: '"' :: inside =>
    (raw? ('"' :: inside)).map fun read => (.text (String.ofList read.1), read.2)
  | 'r' :: '#' :: '"' :: inside =>
    (raw? ('#' :: '"' :: inside)).map fun read => (.text (String.ofList read.1), read.2)
  | 'r' :: '#' :: '#' :: inside =>
    (raw? ('#' :: '#' :: inside)).map fun read => (.text (String.ofList read.1), read.2)
  | input@(c :: _) =>
    if Number.isDigit c || c == '+' || c == '-' || c == '.' then
      some (.number (String.ofList (input.takeWhile isNumberChar)),
        input.dropWhile isNumberChar)
    else (name? input).bind fun read => named nesting read.1 read.2
  | [] => none

def refuse : Reader Value := fun _ => none

def value : Nat → Reader Value
  | 0 => valueWith ⟨false, refuse, refuse⟩
  | 1 => valueWith ⟨true, value 0, refuse⟩
  | budget + 2 => valueWith ⟨true, value (budget + 1), value budget⟩

def nestingLimit : Nat := 128

/-- What a document may switch on for itself. -/
structure Extensions where
  implicitSome : Bool := false
  explicitNames : Bool := false
  deriving DecidableEq, Inhabited

/-- Reads the name of an extension. Two of the known ones do not touch the
values read here. -/
def extension : Reader (Extensions → Extensions) := fun input => do
  let (name, rest) ← name? input
  if name = "implicit_some" then
    some (fun set => { set with implicitSome := true }, rest)
  else if name = "explicit_struct_names" then
    some (fun set => { set with explicitNames := true }, rest)
  else if name = "unwrap_newtypes" ∨ name = "unwrap_variant_newtypes" then
    some (id, rest)
  else none

def expect (text : List Char) (input : List Char) : Option (List Char) := do
  let input ← skip input
  if text.isPrefixOf input then some (input.drop text.length) else none

/-- Reads the attributes at the head of a document. The fuel is the length of
the input. -/
def attributesFrom : Nat → Extensions → Reader Extensions
  | 0, _, _ => none
  | fuel + 1, set, input => do
    let input ← skip input
    match input with
    | '#' :: rest =>
      let rest ← expect ['!'] rest
      let rest ← expect ['['] rest
      let rest ← expect ['e', 'n', 'a', 'b', 'l', 'e'] rest
      let rest ← expect ['('] rest
      let (changes, rest) ← items extension ')' rest
      let rest ← expect [']'] rest
      if changes.isEmpty then none
      else attributesFrom fuel (changes.foldl (fun set change => change set) set) rest
    | _ => some (set, input)

/-- A value and the extensions that its document switched on. -/
structure Document where
  extensions : Extensions
  value : Value

def readDocument? (text : String) : Option Document := do
  let input := text.toList
  let (extensions, rest) ← attributesFrom (input.length + 1) {} input
  let (value, rest) ← value nestingLimit (← skip rest)
  match ← skip rest with
  | [] => some { extensions, value }
  | _ => none

end Colloquy.Ron
