import Colloquy.Ron.Reader

/-!
# Typed reading of RON values

Turns values into data: texts, numbers, lists, pairs, optional values and
records. A record takes each field at most once and passes over fields it does
not know, whose numbers must still be well formed.
-/

namespace Colloquy.Ron

mutual

/-- Whether every number in a value is well formed. -/
def Value.isReadable : Value → Bool
  | .number lexeme => isNumber lexeme
  | .present value => value.isReadable
  | .tuple _ items => areReadable items
  | .list items => areReadable items
  | .fields _ entries => fieldsAreReadable entries
  | .map entries => entriesAreReadable entries
  | _ => true

def areReadable : List Value → Bool
  | [] => true
  | head :: tail => head.isReadable && areReadable tail

def fieldsAreReadable : List (String × Value) → Bool
  | [] => true
  | (_, value) :: tail => value.isReadable && fieldsAreReadable tail

def entriesAreReadable : List (Value × Value) → Bool
  | [] => true
  | (key, value) :: tail =>
      key.isReadable && value.isReadable && entriesAreReadable tail

end

mutual

/-- The nesting budget that a value takes. -/
def Value.nesting : Value → Nat
  | .present value => value.nesting + 1
  | .tuple _ [] => 0
  | .tuple _ (head :: tail) => max (head.nesting + 2) (nestingOfItems tail)
  | .list items => max 1 (nestingOfItems items)
  | .fields _ entries => max 1 (nestingOfFields entries)
  | .map entries => max 1 (nestingOfEntries entries)
  | _ => 0

def nestingOfItems : List Value → Nat
  | [] => 0
  | head :: tail => max (head.nesting + 2) (nestingOfItems tail)

def nestingOfFields : List (String × Value) → Nat
  | [] => 0
  | (_, value) :: tail => max (value.nesting + 2) (nestingOfFields tail)

def nestingOfEntries : List (Value × Value) → Nat
  | [] => 0
  | (key, value) :: tail =>
    max (max key.nesting value.nesting + 2) (nestingOfEntries tail)

end

abbrev Decoder (α : Type) := Value → Option α

def text? : Decoder String
  | .text value => some value
  | _ => none

def integer? : Decoder Int32
  | .number lexeme => int32? lexeme
  | _ => none

def float? : Decoder Number.Single
  | .number lexeme => single32? lexeme
  | _ => none

def list? {α : Type} (item : Decoder α) : Decoder (List α)
  | .list items => items.mapM item
  | _ => none

def pair? {α β : Type} (first : Decoder α) (second : Decoder β) : Decoder (α × β)
  | .tuple none [left, right] => do some (← first left, ← second right)
  | _ => none

/-- An optional value. Where the document says so, one that is there need not be
wrapped; it then counts as wrapped for the budget, of which `budget` is left. -/
def option? {α : Type} (extensions : Extensions) (budget : Nat) (item : Decoder α) :
    Decoder (Option α)
  | .absent => some none
  | .present value => (item value).map some
  | value =>
    if extensions.implicitSome && value.nesting < budget then
      (item value).map some
    else
      none

/-- The fields of a record, of which those not in `known` are passed over. -/
def record? (extensions : Extensions) (title : String) (known : List String) :
    Decoder (List (String × Value)) := fun value => do
  let (name, entries) ← match value with
    | .fields name entries => some (name, entries)
    | .unit => some (none, [])
    | .tuple (some name) [] => some (some name, [])
    | _ => none
  let named := match name with
    | some word => word == title
    | none => !extensions.explicitNames
  let (kept, others) := entries.partition fun entry => known.contains entry.1
  let distinct :=
    known.all fun key => (kept.filter fun entry => entry.1 == key).length ≤ 1
  if named && distinct && fieldsAreReadable others then some kept else none

def required?
    {α : Type} (entries : List (String × Value)) (key : String) (decode : Decoder α) :
    Option α :=
  (entries.lookup key).bind decode

def defaulted? {α : Type} (entries : List (String × Value)) (key : String) (default : α)
    (decode : Decoder α) : Option α :=
  match entries.lookup key with
  | none => some default
  | some value => decode value

inductive Fault where
  | malformed
  | mismatch
  deriving DecidableEq, Repr

def Fault.message : Fault → String
  | .malformed => "malformed RON document"
  | .mismatch => "unexpected content in RON document"

def decode
    {α : Type} (decoder : Extensions → Decoder α) (text : String) : Except Fault α :=
  match readDocument? text with
  | none => .error .malformed
  | some document =>
    match decoder document.extensions document.value with
    | none => .error .mismatch
    | some data => .ok data

end Colloquy.Ron
