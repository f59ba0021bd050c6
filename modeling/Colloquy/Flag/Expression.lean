import Colloquy.Flag.Store

/-!
# Flag expressions

The small language of condition leaves: a bare name asks for a presence flag,
and `key op value` compares a flag with a literal. The literal decides which
namespace is asked: integers first, then numbers, and texts only if it is
neither.
-/

namespace Colloquy.Flag

open Colloquy.Number (Single)

inductive Comparison where
  | equal
  | notEqual
  | less
  | greater
  | atMost
  | atLeast
  deriving DecidableEq, Repr

namespace Comparison

def symbol : Comparison → String
  | .equal => "="
  | .notEqual => "!="
  | .less => "<"
  | .greater => ">"
  | .atMost => "<="
  | .atLeast => ">="

def ofSymbol? : List Char → Option Comparison
  | ['='] => some .equal
  | ['!', '='] => some .notEqual
  | ['<'] => some .less
  | ['>'] => some .greater
  | ['<', '='] => some .atMost
  | ['>', '='] => some .atLeast
  | _ => none

/-- Whether an operator holds, given how its operands compare. Operands without
an order are neither equal nor below one another. -/
def holds (same below above : Bool) : Comparison → Bool
  | .equal => same
  | .notEqual => !same
  | .less => below
  | .greater => above
  | .atMost => below || same
  | .atLeast => above || same

def holdsInt (comparison : Comparison) (left right : Int32) : Bool :=
  comparison.holds (left == right) (left < right) (right < left)

def holdsSingle (comparison : Comparison) (left right : Single) : Bool :=
  comparison.holds (left.same right) (left.below right) (right.below left)

/-- Compares texts, of which only equality can be asked. -/
def holdsText (comparison : Comparison) (left right : String) : Bool :=
  match comparison with
  | .equal => left == right
  | .notEqual => left != right
  | _ => false

end Comparison

inductive Expression where
  | presence (name : String)
  /-- Does the flag compare with the literal in this way? -/
  | compare (key : String) (comparison : Comparison) (value : String)
  deriving DecidableEq, Repr

namespace Expression

/-- Reads an expression. A text without operator characters is a name; any other
must be one operator between two pieces without operator characters. -/
def read? (text : String) : Option Expression :=
  let trimmed := Text.trim text
  if isName trimmed then some (.presence trimmed)
  else
    let key := trimmed.toList.takeWhile (! isOperatorChar ·)
    let afterKey := trimmed.toList.dropWhile (! isOperatorChar ·)
    let symbol := afterKey.takeWhile isOperatorChar
    let value := afterKey.dropWhile isOperatorChar
    if key.isEmpty || value.isEmpty || value.any isOperatorChar then none
    else
      (Comparison.ofSymbol? symbol).map fun comparison =>
        .compare (Text.trim (String.ofList key)) comparison
          (Text.trim (String.ofList value))

/-- The written form of an expression, without blanks around the operator. -/
def text : Expression → String
  | .presence name => name
  | .compare key comparison value => key ++ comparison.symbol ++ value

def compareFlag
    (store : Store) (key : String) (comparison : Comparison) (value : String) : Bool :=
  match Number.readInt32? value, store.int? key with
  | some right, some left => comparison.holdsInt left right
  | asInt, _ =>
    match Number.readFinite? value, store.float? key with
    | some right, some left => comparison.holdsSingle left right
    | asFloat, _ =>
      match asInt, asFloat, store.string? key with
      | none, none, some left => comparison.holdsText left value
      | _, _, _ => false

/-- Whether an expression holds in a store. Unknown flags and unfitting literals
make it false. -/
def holds (store : Store) : Expression → Bool
  | .presence name => store.hasBool name
  | .compare key comparison value => compareFlag store key comparison value

end Expression

/-- Whether a written expression holds; a malformed one does not. -/
def Store.hasFlag (store : Store) (text : String) : Bool :=
  match Expression.read? text with
  | some expression => expression.holds store
  | none => false

end Colloquy.Flag
