import Colloquy.Command
import Colloquy.Save.Slots
import Colloquy.Text.Case

/-!
# Completion

What can stand for the word before the cursor: a command at the start of a line,
a trigger after the words that start a dialogue, a save after the word that
loads one. Case does not count.
-/

namespace Colloquy

open Colloquy.Storage (Disk)

namespace Completion

structure Source where
  triggers : List String
  saveDirectory : String
  developer : Bool

/-- The start of the word before the cursor, in bytes, and what can stand for it. -/
structure Result where
  start : Nat
  /-- What can stand for it, in order. -/
  candidates : List String
  deriving DecidableEq

/-- The word before the cursor, which may be empty. -/
def partialWord (line : String) : List Char :=
  (line.toList.reverse.takeWhile (! Text.isBlank ·)).reverse

/-- The line up to the word before the cursor. -/
def headOf (line : String) : List Char :=
  (line.toList.reverse.dropWhile (! Text.isBlank ·)).reverse

def pool (disk : Disk) (source : Source) (head : List String) : List String :=
  match head with
  | [] => Command.words source.developer
  | ["talk"] => source.triggers
  | ["start"] => source.triggers
  | ["load"] => Save.slotNames disk source.saveDirectory
  | _ => []

/-- Whether a text begins with another, case apart. -/
def beginsWith (candidate start : String) : Bool :=
  (Text.lower start).toList.isPrefixOf (Text.lower candidate).toList

/-- Completes a line that ends at the cursor. -/
def complete (disk : Disk) (source : Source) (line : String) : Result :=
  let head := String.ofList (headOf line)
  let word := String.ofList (partialWord line)
  { start := head.utf8ByteSize
    candidates := (pool disk source (Text.words head)).filter fun candidate =>
      beginsWith candidate word }

/-- Completes a line at a cursor, which stands between two characters. -/
def completeAt
    (disk : Disk) (source : Source) (line : String) (cursor : line.Pos) : Result :=
  complete disk source (line.sliceTo cursor).copy

end Completion

end Colloquy
