import Colloquy.Flag.Assignment

/-!
# Commands

What a player can enter at the prompt. A line is read as words; commands with a
free text take all further words, joined with single spaces.
-/

namespace Colloquy

open Colloquy.Flag (Assignment)

inductive Command where
  | advance
  | close
  | flags
  | help
  | load (slot : String)
  | listSaves
  | quit
  | save (slot : String)
  /-- Take the choice of a number, counted from one. -/
  | select (number : Nat)
  | set (assignment : Assignment)
  | talk (trigger : String)
  | triggers
  | unknown
  | unset (name : String)
  deriving DecidableEq

namespace Command

/-- Whether a command writes flags directly, which only developers may. -/
def isDeveloperOnly : Command → Bool
  | .set _ => true
  | .unset _ => true
  | _ => false

/-- The numbers of choices that can be entered are below this: two to the 64th. -/
def numberBound : Nat := 0x10000000000000000

def ofWord (word : String) : Command :=
  match word with
  | "next" => .advance
  | "n" => .advance
  | "continue" => .advance
  | "triggers" => .triggers
  | "flags" => .flags
  | "saves" => .listSaves
  | "close" => .close
  | "bye" => .close
  | "help" => .help
  | "?" => .help
  | "quit" => .quit
  | "exit" => .quit
  | _ =>
    match Number.readNat? numberBound word with
    | some number => .select number
    | none => .unknown

def ofWords (word : String) (others : List String) : Command :=
  match word with
  | "talk" => .talk (Text.joinWords others)
  | "start" => .talk (Text.joinWords others)
  | "save" => .save (Text.joinWords others)
  | "load" => .load (Text.joinWords others)
  | "set" =>
    match Assignment.read? (Text.joinWords others) with
    | some assignment => .set assignment
    | none => .unknown
  | "unset" =>
    match others with
    | [name] => .unset name
    | _ => .unknown
  | _ => .unknown

/-- The command that a line enters; a blank line advances. -/
def read (line : String) : Command :=
  match Text.words line with
  | [] => .advance
  | [word] => ofWord word
  | word :: others => ofWords word others

def commonWords : List String :=
  ["close", "continue", "exit", "flags", "help", "load", "next", "quit", "save",
    "saves", "start", "talk", "triggers"]

def developerWords : List String := ["set", "unset"]

/-- The words that can be completed. -/
def words (developer : Bool) : List String :=
  commonWords ++ if developer then developerWords else []

end Command

end Colloquy
