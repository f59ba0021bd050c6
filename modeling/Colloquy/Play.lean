import Colloquy.Terminal.View

/-!
# Play

A whole run of a console over lines of input: each prompt and what follows it,
until the player leaves or the input ends. A line that is no text is remarked
upon and skipped.
-/

namespace Colloquy

open Colloquy.Console (Reply)

/-- A line of input, unless its bytes are no text. -/
abbrev InputLine := Option String

namespace InputLine

/-- Splits bytes after each line feed, and tells whether a line has one. -/
def split : List UInt8 → List (List UInt8 × Bool)
  | [] => []
  | byte :: rest =>
    if byte = 10 then ([], true) :: split rest
    else
      match split rest with
      | [] => [([byte], false)]
      | (line, ended) :: others => (byte :: line, ended) :: others

/-- The bytes of a line without the carriage return before its line feed. -/
def content (line : List UInt8 × Bool) : List UInt8 :=
  if line.2 && line.1.getLast? == some 13 then line.1.dropLast else line.1

def decode (line : List UInt8 × Bool) : InputLine :=
  String.fromUTF8? ⟨(content line).toArray⟩

def ofBytes (bytes : List UInt8) : List InputLine :=
  (split bytes).map decode

end InputLine

structure Play extends Setting where
  coloured : Bool := false

namespace Play

structure Outcome where
  console : Console
  output : List String

def shown (play : Play) (reply : Reply) : String :=
  Terminal.renderItems play.coloured play.developer reply.console.disk.now reply.items

def asked (play : Play) (console : Console) : String :=
  Terminal.renderPrompt play.coloured console.prompt

def answer (play : Play) (console : Console) : InputLine → Reply
  | some line => console.execute play.toSetting (Command.read line)
  | none => { console, items := [.problem "Failed to read input. Try again."] }

def opened (play : Play) (console : Console) : Option String → Reply
  | some trigger => console.execute play.toSetting (.talk trigger)
  | none => { console }

def runLines (play : Play) (console : Console) : List InputLine → Outcome
  | [] => ⟨console, [play.asked console]⟩
  | line :: rest =>
    let reply := play.answer console line
    let later :=
      if reply.quit then ⟨reply.console, []⟩ else play.runLines reply.console rest
    ⟨later.console, play.asked console :: play.shown reply :: later.output⟩

def run
    (play : Play) (console : Console) (trigger : Option String)
    (lines : List InputLine) :
    Outcome :=
  let reply := play.opened console trigger
  let later := play.runLines reply.console lines
  ⟨later.console, play.shown reply :: later.output⟩

end Play

end Colloquy
