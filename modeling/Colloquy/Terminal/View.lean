import Colloquy.Console
import Colloquy.Number.Shortest
import Colloquy.Save.Age
import Colloquy.Terminal.Style
import Colloquy.Text.Wrap

/-!
# View

How the items of a console look on a terminal, line by line.
-/

namespace Colloquy.Terminal

open Colloquy.Console (Item)
open Colloquy.Flag (Snapshot)

def speakerStyle : Style := ⟨[.bold], some (.mixture 13 130 60)⟩

def portraitStyle : Style := ⟨[], some (.mixture 75 80 75)⟩

def lineStyle : Style := ⟨[.italic], some (.mixture 102 208 250)⟩

def choiceStyle : Style := ⟨[], some (.mixture 220 180 40)⟩

def lockedStyle : Style := ⟨[.dimmed, .struck], none⟩

def endedStyle : Style := ⟨[.italic], some (.mixture 150 150 150)⟩

def promptStyle : Style := ⟨[], some (.mixture 223 77 10)⟩

def flagStyle : Style := ⟨[], some (.mixture 220 40 220)⟩

def noticeStyle : Style := ⟨[.italic], some (.mixture 230 230 30)⟩

def errorStyle : Style := ⟨[], some (.mixture 230 30 30)⟩

def errorSignStyle : Style := ⟨[], some .red⟩

def headStyle : Style := ⟨[.underlined], none⟩

def titleStyle : Style := ⟨[.underlined], some .brightYellow⟩

/-- The sign after a locked choice: a closed lock. -/
def lockSign : String := "🔒"

/-- The sign in front of an error: a warning sign, drawn as a letter. -/
def errorSign : String := "\u26a0\ufe0e"

/-- The sign in front of a remark: a gear. -/
def noticeSign : String := "\u2699"

def indent : String := "    "

def lineMargins : Text.Margins := ⟨76, []⟩

def choiceMargins : Text.Margins := ⟨76, indent.toList⟩

def commandColumns : Nat := 28

/-- A text with spaces after it up to a width. -/
def padded (width : Nat) (text : String) : String :=
  String.ofList (text.toList ++ List.replicate (width - text.length) ' ')

/-- The line that tells who speaks, if anyone is named. -/
def renderSpeaker
    (coloured : Bool) (speaker : String) (portrait : Option String) : List String :=
  let name := paint coloured speakerStyle speaker
  if speaker.isEmpty then []
  else
    match portrait with
    | some picture =>
        [name ++ " " ++ paint coloured portraitStyle ("[" ++ picture ++ "]")]
    | none => [name]

def renderOffer (coloured : Bool) (number : Nat) (offer : Session.Offer) : String :=
  let label := Text.fill choiceMargins (Number.showNat number ++ ". " ++ offer.prompt)
  if offer.unlocked then paint coloured choiceStyle label
  else paint coloured lockedStyle label ++ " " ++ lockSign

def renderOffers (coloured : Bool) (number : Nat) : List Session.Offer → List String
  | [] => []
  | offer :: others =>
    renderOffer coloured number offer :: renderOffers coloured (number + 1) others

def renderEvent (coloured : Bool) : Session.Event → List String
  | .line _ speaker portrait text =>
    "" :: renderSpeaker coloured speaker portrait ++
      [paint coloured lineStyle (Text.fill lineMargins text)]
  | .choices offers => renderOffers coloured 1 offers
  | .ended => ["", paint coloured endedStyle "(the conversation ends)"]

/-- A list under its head, or a remark that it is empty. -/
def renderList
    (coloured : Bool) (head ifEmpty : String) (lines : List String) : List String :=
  paint coloured headStyle head ::
    if lines.isEmpty then [indent ++ ifEmpty] else lines.map (indent ++ ·)

def renderFlags (coloured : Bool) (snapshot : Snapshot) : List String :=
  let name (text : String) := paint coloured flagStyle text
  snapshot.bools.map name ++
    snapshot.ints.map
      (fun entry => name entry.1 ++ " = " ++ Number.showInt entry.2.toInt) ++
    snapshot.floats.map (fun entry => name entry.1 ++ " = " ++ entry.2.text) ++
    snapshot.strings.map (fun entry => name entry.1 ++ " = \"" ++ entry.2 ++ "\"")

def statusText : Save.Status → String
  | .ready => ""
  | .otherVersion version => " (from v" ++ version ++ ")"
  | .corrupted message => " (unreadable: " ++ message ++ ")"

def renderSave (coloured : Bool) (now : Int) (entry : Save.Entry) : String :=
  let trigger := match entry.trigger with
    | some name => ", in '" ++ name ++ "'"
    | none => ""
  paint coloured choiceStyle entry.slot ++ " " ++ Number.showNat entry.flagCount ++
    " flags" ++
    trigger ++ ", " ++ Save.ageText now entry.modified ++
    paint coloured errorStyle (statusText entry.status)

def commandHelp : List (String × String) :=
  [("talk <trigger>", "start the dialogue registered for a trigger"),
    ("<enter> | next", "advance past the current line"),
    ("<n>", "pick the n-th offered choice"),
    ("close", "end the open dialogue"),
    ("triggers", "list trigger names"),
    ("flags", "show every flag"),
    ("save <slot> | load <slot>", "write or restore flags"),
    ("saves", "list saved flag files"),
    ("quit", "leave")]

def developerHelp : List (String × String) :=
  [("set <name>[=value]", "set a bool, int, float or text flag"),
    ("unset <name>", "remove a flag from every namespace")]

def renderCommands
    (coloured : Bool) (head : String) (commands : List (String × String)) :
    List String :=
  paint coloured headStyle head :: commands.map fun entry =>
    indent ++ paint coloured choiceStyle (padded commandColumns entry.1) ++ entry.2

/-- An item, given whether commands for developers are allowed and what time it is. -/
def renderItem (coloured developer : Bool) (now : Int) : Item → List String
  | .event event => renderEvent coloured event
  | .notice message => [noticeSign ++ " " ++ paint coloured noticeStyle message]
  | .problem message =>
    [paint coloured errorSignStyle errorSign ++ " " ++
      paint coloured errorStyle message]
  | .triggers names =>
    renderList coloured "Triggers" "(none)" (names.map (paint coloured choiceStyle))
  | .flags snapshot =>
    renderList coloured "Flags" "(none set)" (renderFlags coloured snapshot)
  | .saves entries =>
    renderList coloured "Saved flag files" "(no saves found)"
      (entries.map (renderSave coloured now))
  | .help =>
    renderCommands coloured "Commands" commandHelp ++
      if developer then
        renderCommands coloured "Developer commands (outside conversations)"
          developerHelp
      else []

/-- Items, with a line break after each line. -/
def renderItems (coloured developer : Bool) (now : Int) (items : List Item) : String :=
  String.join ((items.flatMap (renderItem coloured developer now)).map (· ++ "\n"))

/-- The prompt, after an empty line. -/
def renderPrompt (coloured : Bool) (prompt : String) : String :=
  paint coloured promptStyle ("\n" ++ prompt)

end Colloquy.Terminal
