import Colloquy.Number.Shortest
import Colloquy.Text.Quoted

/-!
# Writing RON

The laid-out form of documents: records and lists take a line for each part,
indented by four spaces for each level, with a comma at its end; pairs and
optional values stay in one line.
-/

namespace Colloquy.Ron

def indent (level : Nat) : List Char :=
  List.replicate (4 * level) ' '

/-- Parts between two brackets, a line for each. The brackets are on the given level. -/
def layOut
    (opening closing : Char) (level : Nat) (parts : List (List Char)) : List Char :=
  opening :: '\n' ::
    parts.flatMap (fun part => indent (level + 1) ++ part ++ [',', '\n']) ++
    indent level ++ [closing]

def printList (level : Nat) (items : List (List Char)) : List Char :=
  if items.isEmpty then ['[', ']'] else layOut '[' ']' level items

def printRecord (level : Nat) (entries : List (String × List Char)) : List Char :=
  layOut '(' ')' level
    (entries.map fun entry => entry.1.toList ++ ':' :: ' ' :: entry.2)

def printPair (first second : List Char) : List Char :=
  '(' :: first ++ ',' :: ' ' :: second ++ [')']

def printText (text : String) : List Char :=
  (Text.quote true text).toList

def printOptionalText : Option String → List Char
  | none => "None".toList
  | some text => "Some(".toList ++ printText text ++ [')']

def printInteger (value : Int32) : List Char :=
  (Number.showInt value.toInt).toList

def printFloat (value : Number.Single) : List Char :=
  value.decimalText.toList

end Colloquy.Ron
