import Colloquy.Text.Blank

/-!
# Flag names

A flag name may hold any characters but the four of which comparison operators
are made. Names are trimmed before use.
-/

namespace Colloquy.Flag

def isOperatorChar (c : Char) : Bool :=
  c == '>' || c == '<' || c == '=' || c == '!'

def isName (text : String) : Bool :=
  !text.toList.any isOperatorChar

/-- The trimmed name, if it is one. -/
def name? (text : String) : Option String :=
  let name := Text.trim text
  if isName name then some name else none

end Colloquy.Flag
