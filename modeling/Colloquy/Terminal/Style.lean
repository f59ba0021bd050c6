import Colloquy.Number.Decimal

/-!
# Styles

How texts look on a terminal: a control sequence in front of the text turns a
style on, one after it turns all styles off.
-/

namespace Colloquy.Terminal

inductive Colour where
  /-- A mixture of red, green and blue. -/
  | mixture (redPart greenPart bluePart : Nat)
  | red
  | brightYellow
  deriving DecidableEq, Repr

def Colour.code : Colour → String
  | .mixture redPart greenPart bluePart =>
    String.intercalate ";"
      ("38" :: "2" :: [redPart, greenPart, bluePart].map Number.showNat)
  | .red => "31"
  | .brightYellow => "93"

inductive Emphasis where
  | bold
  | dimmed
  | italic
  | underlined
  | struck
  deriving DecidableEq, Repr

def Emphasis.code : Emphasis → String
  | .bold => "1"
  | .dimmed => "2"
  | .italic => "3"
  | .underlined => "4"
  | .struck => "9"

structure Style where
  emphases : List Emphasis := []
  colour : Option Colour := none
  deriving DecidableEq

def sequence (codes : List String) : String :=
  "\x1b[" ++ String.intercalate ";" codes ++ "m"

def reset : String := sequence ["0"]

def Style.opening (style : Style) : String :=
  sequence (style.emphases.map Emphasis.code ++ (style.colour.map Colour.code).toList)

/-- A text in a style. Where the text itself turns styles off, the style is
turned on again. -/
def paint (coloured : Bool) (style : Style) (text : String) : String :=
  if coloured then
    let continued := String.intercalate (reset ++ style.opening) (text.splitOn reset)
    style.opening ++ continued ++ reset
  else text

end Colloquy.Terminal
