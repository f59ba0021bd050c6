/-!
# Blank characters

White space in every script, trimming it off both ends of a text, and splitting
a text into the words between it. Trimming is idempotent, and a trimmed text
neither begins nor ends with a blank.
-/

namespace Colloquy.Text

/-- White space: the Unicode property `White_Space`. -/
def isBlank (c : Char) : Bool :=
  let code := c.toNat
  (9 ≤ code && code ≤ 13) || code == 0x20 || code == 0x85 || code == 0xA0 ||
    code == 0x1680 || (0x2000 ≤ code && code ≤ 0x200A) || code == 0x2028 ||
    code == 0x2029 || code == 0x202F || code == 0x205F || code == 0x3000

/-- Drops the characters of a class from the end of a list. -/
def dropEndWhile (drop : Char → Bool) (characters : List Char) : List Char :=
  (characters.reverse.dropWhile drop).reverse

def trimChars (characters : List Char) : List Char :=
  dropEndWhile isBlank (characters.dropWhile isBlank)

/-- A text without the blanks at its ends. -/
def trim (text : String) : String :=
  String.ofList (trimChars text.toList)

/-- Puts a character in front of the first word, or ends that word at a blank. -/
def wordsFrom : List Char → List (List Char)
  | [] => [[]]
  | c :: rest =>
    if isBlank c then [] :: wordsFrom rest
    else
      match wordsFrom rest with
      | [] => [[c]]
      | word :: others => (c :: word) :: others

/-- The words of a text: its longest pieces without blanks, in order. -/
def words (text : String) : List String :=
  ((wordsFrom text.toList).filter (! ·.isEmpty)).map String.ofList

/-- Joins words with one space between neighbours. -/
def joinWords (parts : List String) : String :=
  String.intercalate " " parts

end Colloquy.Text
