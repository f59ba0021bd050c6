import Colloquy.Text.Blank
import Colloquy.Text.Columns
import Colloquy.Text.Letter

/-!
# Wrapping

Fills lines of a given width with the words of a text. Among all ways to break a
line, the one of the least cost is taken: every line costs, wide gaps cost more
than narrow ones, and an overflow costs most. Of equal ways, the one whose last
break comes earliest is taken.
-/

namespace Colloquy.Text

/-- What a line is made of: characters that stay together, and the spaces after them. -/
structure Piece where
  characters : List Char
  spaces : Nat := 0
  deriving DecidableEq

/-- The columns of a piece without its spaces. -/
def Piece.columns (piece : Piece) : Nat :=
  Text.columns piece.characters

def consFirst (c : Char) : List (List Char) → List (List Char)
  | [] => [[c]]
  | first :: others => (c :: first) :: others

/-- The words of a line, each with the spaces after it. Spaces at the start
follow an empty word. -/
def spacedWords : List Char → List Piece
  | [] => []
  | c :: rest =>
    match spacedWords rest with
    | [] => if c = ' ' then [⟨[], 1⟩] else [⟨[c], 0⟩]
    | first :: others =>
      if c ≠ ' ' then { first with characters := c :: first.characters } :: others
      else if first.characters.isEmpty then
        { first with spaces := first.spaces + 1 } :: others
      else ⟨[], 1⟩ :: first :: others

/-- Splits a word after each hyphen between letters or digits, given the
character before it. -/
def hyphenParts (previous : Char) : List Char → List (List Char)
  | [] => [[]]
  | c :: rest =>
    let parts := hyphenParts c rest
    if c = '-' && isAlphanumeric previous && rest.head?.any isAlphanumeric then
      [c] :: parts
    else consFirst c parts

/-- Cuts characters into parts of at most so many columns, given the columns of
the part so far. -/
def cutParts (limit taken : Nat) (state : EscapeState) : List Char → List (List Char)
  | [] => [[]]
  | c :: rest =>
    let width := state.charColumns c
    if 0 < taken && limit < taken + width then
      [] :: consFirst c (cutParts limit width (state.next c) rest)
    else consFirst c (cutParts limit (taken + width) (state.next c) rest)

/-- The parts of a word that fit a line: the word itself unless it is too wide. -/
def fittingParts (limit : Nat) (characters : List Char) : List (List Char) :=
  if limit < columns characters then
    cutParts limit 0 .outside characters
  else
    [characters]

/-- Parts as pieces, of which the last one has the spaces. -/
def spaceLast (spaces : Nat) : List (List Char) → List Piece
  | [] => []
  | [last] => [⟨last, spaces⟩]
  | first :: others => ⟨first, 0⟩ :: spaceLast spaces others

def piecesOf (limit : Nat) (line : List Char) : List Piece :=
  (spacedWords line).flatMap fun word =>
    spaceLast word.spaces
      ((hyphenParts ' ' word.characters).flatMap (fittingParts limit))

def lineCost (limit width : Nat) (isLast isSingle : Bool) : Nat :=
  let line := 1000
  let overflow := 2500
  let shortLast := 25
  let gap := limit - width
  if limit < width then line + (width - limit) * overflow
  else if !isLast then line + gap * gap
  else if isSingle && 4 * width < limit then line + shortLast
  else line

structure Layout where
  /-- How many pieces each line has, the last line first. -/
  lines : List Nat := []
  /-- How many pieces there are up to the place. -/
  count : Nat := 0
  /-- The columns up to the place, with all spaces. -/
  columns : Nat := 0
  cost : Nat := 0
  deriving DecidableEq

/-- A layout with one more line, given how many pieces there are up to its end,
and the columns up to there without and with the spaces of the last piece. -/
def Layout.extend
    (limit count stop next : Nat) (isLast : Bool) (layout : Layout) : Layout :=
  let held := count - layout.count
  { lines := held :: layout.lines
    count := count
    columns := next
    cost := layout.cost + lineCost limit (stop - layout.columns) isLast (held == 1) }

/-- The cheapest of the extensions, the earliest of equal ones. Layouts are
given from the longest to the empty one. -/
def Layout.cheapest
    (extend : Layout → Layout) (latest : Layout) (earlier : List Layout) : Layout :=
  earlier.foldl (fun best layout =>
    let candidate := extend layout
    if candidate.cost ≤ best.cost then candidate else best) (extend latest)

/-- The cheapest layout of pieces, given those up to each place before them. -/
def arrange (limit : Nat) (latest : Layout) (earlier : List Layout) :
    List Piece → Layout
  | [] => latest
  | piece :: rest =>
    let stop := latest.columns + piece.columns
    let extend :=
      Layout.extend limit (latest.count + 1) stop (stop + piece.spaces) rest.isEmpty
    let best := Layout.cheapest extend latest earlier
    arrange limit best (latest :: earlier) rest

def splitLines : List Nat → List Piece → List (List Piece)
  | [], _ => []
  | held :: others, pieces => pieces.take held :: splitLines others (pieces.drop held)

/-- The characters of a line of pieces, without the spaces at its end. -/
def lineOf : List Piece → List Char
  | [] => []
  | [last] => last.characters
  | first :: others =>
      first.characters ++ List.replicate first.spaces ' ' ++ lineOf others

/-- How a text is filled: the width of the lines, and what stands in front of each. -/
structure Margins where
  width : Nat
  /-- What stands in front of each line. -/
  indent : List Char := []

/-- Breaks a line. With an indent, an empty piece comes first. -/
def breakLine (margins : Margins) (line : List Char) : List (List Char) :=
  let limit := margins.width - columns margins.indent
  let pieces := piecesOf limit line
  let opened := if margins.indent.isEmpty then pieces else ⟨[], 0⟩ :: pieces
  let layout := arrange limit {} [] opened
  (splitLines layout.lines.reverse opened).map fun held => margins.indent ++ lineOf held

/-- Fills the lines of one line of a text. A short line without indent only
loses its last spaces.
-/
def fillLine (margins : Margins) (line : List Char) : List (List Char) :=
  if margins.indent.isEmpty && (String.ofList line).utf8ByteSize < margins.width then
    [dropEndWhile (· == ' ') line]
  else breakLine margins line

def linesOf : List Char → List (List Char)
  | [] => [[]]
  | c :: rest => if c = '\n' then [] :: linesOf rest else consFirst c (linesOf rest)

def fill (margins : Margins) (text : String) : String :=
  String.ofList (['\n'].intercalate ((linesOf text.toList).flatMap (fillLine margins)))

end Colloquy.Text
