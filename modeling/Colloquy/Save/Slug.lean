import Colloquy.Text.Blank

/-!
# Slot names

A save slot is named by free text. Its slug is the form used in file names:
lower-case ASCII letters and digits, underscores inside, and one dash for each
run of other characters between them.
-/

namespace Colloquy.Save

def isSlugLetter (c : Char) : Bool :=
  ('a' ≤ c && c ≤ 'z') || ('A' ≤ c && c ≤ 'Z') || ('0' ≤ c && c ≤ '9')

/-- The slug of the remaining characters. `started` tells whether anything was
written before, and `gap` whether the last characters were passed over. -/
def slugFrom (started gap : Bool) : List Char → List Char
  | [] => []
  | c :: rest =>
    if isSlugLetter c then
      if gap && started then '-' :: c.toLower :: slugFrom true false rest
      else c.toLower :: slugFrom true false rest
    else if c = '_' then
      if started then c :: slugFrom true false rest else slugFrom false false rest
    else slugFrom started true rest

/-- The slug of a text; a text without letters and digits has the slug `quicksave`. -/
def slug (text : String) : String :=
  let written := slugFrom false false (Text.trimChars text.toList)
  let trimmed := Text.dropEndWhile (· == '_') (written.dropWhile (· == '_'))
  if trimmed.isEmpty then "quicksave" else String.ofList trimmed

/-- The version of this program, which is part of the name and the content of
its saves. -/
def currentVersion : String := "0.3.0"

/-- What separates slot and version in a file name. -/
def separator : String := "-parley-"

def fileName (slot : String) : String :=
  slug slot ++ separator ++ currentVersion ++ ".ron"

end Colloquy.Save
