import Colloquy.Proofs.Ron.Quoted
import Colloquy.Ron.Printer
import Colloquy.Ron.Reader

/-!
# Reading what is laid out

Each printed form reads back as the value that it stands for, whatever comma or
parenthesis follows it: blanks between the lines are skipped, each line is one
item, and the bracket of the last line ends them. The forms are put together
from their parts, down to texts and numbers.
-/

namespace Colloquy.Ron

private theorem skip_of_blank
    {c : Char}
    (blank : isBlank c = true)
    (rest : List Char) :
    skip (c :: rest) = skip rest := by
  have notSlash : c ≠ '/' := by
    rintro rfl
    cases blank
  simp [skip, skipFrom, blank, notSlash]

private theorem skip_of_solid
    {c : Char}
    (solid : isBlank c = false)
    (notSlash : c ≠ '/')
    (rest : List Char) :
    skip (c :: rest) = some (c :: rest) := by
  simp [skip, skipFrom, solid, notSlash]

@[simp]
theorem skip_indent (level : Nat) (rest : List Char) :
    skip (indent level ++ rest) = skip rest := by
  unfold indent
  induction 4 * level with
  | zero =>
      rfl
  | succ count inductionHypothesis =>
      rw [List.replicate_succ, List.cons_append, skip_of_blank rfl, inductionHypothesis]

@[simp]
theorem skip_feed (rest : List Char) : skip ('\n' :: rest) = skip rest :=
  skip_of_blank rfl rest

@[simp]
theorem skip_comma (rest : List Char) : skip (',' :: rest) = some (',' :: rest) :=
  skip_of_solid rfl (by decide) rest

/-- A part that begins with a character that is not skipped and ends no list and
no record. -/
structure StartsWith (part : List Char) (c : Char) : Prop where
  head : part.head? = some c
  notBlank : isBlank c = false
  notSlash : c ≠ '/'
  notClosing : c ≠ ')' ∧ c ≠ ']'

/-- What comes after a printed part, if anything does. -/
def Follows (rest : List Char) : Prop :=
  ∀ c, rest.head? = some c → c = ',' ∨ c = ')'

/-- A printed part reads back as a result, whatever follows it. -/
structure Reads
    {α : Type} (reader : Reader α) (part : List Char) (result : α) : Prop where
  starts : ∃ c, StartsWith part c
  read : ∀ rest, Follows rest → reader (part ++ rest) = some (result, rest)

private theorem follows_comma (rest : List Char) : Follows (',' :: rest) := by
  intro c head
  exact .inl (Option.some.inj head).symm

private theorem follows_parenthesis (rest : List Char) : Follows (')' :: rest) := by
  intro c head
  exact .inr (Option.some.inj head).symm

theorem StartsWith.eq_cons
    {part : List Char} {c : Char}
    (starts : StartsWith part c) :
    ∃ rest, part = c :: rest := by
  cases part with
  | nil =>
      cases starts.head
  | cons first rest =>
      exact ⟨rest, by rw [Option.some.inj starts.head]⟩

/-- No blanks are skipped before a part that starts with a visible character. -/
theorem StartsWith.skip_append
    {part : List Char} {c : Char}
    (starts : StartsWith part c)
    (rest : List Char) :
    skip (part ++ rest) = some (part ++ rest) := by
  obtain ⟨tail, rfl⟩ := starts.eq_cons
  exact skip_of_solid starts.notBlank starts.notSlash _

/-- The lines of parts, up to the closing bracket and what follows it. -/
def linesUpTo
    (level : Nat) (parts : List (List Char)) (close : Char) (rest : List Char) :
    List Char :=
  parts.flatMap (fun part => indent (level + 1) ++ part ++ [',', '\n']) ++
    (indent level ++ close :: rest)

private theorem layOut_append
    (opening close : Char) (level : Nat) (parts : List (List Char)) (rest : List Char) :
    layOut opening close level parts ++ rest =
      opening :: '\n' :: linesUpTo level parts close rest := by
  simp [layOut, linesUpTo]

private theorem linesUpTo_cons
    (level : Nat) (part : List Char) (parts : List (List Char)) (close : Char)
    (rest : List Char) :
    linesUpTo level (part :: parts) close rest =
      indent (level + 1) ++
        (part ++ ',' :: '\n' :: linesUpTo level parts close rest) := by
  simp [linesUpTo]

private theorem length_le_length_linesUpTo
    (level : Nat) (parts : List (List Char)) (close : Char) (rest : List Char) :
    parts.length < (linesUpTo level parts close rest).length := by
  induction parts with
  | nil =>
      simp only [linesUpTo, List.flatMap_nil, List.nil_append, List.length_append,
        List.length_cons, List.length_nil]
      omega
  | cons part parts inductionHypothesis =>
      simp only [linesUpTo_cons, List.length_append, List.length_cons]
      omega

section Items

variable {α β : Type} {reader : Reader β} {print : α → List Char} {result : α → β}
variable {entries : List α} {close : Char}

private theorem skip_close
    (closes : close = ')' ∨ close = ']')
    (rest : List Char) :
    skip (close :: rest) = some (close :: rest) := by
  rcases closes with rfl | rfl
  · exact skip_of_solid rfl (by decide) rest
  · exact skip_of_solid rfl (by decide) rest

private theorem StartsWith.ne_close
    {part : List Char} {c : Char}
    (starts : StartsWith part c)
    (closes : close = ')' ∨ close = ']') :
    c ≠ close := by
  rcases closes with rfl | rfl
  · exact starts.notClosing.1
  · exact starts.notClosing.2

private theorem itemsFrom_of_comma
    (closes : close = ')' ∨ close = ']')
    {part input more : List Char} {c : Char} {read : β}
    (starts : StartsWith part c)
    (toPart : skip input = some (part ++ ',' :: more))
    (reads : reader (part ++ ',' :: more) = some (read, ',' :: more))
    (fuel : Nat) :
    itemsFrom reader close (fuel + 1) input =
      (itemsFrom reader close fuel more).map fun others =>
        (read :: others.1, others.2) := by
  obtain ⟨tail, rfl⟩ := starts.eq_cons
  rw [List.cons_append] at toPart reads
  simp [itemsFrom, toPart, reads, starts.ne_close closes, bind_some_eq_map]

private theorem itemsFrom_of_close
    (closes : close = ')' ∨ close = ']')
    {part input rest : List Char} {c : Char} {read : β}
    (starts : StartsWith part c)
    (toPart : skip input = some (part ++ close :: rest))
    (reads : reader (part ++ close :: rest) = some (read, close :: rest))
    (fuel : Nat) :
    itemsFrom reader close (fuel + 1) input = some ([read], rest) := by
  have notComma : close ≠ ',' := by
    rcases closes with rfl | rfl
    · decide
    · decide
  obtain ⟨tail, rfl⟩ := starts.eq_cons
  rw [List.cons_append] at toPart reads
  simp [itemsFrom, toPart, reads, starts.ne_close closes, skip_close closes, notComma]

/-- Items on lines are read one by one, if there is fuel for each of them and
the bracket. -/
theorem itemsFrom_linesUpTo
    (level : Nat)
    (closes : close = ')' ∨ close = ']')
    (each : ∀ entry ∈ entries, Reads reader (print entry) (result entry))
    (rest input : List Char) (fuel : Nat)
    (same : skip input = skip (linesUpTo level (entries.map print) close rest))
    (enough : entries.length < fuel) :
    itemsFrom reader close fuel input = some (entries.map result, rest) := by
  induction entries generalizing input fuel with
  | nil =>
      obtain ⟨fuel, rfl⟩ := Nat.exists_eq_succ_of_ne_zero (Nat.ne_of_gt enough)
      have toClose : skip input = some (close :: rest) := by
        rw [same]
        simp [linesUpTo, skip_close closes]
      simp [itemsFrom, toClose]
  | cons entry entries inductionHypothesis =>
      obtain ⟨fuel, rfl⟩ :=
        Nat.exists_eq_succ_of_ne_zero (Nat.ne_of_gt (Nat.zero_lt_of_lt enough))
      obtain ⟨⟨c, starts⟩, reads⟩ := each entry List.mem_cons_self
      have others : itemsFrom reader close fuel
          ('\n' :: linesUpTo level (entries.map print) close rest) =
            some (entries.map result, rest) :=
        inductionHypothesis
          (fun other member => each other (List.mem_cons_of_mem _ member)) _ _
          (skip_feed _) (Nat.lt_of_succ_lt_succ enough)
      rw [List.map_cons, linesUpTo_cons, skip_indent, starts.skip_append] at same
      rw [itemsFrom_of_comma closes starts same (reads _ (follows_comma _)), others]
      rfl

end Items

theorem exists_value_eq (budget : Nat) :
    ∃ nesting, value budget = valueWith nesting := by
  match budget with
  | 0 =>
      exact ⟨_, rfl⟩
  | 1 =>
      exact ⟨_, rfl⟩
  | budget + 2 =>
      exact ⟨_, rfl⟩

private theorem valueWith_quote (nesting : Nesting) (inside : List Char) :
    valueWith nesting ('"' :: inside) =
      (quoted? .text inside).map fun read => (.text (String.ofList read.1), read.2) :=
  rfl

private theorem valueWith_parenthesis (nesting : Nesting) (inside : List Char) :
    valueWith nesting ('(' :: inside) = parenthesized nesting none inside :=
  rfl

private theorem valueWith_bracket
    {nesting : Nesting}
    (container : nesting.container = true)
    (inside : List Char) :
    valueWith nesting ('[' :: inside) =
      (items nesting.element ']' inside).map fun read => (.list read.1, read.2) :=
  if_pos container

private theorem printText_eq (text : String) :
    printText text = '"' :: (text.toList.flatMap (Text.quoteChar true) ++ ['"']) := by
  simp [printText, Text.quote]

theorem startsWith_printText (text : String) : StartsWith (printText text) '"' := by
  rw [printText_eq]
  exact ⟨rfl, rfl, by decide, by decide⟩

/-- A printed text reads back. -/
theorem reads_printText (budget : Nat) (text : String) :
    Reads (value budget) (printText text) (.text text) where
  starts := ⟨_, startsWith_printText text⟩
  read := by
    intro rest _
    obtain ⟨nesting, isWith⟩ := exists_value_eq budget
    rw [isWith, printText_eq, List.cons_append, valueWith_quote, List.append_assoc,
      List.singleton_append, quoted?_flatMap_quoteChar, Option.map_some,
        String.ofList_toList]

section Lists

variable {α : Type} {print : α → List Char} {result : α → Value} {entries : List α}
  {budget : Nat}

/-- A printed list reads back if each of its entries does. -/
theorem reads_printList
    (each : ∀ entry ∈ entries, Reads (value budget) (print entry) (result entry))
    (level : Nat) :
    Reads (value (budget + 2)) (printList level (entries.map print))
      (.list (entries.map result)) := by
  cases entries with
  | nil =>
      refine ⟨⟨'[', rfl, rfl, by decide, by decide⟩, ?_⟩
      intro rest _
      have atOnce : skip (']' :: rest) = some (']' :: rest) :=
        skip_close (.inr rfl) rest
      have noItems : items (value budget) ']' (']' :: rest) = some ([], rest) := by
        simp [items, itemsFrom, atOnce]
      have printed : printList level (List.map print []) ++ rest = '[' :: ']' :: rest :=
        rfl
      rw [printed, value, valueWith_bracket rfl, noItems]
      rfl
  | cons entry entries =>
      refine ⟨⟨'[', rfl, rfl, by decide, by decide⟩, ?_⟩
      intro rest _
      have read : items (value budget) ']'
          ('\n' :: linesUpTo level ((entry :: entries).map print) ']' rest) =
            some ((entry :: entries).map result, rest) := by
        refine itemsFrom_linesUpTo level (.inr rfl) each rest _ _ (skip_feed _) ?_
        have longer :=
          length_le_length_linesUpTo level ((entry :: entries).map print) ']' rest
        simp only [List.length_map, List.length_cons] at longer ⊢
        omega
      have printed : printList level ((entry :: entries).map print) =
          layOut '[' ']' level ((entry :: entries).map print) := rfl
      rw [printed, layOut_append, value, valueWith_bracket rfl, read]
      rfl

end Lists

/-! ## Records -/

/-- A name that is written as it is and reads back up to a character that is in
no name. -/
structure PlainName (name : String) (first : Char) (others : List Char) : Prop where
  characters : name.toList = first :: others
  starts : StartsWith name.toList first
  notRaw : first ≠ 'r'
  begins : Text.startsIdentifier first = true
  continues : ∀ c ∈ others, Text.continuesIdentifier c = true

def isPlainName (name : String) : Bool :=
  match name.toList with
  | [] => false
  | first :: others =>
    Text.startsIdentifier first && others.all Text.continuesIdentifier &&
      !isBlank first &&
      first ∉ ['/', ')', ']', 'r']

theorem plainName_of_isPlainName
    {name : String} {first : Char} {others : List Char}
    (characters : name.toList = first :: others)
    (isPlain : isPlainName name = true) :
    PlainName name first others := by
  simp only [isPlainName, characters, Bool.and_eq_true, Bool.not_eq_true',
    List.all_eq_true, decide_eq_true_eq, List.mem_cons, List.not_mem_nil, or_false,
    not_or] at isPlain
  obtain ⟨⟨⟨begins, continues⟩, notBlank⟩, notSlash, notParenthesis, notBracket,
    notRaw⟩ := isPlain
  exact ⟨characters,
    ⟨by rw [characters]; rfl, notBlank, notSlash, notParenthesis, notBracket⟩,
    notRaw, begins, continues⟩

private theorem exists_plainName_of_isPlainName
    {name : String}
    (isPlain : isPlainName name = true) :
    ∃ first others, PlainName name first others := by
  have nonempty : name.toList ≠ [] := by
    intro empty
    simp [isPlainName, empty] at isPlain
  obtain ⟨first, others, characters⟩ := List.exists_cons_of_ne_nil nonempty
  exact ⟨first, others, plainName_of_isPlainName characters isPlain⟩

/-- No character of names comes next. -/
def EndsName (rest : List Char) : Prop :=
  ∀ c, rest.head? = some c → isRawNameChar c = false

theorem endsName_of_follows
    {rest : List Char} (follows : Follows rest) : EndsName rest := by
  intro c head
  rcases follows c head with rfl | rfl
  · decide +kernel
  · decide +kernel

private theorem endsName_cons
    {c : Char}
    (outside : isRawNameChar c = false)
    (rest : List Char) :
    EndsName (c :: rest) := by
  intro first head
  rw [← Option.some.inj head]
  exact outside

private theorem endsName_colon (rest : List Char) : EndsName (':' :: rest) :=
  endsName_cons (by decide +kernel) rest

/-- A plain name reads back where something follows that ends names. -/
theorem name?_append
    {name : String} {first : Char} {others rest : List Char}
    (plain : PlainName name first others)
    (ends : EndsName rest) :
    name? (name.toList ++ rest) = some (name, rest) := by
  have wordRead : (others ++ rest).takeWhile Text.continuesIdentifier = others ∧
      (others ++ rest).dropWhile Text.continuesIdentifier = rest ∧
        rest.takeWhile isRawNameChar = [] := by
    rw [List.takeWhile_append_of_pos plain.continues,
      List.dropWhile_append_of_pos plain.continues]
    cases rest with
    | nil =>
        simp
    | cons c rest =>
        have outside : isRawNameChar c = false := ends c rfl
        have notContinued : Text.continuesIdentifier c = false := by
          simp only [isRawNameChar, Bool.or_eq_false_iff] at outside
          exact outside.1.1.1
        simp [notContinued, outside]
  have whole : String.ofList (first :: others) = name := by
    rw [← plain.characters, String.ofList_toList]
  rw [plain.characters]
  simp [name?, plain.notRaw, plain.begins, wordRead, whole]

section Records

private theorem colon?_part
    {part : List Char} {first : Char}
    (starts : StartsWith part first)
    (rest : List Char) :
    colon? (':' :: ' ' :: (part ++ rest)) = some (part ++ rest) := by
  have atColon :
      skip (':' :: ' ' :: (part ++ rest)) = some (':' :: ' ' :: (part ++ rest)) :=
    skip_of_solid rfl (by decide) _
  have toPart : skip (' ' :: (part ++ rest)) = some (part ++ rest) := by
    rw [skip_of_blank rfl, starts.skip_append]
  simp [colon?, atColon, toPart]

def printField (name : String) (part : List Char) : List Char :=
  name.toList ++ ':' :: ' ' :: part

private theorem startsWith_printField
    {name : String} {first : Char} {others : List Char}
    (plain : PlainName name first others)
    (part : List Char) :
    StartsWith (printField name part) first := by
  obtain ⟨_, notBlank, notSlash, notClosing⟩ := plain.starts
  refine ⟨?_, notBlank, notSlash, notClosing⟩
  simp [printField, plain.characters]

private theorem reads_printField
    {inner : Reader Value} {name : String} {first : Char} {others part : List Char}
    {result : Value}
    (plain : PlainName name first others)
    (reads : Reads inner part result) :
    Reads (field inner) (printField name part) (name, result) where
  starts := ⟨first, startsWith_printField plain part⟩
  read := by
    intro rest follows
    obtain ⟨⟨c, starts⟩, read⟩ := reads
    have text :
        printField name part ++ rest =
          name.toList ++ ':' :: (' ' :: (part ++ rest)) := by
      simp [printField]
    rw [text]
    simp [field, name?_append plain (endsName_colon _),
      colon?_part starts, read rest follows]

private theorem startsField_printField
    {name : String} {first : Char} {others part : List Char} {c : Char}
    (plain : PlainName name first others)
    (starts : StartsWith part c)
    (rest : List Char) :
    startsField (printField name part ++ rest) = true := by
  have text :
      printField name part ++ rest = name.toList ++ ':' :: (' ' :: (part ++ rest)) := by
    simp [printField]
  rw [text]
  simp [startsField, name?_append plain (endsName_colon _),
    colon?_part starts]

private theorem parenthesized_of_skip
    {nesting : Nesting} {input tail : List Char} {c : Char}
    (toInside : skip input = some (c :: tail))
    (notClosing : c ≠ ')')
    (container : nesting.container = true) :
    parenthesized nesting none input =
      if startsField (c :: tail) then
        (items (field nesting.element) ')' (c :: tail)).map fun read =>
          (.fields none read.1, read.2)
      else
        (items nesting.element ')' (c :: tail)).map fun read =>
          (.tuple none read.1, read.2) := by
  simp only [parenthesized, toInside, container, Bool.not_true, Bool.false_eq_true,
    if_false, Option.bind_eq_bind, Option.bind_some]
  split
  · rename_i closes
    exact absurd (List.cons.inj closes).1 notClosing
  · split
    · simp [bind_some_eq_map]
    · simp [bind_some_eq_map]

/-- A record with fields reads back as its fields. Each entry is a name, what is
printed for it, and what that reads back as. -/
theorem reads_printRecord
    (budget : Nat) (entries : List (String × List Char × Value))
    (plain : ∀ entry ∈ entries, isPlainName entry.1 = true)
    (each : ∀ entry ∈ entries, Reads (value budget) entry.2.1 entry.2.2)
    (someEntry : entries ≠ [])
    (level : Nat) :
    Reads (value (budget + 2))
      (printRecord level (entries.map fun entry => (entry.1, entry.2.1)))
      (.fields none (entries.map fun entry => (entry.1, entry.2.2))) := by
  refine ⟨⟨'(', rfl, rfl, by decide, by decide⟩, ?_⟩
  intro rest _
  have eachField : ∀ entry ∈ entries,
      Reads (field (value budget)) (printField entry.1 entry.2.1)
        (entry.1, entry.2.2) := by
    intro entry member
    obtain ⟨first, others, plainHere⟩ :=
      exists_plainName_of_isPlainName (plain entry member)
    exact reads_printField plainHere (each entry member)
  have printed : printRecord level (entries.map fun entry => (entry.1, entry.2.1)) =
      layOut '(' ')' level (entries.map fun entry => printField entry.1 entry.2.1) := by
    simp [printRecord, printField, Function.comp_def]
  obtain ⟨entry, others, rfl⟩ := List.exists_cons_of_ne_nil someEntry
  obtain ⟨first, _, plainHere⟩ :=
    exists_plainName_of_isPlainName (plain entry List.mem_cons_self)
  obtain ⟨⟨c, starts⟩, _⟩ := each entry List.mem_cons_self
  have startsHere : StartsWith (printField entry.1 entry.2.1) first :=
    startsWith_printField plainHere entry.2.1
  let further := ',' :: '\n' ::
    linesUpTo level (others.map fun entry => printField entry.1 entry.2.1) ')' rest
  let inside := printField entry.1 entry.2.1 ++ further
  have toInside : skip ('\n' ::
      linesUpTo level ((entry :: others).map fun entry => printField entry.1 entry.2.1)
        ')' rest) = some inside := by
    rw [skip_feed, List.map_cons, linesUpTo_cons, skip_indent, startsHere.skip_append]
  have readItems : items (field (value budget)) ')' inside =
      some ((entry :: others).map fun entry => (entry.1, entry.2.2), rest) := by
    refine itemsFrom_linesUpTo level (.inl rfl) eachField rest inside _ ?_ ?_
    · exact (startsHere.skip_append further).trans (toInside.symm.trans (skip_feed _))
    · have longer := length_le_length_linesUpTo level
        (others.map fun entry => printField entry.1 entry.2.1) ')' rest
      simp only [inside, further, List.length_append, List.length_map, List.length_cons]
        at longer ⊢
      omega
  have startsInside : startsField inside = true :=
    startsField_printField plainHere starts further
  obtain ⟨tail, isCons⟩ : ∃ tail, inside = first :: tail := by
    obtain ⟨tail, isCons⟩ := startsHere.eq_cons
    exact ⟨tail ++ further, by simp [inside, isCons]⟩
  rw [isCons] at toInside readItems startsInside
  rw [printed, layOut_append, value, valueWith_parenthesis,
    parenthesized_of_skip toInside startsHere.notClosing.1 rfl, startsInside,
      if_pos rfl,
    readItems]
  rfl

end Records

section Pairs

variable {budget : Nat}

private theorem startsField_of_startsWith_quote
    {part : List Char}
    (starts : StartsWith part '"')
    (rest : List Char) :
    startsField (part ++ rest) = false := by
  obtain ⟨tail, rfl⟩ := starts.eq_cons
  have begins : Text.startsIdentifier '"' = false := by
    decide +kernel
  simp [startsField, name?, begins]

/-- A pair whose first half is a text reads back as a tuple of two. -/
theorem reads_printPair
    {first second : List Char} {firstResult secondResult : Value}
    (quoted : StartsWith first '"')
    (readsFirst : Reads (value budget) first firstResult)
    (readsSecond : Reads (value budget) second secondResult) :
    Reads (value (budget + 2)) (printPair first second)
      (.tuple none [firstResult, secondResult]) := by
  refine ⟨⟨'(', rfl, rfl, by decide, by decide⟩, ?_⟩
  intro rest _
  obtain ⟨⟨c, startsSecond⟩, readSecond⟩ := readsSecond
  let afterFirst := ',' :: ' ' :: (second ++ ')' :: rest)
  have printed : printPair first second ++ rest = '(' :: (first ++ afterFirst) := by
    simp [printPair, afterFirst]
  have toFirst : skip (first ++ afterFirst) = some (first ++ afterFirst) :=
    quoted.skip_append afterFirst
  have toSecond :
      skip (' ' :: (second ++ ')' :: rest)) = some (second ++ ')' :: rest) := by
    rw [skip_of_blank rfl, startsSecond.skip_append]
  have atClose : skip (')' :: rest) = some (')' :: rest) := skip_close (.inl rfl) rest
  have firstRead := readsFirst.read afterFirst (follows_comma _)
  have secondRead := readSecond (')' :: rest) (follows_parenthesis rest)
  have notField : startsField (first ++ afterFirst) = false :=
    startsField_of_startsWith_quote quoted afterFirst
  have readItems : items (value budget) ')' (first ++ afterFirst) =
      some ([firstResult, secondResult], rest) := by
    obtain ⟨fuel, enough⟩ : ∃ fuel, (first ++ afterFirst).length + 1 = fuel + 2 :=
      ⟨(first ++ afterFirst).length - 1, by simp [afterFirst]; omega⟩
    rw [items, enough, itemsFrom_of_comma (.inl rfl) quoted toFirst firstRead,
      itemsFrom_of_close (.inl rfl) startsSecond toSecond secondRead]
    rfl
  obtain ⟨tail, isCons⟩ : ∃ tail, first ++ afterFirst = '"' :: tail := by
    obtain ⟨tail, isCons⟩ := quoted.eq_cons
    exact ⟨tail ++ afterFirst, by simp [isCons]⟩
  rw [isCons] at toFirst readItems notField
  rw [printed, isCons, value, valueWith_parenthesis,
    parenthesized_of_skip toFirst (by decide) rfl, notField, readItems]
  rfl

private theorem exists_value_succ_eq (budget : Nat) :
    ∃ nesting, value (budget + 1) = valueWith nesting ∧
      nesting.optional = value budget := by
  match budget with
  | 0 =>
      exact ⟨_, rfl, rfl⟩
  | budget + 1 =>
      exact ⟨_, rfl, rfl⟩

/-- The letters with which the printed words begin begin names. -/
theorem valueWith_of_name
    {c : Char}
    (letter : c = 'N' ∨ c = 'S' ∨ c = 'i')
    (nesting : Nesting) (tail : List Char) :
    valueWith nesting (c :: tail) =
      (name? (c :: tail)).bind fun read => named nesting read.1 read.2 := by
  rcases letter with rfl | rfl | rfl
  · rfl
  · rfl
  · rfl

private theorem plainName_none : PlainName "None" 'N' ['o', 'n', 'e'] :=
  plainName_of_isPlainName (by decide) (by decide +kernel)

private theorem plainName_some : PlainName "Some" 'S' ['o', 'm', 'e'] :=
  plainName_of_isPlainName (by decide) (by decide +kernel)

private theorem printOptionalText_none :
    printOptionalText none = ['N', 'o', 'n', 'e'] := by
  decide

private theorem printOptionalText_some (text : String) :
    printOptionalText (some text) =
      'S' :: 'o' :: 'm' :: 'e' :: '(' :: (printText text ++ [')']) := by
  have opening : "Some(".toList = ['S', 'o', 'm', 'e', '('] := by
    decide
  change "Some(".toList ++ printText text ++ [')'] = _
  rw [opening]
  rfl

def optionalText : Option String → Value
  | none => .absent
  | some text => .present (.text text)

/-- A printed optional text reads back. -/
theorem reads_printOptionalText (budget : Nat) (text : Option String) :
    Reads (value (budget + 1)) (printOptionalText text) (optionalText text) := by
  obtain ⟨nesting, isWith, isOptional⟩ := exists_value_succ_eq budget
  cases text with
  | none =>
      refine ⟨⟨'N', by rw [printOptionalText_none]; rfl, by decide, by decide,
        by decide⟩, ?_⟩
      intro rest follows
      have printed :
          printOptionalText none ++ rest = 'N' :: 'o' :: 'n' :: 'e' :: rest := by
        rw [printOptionalText_none]
        rfl
      have word : name? ('N' :: 'o' :: 'n' :: 'e' :: rest) = some ("None", rest) := by
        simpa using name?_append plainName_none (endsName_of_follows follows)
      rw [isWith, printed, valueWith_of_name (.inl rfl), word]
      simp [named, optionalText]
  | some content =>
      refine ⟨⟨'S', ?_⟩, ?_⟩
      · exact ⟨by rw [printOptionalText_some]; rfl, by decide, by decide, by decide⟩
      · intro rest _
        let inside := printText content ++ ')' :: rest
        have printed : printOptionalText (some content) ++ rest =
            'S' :: 'o' :: 'm' :: 'e' :: '(' :: inside := by
          simp [printOptionalText_some, inside]
        have word : name? ('S' :: 'o' :: 'm' :: 'e' :: '(' :: inside) =
            some ("Some", '(' :: inside) := by
          have ends : EndsName ('(' :: inside) :=
            endsName_cons (by decide +kernel) inside
          simpa using name?_append plainName_some ends
        have atOpen : skip ('(' :: inside) = some ('(' :: inside) :=
          skip_of_solid rfl (by decide) inside
        have toText : skip inside = some inside :=
          (startsWith_printText content).skip_append (')' :: rest)
        have readText :
            nesting.optional inside = some (.text content, ')' :: rest) := by
          rw [isOptional]
          exact (reads_printText budget content).read (')' :: rest)
            (follows_parenthesis rest)
        have atClose : skip (')' :: rest) = some (')' :: rest) :=
          skip_close (.inl rfl) rest
        rw [isWith, printed, valueWith_of_name (.inr (.inl rfl)), word]
        simp [named, optional, atOpen, toText, readText, atClose, optionalText]

end Pairs

end Colloquy.Ron
