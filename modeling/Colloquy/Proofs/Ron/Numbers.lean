import Colloquy.Proofs.Number.Reading
import Colloquy.Proofs.Ron.Layout

/-!
# Reading printed numbers

The written form of an integer is one lexeme and reads back as the integer, and
so does that of a fractional number, the words for what is not finite included.
-/

namespace Colloquy.Ron

open Colloquy.Number (Single PointForm digitsOf isDigit ne_of_isDigit)

private theorem isNumberChar_of_isDigit {c : Char} (digit : isDigit c = true) :
    isNumberChar c = true := by
  simp [isNumberChar, Char.isAlphanum, Number.isDigit_iff.1 digit]

/-- A digit or a minus begins a number. -/
structure NumberStart (c : Char) : Prop where
  digitOrMinus : isDigit c = true ∨ c = '-'

private theorem NumberStart.ne
    {c other : Char}
    (start : NumberStart c)
    (notDigit : isDigit other = false)
    (notMinus : other ≠ '-') :
    c ≠ other := by
  rcases start.digitOrMinus with digit | rfl
  · exact ne_of_isDigit digit notDigit
  · exact notMinus.symm

theorem NumberStart.notBlank {c : Char} (start : NumberStart c) :
    isBlank c = false := by
  by_cases blank : isBlank c = true
  · simp only [isBlank, decide_eq_true_eq, List.mem_cons, List.not_mem_nil,
      or_false] at blank
    rcases start.digitOrMinus with digit | rfl
    · rcases blank with rfl | rfl | rfl | rfl | rfl | rfl | rfl | rfl | rfl | rfl | rfl
      all_goals cases digit
    · simp at blank
  · exact Bool.eq_false_iff.2 blank

private theorem valueWith_number
    {c : Char}
    (start : NumberStart c)
    (nesting : Nesting) (tail : List Char) :
    valueWith nesting (c :: tail) =
      some (.number (String.ofList ((c :: tail).takeWhile isNumberChar)),
        (c :: tail).dropWhile isNumberChar) := by
  have notTuple : c ≠ '(' := start.ne (by decide) (by decide)
  have notList : c ≠ '[' := start.ne (by decide) (by decide)
  have notMap : c ≠ '\x7b' := start.ne (by decide) (by decide)
  have notText : c ≠ '"' := start.ne (by decide) (by decide)
  have notCharacter : c ≠ '\x27' := start.ne (by decide) (by decide)
  have notBytes : c ≠ 'b' := start.ne (by decide) (by decide)
  have notRaw : c ≠ 'r' := start.ne (by decide) (by decide)
  have branch : (isDigit c || c == '+' || c == '-' || c == '.') = true := by
    rcases start.digitOrMinus with digit | rfl
    · simp [digit]
    · rfl
  unfold valueWith
  split
  case h_13 same =>
    obtain ⟨rfl, rfl⟩ := List.cons.inj same
    rw [if_pos branch]
  all_goals simp_all

/-- A text of characters of numbers reads back as a number with that written form. -/
theorem reads_number
    {lexeme : List Char} {c : Char}
    (head : lexeme.head? = some c)
    (start : NumberStart c)
    (characters : ∀ c ∈ lexeme, isNumberChar c = true)
    (budget : Nat) :
    Reads (value budget) lexeme (.number (String.ofList lexeme)) where
  starts :=
    ⟨c, head, start.notBlank, start.ne (by decide) (by decide),
      start.ne (by decide) (by decide),
      start.ne (by decide) (by decide)⟩
  read := by
    intro rest follows
    obtain ⟨nesting, isWith⟩ := exists_value_eq budget
    have lexemeRead : (lexeme ++ rest).takeWhile isNumberChar = lexeme ∧
        (lexeme ++ rest).dropWhile isNumberChar = rest := by
      rw [List.takeWhile_append_of_pos characters,
        List.dropWhile_append_of_pos characters]
      cases rest with
      | nil =>
          simp
      | cons next rest =>
          have outside : isNumberChar next = false := by
            rcases follows next rfl with rfl | rfl
            · decide
            · decide
          simp [outside]
    obtain ⟨tail, rfl⟩ : ∃ tail, lexeme = c :: tail := by
      cases lexeme with
      | nil =>
          cases head
      | cons first tail =>
          exact ⟨tail, by rw [Option.some.inj head]⟩
    rw [isWith, List.cons_append, valueWith_number start, ← List.cons_append,
      lexemeRead.1, lexemeRead.2]

private theorem hexValue?_of_isDigit {c : Char} (digit : isDigit c = true) :
    hexValue? c = some (Number.digitValue c) := by
  have range : '0' ≤ c ∧ c ≤ '9' := by
    simpa [isDigit] using digit
  simp [hexValue?, range, Number.digitValue]

private theorem digitsIn?_of_isDigit
    {digits : List Char}
    (someDigit : digits ≠ [])
    (allDigits : ∀ c ∈ digits, isDigit c = true) :
    digitsIn? 10 digits = some (Number.ofDigits digits) := by
  have noneDropped : digits.filter (· != '_') = digits := by
    refine List.filter_eq_self.2 fun c member => ?_
    simpa using ne_of_isDigit (allDigits c member) (by decide : isDigit '_' = false)
  have read : ∀ value,
      digits.foldlM (fun value c => do
        let digit ← hexValue? c
        if digit < 10 then some (value * 10 + digit) else none) value =
          some (digits.foldl (fun value c => value * 10 + Number.digitValue c) value) :=
            by
    clear someDigit noneDropped
    induction digits with
    | nil =>
        intro value
        rfl
    | cons c digits inductionHypothesis =>
        intro value
        have digit : isDigit c = true := allDigits c List.mem_cons_self
        simp only [List.foldlM_cons, hexValue?_of_isDigit digit, Option.bind_eq_bind,
          Option.bind_some, Number.digitValue_lt digit, if_true, List.foldl_cons]
        exact inductionHypothesis
          (fun other member => allDigits other (List.mem_cons_of_mem _ member)) _
  obtain ⟨first, others, rfl⟩ := List.exists_cons_of_ne_nil someDigit
  have notUnderscore : first ≠ '_' :=
    ne_of_isDigit (allDigits first List.mem_cons_self) (by decide)
  simp only [digitsIn?, notUnderscore, if_false]
  rw [noneDropped, read 0]
  rfl

private theorem splitBase_of_isDigit
    {digits : List Char}
    (allDigits : ∀ c ∈ digits, isDigit c = true) :
    splitBase digits = (10, digits) := by
  unfold splitBase
  split
  · have letter := allDigits 'b' (by simp)
    cases letter
  · have letter := allDigits 'o' (by simp)
    cases letter
  · have letter := allDigits 'x' (by simp)
    cases letter
  · rfl

/-- Digits behind an optional minus are an integer without a suffix. -/
theorem readInteger?_of_splitSign
    {lexeme digits : List Char} {negative : Bool}
    (signed : Number.splitSign lexeme = (negative, digits))
    (someDigit : digits ≠ [])
    (allDigits : ∀ c ∈ digits, isDigit c = true) :
    readInteger? lexeme =
      some (if negative then -(Number.ofDigits digits : Int)
        else Number.ofDigits digits, none) := by
  have noSuffix : digits.dropWhile isIntegerChar = [] := by
    refine List.dropWhile_eq_nil_iff.2 fun c member => ?_
    simp [isIntegerChar, hexValue?_of_isDigit (allDigits c member)]
  have noneFound : (integerSuffixes.find? fun entry => entry.1 = []) = none := by
    decide
  simp [readInteger?, signed, noSuffix, noneFound, splitBase_of_isDigit allDigits,
    digitsIn?_of_isDigit someDigit allDigits]

private theorem readInteger?_showInt (value : Int) :
    readInteger? (Number.showInt value).toList = some (value, none) := by
  rw [readInteger?_of_splitSign (Number.splitSign_showInt value)
    (Number.digitsOf_ne_nil _)
    fun c member => Number.isDigit_of_mem_digitsOf member, Number.ofDigits_digitsOf,
    Number.signed_natAbs]

theorem int32?_showInt (value : Int32) :
    int32? (Number.showInt value.toInt) = some value := by
  simp [int32?, readInteger?_showInt, Number.int32?_toInt]

/-- A printed integer reads back as the text of its digits. -/
theorem reads_printInteger (budget : Nat) (value : Int32) :
    Reads (Ron.value budget) (printInteger value)
      (.number (Number.showInt value.toInt)) := by
  obtain ⟨first, others, digits, digit⟩ :=
    Number.exists_digitsOf_eq_cons value.toInt.natAbs
  have eachDigit : ∀ c ∈ first :: others, isNumberChar c = true := fun c member =>
    isNumberChar_of_isDigit (Number.isDigit_of_mem_digitsOf (by rwa [digits]))
  have written : printInteger value =
      (if value.toInt < 0 then ['-'] else []) ++ first :: others := by
    simp [printInteger, Number.showInt, digits]
  have text : Number.showInt value.toInt = String.ofList (printInteger value) := by
    simp [printInteger]
  rw [text]
  by_cases negative : value.toInt < 0
  · rw [written, if_pos negative]
    refine reads_number rfl ⟨.inr rfl⟩ (fun c member => ?_) budget
    rcases List.mem_cons.1 member with rfl | member
    · decide
    · exact eachDigit c member
  · rw [written, if_neg negative]
    exact reads_number rfl ⟨.inl digit⟩ eachDigit budget

/-! ## Fractional numbers -/

private theorem dropUnderscores_eq_self
    {characters : List Char}
    (free : ∀ c ∈ characters, c ≠ '_')
    (allowed : Bool) :
    dropUnderscores allowed characters = some characters := by
  induction characters generalizing allowed with
  | nil =>
      rfl
  | cons c rest inductionHypothesis =>
      have notUnderscore : c ≠ '_' := free c List.mem_cons_self
      simp [dropUnderscores,
        inductionHypothesis fun other member =>
          free other (List.mem_cons_of_mem _ member)]

/-- The characters of a finite number: those of its magnitude behind its sign. -/
theorem exists_pointForm_decimalText (negative : Bool) (rank : Fin Number.finiteRanks) :
    ∃ characters whole fraction, PointForm characters whole fraction ∧
      (Single.finite negative rank).decimalText.toList =
        (if negative then ['-'] else []) ++ characters := by
  obtain ⟨whole, fraction, form, _⟩ := Number.isShown (Number.shortest rank)
  exact ⟨_, whole, fraction, form, by simp [Single.decimalText, Number.showWith]⟩

private theorem classes_of_mem_pointForm
    {characters whole fraction : List Char} {c : Char}
    (form : PointForm characters whole fraction)
    (member : c ∈ characters) :
    isFractionChar c = true ∧ isNumberChar c = true ∧ c ≠ '_' := by
  rcases form.isDigit_or_eq_point member with digit | rfl
  · exact ⟨by simp [isFractionChar, digit], isNumberChar_of_isDigit digit,
      ne_of_isDigit digit (by decide)⟩
  · exact ⟨by decide, by decide, by decide⟩

/-- What is read of a decimal is the number that it writes. -/
theorem readFraction?_of_pointForm
    {lexeme characters whole fraction : List Char} {negative : Bool} {value : Single}
    (form : PointForm characters whole fraction)
    (written : lexeme = (if negative then ['-'] else []) ++ characters)
    (reads : Number.readSingle? (String.ofList lexeme) = some value) :
    readFraction? lexeme = some (value, []) := by
  have eachSign : ∀ c ∈ lexeme, isFractionChar c = true ∧ c ≠ '_' := by
    intro c member
    rw [written] at member
    rcases List.mem_append.1 member with sign | inside
    · cases negative with
      | false =>
          cases sign
      | true =>
          rw [List.mem_singleton.1 sign]
          decide
    · have classes := classes_of_mem_pointForm form inside
      exact ⟨classes.1, classes.2.2⟩
  obtain ⟨first, rest, rfl, digit⟩ := form.first
  have notWord : first ≠ 'i' ∧ first ≠ 'N' :=
    ⟨ne_of_isDigit digit (by decide), ne_of_isDigit digit (by decide)⟩
  have signed : Number.splitSign lexeme = (negative, first :: rest) := by
    cases negative with
    | false =>
        rw [written]
        exact Number.splitSign_of_isDigit digit rest
    | true =>
        rw [written]
        rfl
  have taken : lexeme.takeWhile isFractionChar = lexeme :=
    List.takeWhile_eq_self_iff.2 fun c member => (eachSign c member).1
  have left : lexeme.dropWhile isFractionChar = [] :=
    List.dropWhile_eq_nil_iff.2 fun c member => (eachSign c member).1
  simp [readFraction?, signed, notWord, taken, left, reads,
    dropUnderscores_eq_self fun c member => (eachSign c member).2]

/-- A number is decoded from its shortest decimal text. -/
theorem single32?_decimalText (value : Single) :
    single32? value.decimalText = some value := by
  cases value with
  | nan =>
      decide +kernel
  | infinite negative =>
      cases negative with
      | false =>
          decide +kernel
      | true =>
          decide +kernel
  | finite negative rank =>
      obtain ⟨_, _, _, form, written⟩ := exists_pointForm_decimalText negative rank
      have read := readFraction?_of_pointForm form written
        (by rw [String.ofList_toList]; exact Number.readSingle?_decimalText _)
      simp [single32?, read]

/-- A word for a number reads back as it is. -/
theorem reads_word
    {word : String} {first : Char} {others : List Char}
    (plain : PlainName word first others)
    (letter : first = 'N' ∨ first = 'S' ∨ first = 'i')
    (isWord : ∀ nesting rest, named nesting word rest = some (.number word, rest))
    (budget : Nat) :
    Reads (value budget) word.toList (.number word) where
  starts := ⟨first, plain.starts⟩
  read := by
    intro rest follows
    obtain ⟨nesting, isWith⟩ := exists_value_eq budget
    have read := name?_append plain (endsName_of_follows follows)
    rw [plain.characters, List.cons_append] at read
    rw [isWith, plain.characters, List.cons_append, valueWith_of_name letter, read]
    exact isWord nesting rest

private theorem plainName_nan : PlainName "NaN" 'N' ['a', 'N'] :=
  plainName_of_isPlainName (by decide) (by decide +kernel)

private theorem plainName_inf : PlainName "inf" 'i' ['n', 'f'] :=
  plainName_of_isPlainName (by decide) (by decide +kernel)

/-- A printed number reads back as its shortest decimal text. -/
theorem reads_printFloat (budget : Nat) (value : Single) :
    Reads (Ron.value budget) (printFloat value) (.number value.decimalText) := by
  cases value with
  | nan =>
      exact reads_word plainName_nan (.inl rfl) (fun _ _ => rfl) budget
  | infinite negative =>
      cases negative with
      | false =>
          exact reads_word plainName_inf (.inr (.inr rfl)) (fun _ _ => rfl) budget
      | true =>
          have written : printFloat (.infinite true) = ['-', 'i', 'n', 'f'] := by
            decide
          have text :
              (Single.infinite true).decimalText =
                String.ofList ['-', 'i', 'n', 'f'] := by
            decide
          rw [written, text]
          exact reads_number rfl ⟨.inr rfl⟩ (List.all_eq_true.1 (by decide)) budget
  | finite negative rank =>
      obtain ⟨characters, _, _, form, written⟩ :=
        exists_pointForm_decimalText negative rank
      have text : (Single.finite negative rank).decimalText =
          String.ofList (printFloat (.finite negative rank)) := by
        simp [printFloat]
      have eachNumber : ∀ c ∈ characters, isNumberChar c = true := fun c member =>
        (classes_of_mem_pointForm form member).2.1
      obtain ⟨first, rest, rfl, digit⟩ := form.first
      rw [text, printFloat, written]
      cases negative with
      | false =>
          exact reads_number rfl ⟨.inl digit⟩ eachNumber budget
      | true =>
          refine reads_number rfl ⟨.inr rfl⟩ (fun c member => ?_) budget
          rcases List.mem_cons.1 member with rfl | member
          · decide
          · exact eachNumber c member

end Colloquy.Ron
