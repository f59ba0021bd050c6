import Colloquy.Flag.Expression
import Colloquy.Proofs.Flag.Naming
import Colloquy.Proofs.Flag.Reachable

/-!
# The language of expressions

A trimmed text is read as a name if it has no operator characters, and as a
comparison if it is one operator between two pieces without such characters.
There is at most one way to split a text like that. The written form of an
expression that has been read is read as the same expression.
-/

namespace Colloquy.Flag

open Text

def operators : List String :=
  ["<=", ">=", "!=", "=", "<", ">"]

namespace Comparison

private theorem mem_operators_iff {text : String} :
    text ∈ operators ↔ ∃ comparison : Comparison, text = comparison.symbol := by
  constructor
  · intro member
    simp only [operators, List.mem_cons, List.not_mem_nil, or_false] at member
    rcases member with rfl | rfl | rfl | rfl | rfl | rfl
    · exact ⟨.atMost, rfl⟩
    · exact ⟨.atLeast, rfl⟩
    · exact ⟨.notEqual, rfl⟩
    · exact ⟨.equal, rfl⟩
    · exact ⟨.less, rfl⟩
    · exact ⟨.greater, rfl⟩
  · rintro ⟨comparison, rfl⟩
    cases comparison with
    | _ =>
        decide

private theorem ofSymbol?_eq_some_iff
    {characters : List Char} {comparison : Comparison} :
    ofSymbol? characters = some comparison ↔ characters = comparison.symbol.toList := by
  constructor
  · intro found
    unfold ofSymbol? at found
    split at found
    case h_7 =>
      cases found
    all_goals
      cases found
      rfl
  · rintro rfl
    cases comparison with
    | _ =>
        rfl

private theorem symbol_ne_empty (comparison : Comparison) :
    comparison.symbol.toList ≠ [] := by
  cases comparison with
  | _ =>
      decide

private theorem isOperatorChar_of_mem_symbol (comparison : Comparison) :
    ∀ c ∈ comparison.symbol.toList, isOperatorChar c = true := by
  refine List.all_eq_true.1 ?_
  cases comparison with
  | _ =>
      decide

private theorem isName_symbol (comparison : Comparison) :
    isName comparison.symbol = false := by
  cases comparison with
  | _ =>
      decide

end Comparison

/-- The characters before the first operator character of a text, the operator
characters there, and what stands behind them. -/
def piecesOf (characters : List Char) : List Char × List Char × List Char :=
  let behind := characters.dropWhile (! isOperatorChar ·)
  (characters.takeWhile (! isOperatorChar ·), behind.takeWhile isOperatorChar,
    behind.dropWhile isOperatorChar)

private theorem of_piecesOf_eq
    {characters before operator after : List Char}
    (pieces : piecesOf characters = (before, operator, after)) :
    characters = before ++ operator ++ after ∧
      ∀ c ∈ before, isOperatorChar c = false := by
  simp only [piecesOf, Prod.mk.injEq] at pieces
  obtain ⟨rfl, rfl, rfl⟩ := pieces
  constructor
  · rw [List.append_assoc, List.takeWhile_append_dropWhile,
      List.takeWhile_append_dropWhile]
  · intro c member
    simpa using List.mem_takeWhile_imp member

/-- A text is one of the operators between two pieces that are not empty and
have no operator characters. -/
structure Splits (text before operator after : String) : Prop where
  whole : text = before ++ operator ++ after
  known : operator ∈ operators
  someBefore : before ≠ ""
  someAfter : after ≠ ""
  freeBefore : isName before = true
  freeAfter : isName after = true

namespace Splits

variable {text before operator after : String}

/-- The pieces are found by looking for the first operator character and the
first other one behind it. -/
theorem piecesOf_eq (splits : Splits text before operator after) :
    piecesOf text.toList = (before.toList, operator.toList, after.toList) := by
  obtain ⟨comparison, rfl⟩ := Comparison.mem_operators_iff.1 splits.known
  have allOperator := comparison.isOperatorChar_of_mem_symbol
  obtain ⟨first, rest, symbol⟩ := List.exists_cons_of_ne_nil comparison.symbol_ne_empty
  obtain ⟨head, tail, behind⟩ :=
    List.exists_cons_of_ne_nil (show after.toList ≠ [] by simpa using splits.someAfter)
  have isOperator : isOperatorChar first = true :=
    allOperator first (by rw [symbol]; exact List.mem_cons_self)
  have headFree : ¬ isOperatorChar head = true := by
    simp [isName_iff_forall.1 splits.freeAfter head
      (by rw [behind]; exact List.mem_cons_self)]
  have scanned :=
    scan_append_operatorChar (isName_iff_forall.1 splits.freeBefore) isOperator
    (rest ++ after.toList)
  rw [← List.cons_append, ← symbol] at scanned
  rw [splits.whole, String.toList_append, String.toList_append, List.append_assoc,
    piecesOf, scanned.1, scanned.2, List.takeWhile_append_of_pos allOperator,
    List.dropWhile_append_of_pos allOperator, behind,
    List.takeWhile_cons_of_neg headFree, List.dropWhile_cons_of_neg headFree,
    List.append_nil]

/-- A text is split in one way only. -/
theorem unique
    {otherBefore otherOperator otherAfter : String}
    (splits : Splits text before operator after)
    (other : Splits text otherBefore otherOperator otherAfter) :
    otherBefore = before ∧ otherOperator = operator ∧ otherAfter = after := by
  have same := other.piecesOf_eq
  rw [splits.piecesOf_eq] at same
  simp only [Prod.mk.injEq, String.toList_inj] at same
  exact ⟨same.1.symm, same.2.1.symm, same.2.2.symm⟩

private theorem not_isName
    (splits : Splits text before operator after) : isName text = false := by
  obtain ⟨comparison, rfl⟩ := Comparison.mem_operators_iff.1 splits.known
  simp [splits.whole, isName_append, comparison.isName_symbol]

end Splits

/-- A side of a comparison as it is kept: trimmed, not empty and without
operator characters. -/
structure IsOperand (text : String) : Prop extends IsKey text where
  nonempty : text ≠ ""

private theorem isOperand_trim
    {text : String}
    (free : isName text = true)
    (shows : trim text ≠ "") :
    IsOperand (trim text) :=
  ⟨⟨trim_trim text, by rwa [isName_trim]⟩, shows⟩

theorem IsOperand.shows {text : String} (operand : IsOperand text) :
    trim text ≠ "" := by
  rw [operand.trimmed]
  exact operand.nonempty

namespace Splits

variable {text before operator after : String}

/-- The piece before the operator shows, for a trimmed text does not begin with
a blank. -/
theorem isOperand_before (splits : Splits (trim text) before operator after) :
    IsOperand (trim before) := by
  refine isOperand_trim splits.freeBefore fun nothing => ?_
  have characters :
      trimChars text.toList = before.toList ++ (operator.toList ++ after.toList) := by
    simp [← toList_trim, splits.whole]
  have noneBefore :=
    eq_nil_of_trimChars_eq_blanks_append characters (trim_eq_empty_iff.1 nothing)
  exact splits.someBefore (by simpa using noneBefore)

private theorem isOperand_after (splits : Splits (trim text) before operator after) :
    IsOperand (trim after) := by
  refine isOperand_trim splits.freeAfter fun nothing => ?_
  have characters :
      trimChars text.toList = (before.toList ++ operator.toList) ++ after.toList := by
    simp [← toList_trim, splits.whole]
  have noneAfter :=
    eq_nil_of_trimChars_eq_append characters (trim_eq_empty_iff.1 nothing)
  exact splits.someAfter (by simpa using noneAfter)

end Splits

/-! ## What is read -/

namespace Expression

theorem read?_eq (text : String) :
    read? text =
      if isName (trim text) then some (.presence (trim text))
      else
        let (before, operator, after) := piecesOf (trim text).toList
        if before.isEmpty || after.isEmpty || after.any isOperatorChar then none
        else
          (Comparison.ofSymbol? operator).map fun comparison =>
            .compare (trim (String.ofList before)) comparison
              (trim (String.ofList after)) :=
  rfl

private theorem read?_presence_iff {text name : String} :
    read? text = some (.presence name) ↔
      name = trim text ∧ isName (trim text) = true := by
  rw [read?_eq]
  by_cases free : isName (trim text) = true
  · simp [free, eq_comm]
  · rw [if_neg free]
    refine iff_of_false ?_ fun reads => free reads.2
    dsimp only
    split
    · simp
    · simp [Option.map_eq_some_iff]

/-- A text that splits at an operator is read as the comparison of its trimmed
pieces. -/
theorem read?_of_splits
    {text before after : String} {comparison : Comparison}
    (splits : Splits (trim text) before comparison.symbol after) :
    read? text = some (.compare (trim before) comparison (trim after)) := by
  have known : Comparison.ofSymbol? comparison.symbol.toList = some comparison :=
    Comparison.ofSymbol?_eq_some_iff.2 rfl
  have noneAfter : after.toList.any isOperatorChar = false := by
    simpa [isName] using splits.freeAfter
  rw [read?_eq, splits.not_isName, splits.piecesOf_eq]
  simp [splits.someBefore, splits.someAfter, noneAfter, known]

private theorem splits_of_read?
    {text key value : String} {comparison : Comparison}
    (isRead : read? text = some (.compare key comparison value)) :
    ∃ before after, Splits (trim text) before comparison.symbol after ∧
      key = trim before ∧ value = trim after := by
  rcases pieces : piecesOf (trim text).toList with ⟨before, operator, after⟩
  rw [read?_eq, pieces] at isRead
  split at isRead
  · cases isRead
  · dsimp only at isRead
    split at isRead
    · cases isRead
    · rename_i accepted
      obtain ⟨found, isFound, equal⟩ := Option.map_eq_some_iff.1 isRead
      cases equal
      obtain ⟨whole, freeBefore⟩ := of_piecesOf_eq pieces
      simp only [Bool.or_eq_true, not_or, List.isEmpty_iff, Bool.not_eq_true,
        List.any_eq_false] at accepted
      obtain ⟨⟨someBefore, someAfter⟩, freeAfter⟩ := accepted
      refine ⟨String.ofList before, String.ofList after, ?_, rfl, rfl⟩
      exact {
        whole := by
          rw [← String.toList_inj, whole, Comparison.ofSymbol?_eq_some_iff.1 isFound]
          simp
        known := Comparison.mem_operators_iff.2 ⟨comparison, rfl⟩
        someBefore := by simpa using someBefore
        someAfter := by simpa using someAfter
        freeBefore := isName_iff_forall.2 (by simpa using freeBefore)
        freeAfter := isName_iff_forall.2 (by simpa using freeAfter) }

private theorem read?_compare_iff
    {text key value : String} {comparison : Comparison} :
    read? text = some (.compare key comparison value) ↔
      ∃ before after, Splits (trim text) before comparison.symbol after ∧
        key = trim before ∧ value = trim after := by
  constructor
  · exact splits_of_read?
  · rintro ⟨before, after, splits, rfl, rfl⟩
    exact read?_of_splits splits

private theorem read?_eq_none_iff {text : String} :
    read? text = none ↔ isName (trim text) = false ∧
      ∀ before operator after, ¬ Splits (trim text) before operator after := by
  constructor
  · intro nothing
    constructor
    · rw [← Bool.not_eq_true]
      intro free
      rw [read?_presence_iff.2 ⟨rfl, free⟩] at nothing
      cases nothing
    · intro before operator after splits
      obtain ⟨comparison, rfl⟩ := Comparison.mem_operators_iff.1 splits.known
      rw [read?_of_splits splits] at nothing
      cases nothing
  · rintro ⟨notName, noSplit⟩
    cases isRead : read? text with
    | none =>
        rfl
    | some expression =>
        cases expression with
        | presence name =>
            rw [(read?_presence_iff.1 isRead).2] at notName
            cases notName
        | compare key comparison value =>
            obtain ⟨before, after, splits, -⟩ := splits_of_read? isRead
            exact absurd splits (noSplit _ _ _)

/-- Exactly the language is read: a trimmed text is a name if it has no operator
characters, it is compared at an operator between two pieces without such
characters, which stands at one place at most and whose sides show, and any
other text is refused. -/
theorem reads_its_language (text : String) :
    (∀ name, read? text = some (.presence name) ↔
      name = trim text ∧ isName (trim text) = true) ∧
    (∀ key comparison value, read? text = some (.compare key comparison value) ↔
      ∃ before after, Splits (trim text) before comparison.symbol after ∧
        key = trim before ∧ value = trim after) ∧
    (∀ before operator after, Splits (trim text) before operator after →
      (∃ comparison, Comparison.ofSymbol? operator.toList = some comparison ∧
        operator = comparison.symbol) ∧
      (∀ otherBefore otherOperator otherAfter,
        Splits (trim text) otherBefore otherOperator otherAfter →
          otherBefore = before ∧ otherOperator = operator ∧ otherAfter = after) ∧
      IsOperand (trim before) ∧ IsOperand (trim after)) ∧
    (read? text = none ↔ isName (trim text) = false ∧
      ∀ before operator after, ¬ Splits (trim text) before operator after) := by
  refine ⟨fun name => read?_presence_iff, fun key comparison value => read?_compare_iff,
    ?_,
    read?_eq_none_iff⟩
  intro before operator after splits
  obtain ⟨comparison, isSymbol⟩ := Comparison.mem_operators_iff.1 splits.known
  have known : Comparison.ofSymbol? operator.toList = some comparison :=
    Comparison.ofSymbol?_eq_some_iff.2 (congrArg String.toList isSymbol)
  exact ⟨⟨comparison, known, isSymbol⟩, fun _ _ _ => splits.unique,
    splits.isOperand_before, splits.isOperand_after⟩

/-- Blanks around the operator go with the pieces and are trimmed off them. -/
theorem reads_spaced_comparison :
    read? "\tgold coins >= 10\n" = some (.compare "gold coins" .atLeast "10") := by
  have splits :
      Splits (trim "\tgold coins >= 10\n") "gold coins " Comparison.atLeast.symbol
      " 10" := {
    whole := by decide +kernel
    known := by decide
    someBefore := by decide
    someAfter := by decide
    freeBefore := by decide +kernel
    freeAfter := by decide +kernel }
  exact ((reads_its_language _).2.1 _ _ _).2
    ⟨_, _, splits, by decide +kernel, by decide +kernel⟩

/-- Operator characters that stand together are one operator or none. -/
example : read? "gold==10" = none := by
  decide +kernel

/-- An operator between two texts that show is read, whatever blanks are around
the texts. -/
theorem read?_append_symbol_append
    {before after : String}
    (freeBefore : isName before = true)
    (showsBefore : trim before ≠ "")
    (freeAfter : isName after = true)
    (showsAfter : trim after ≠ "")
    (comparison : Comparison) :
    read? (before ++ comparison.symbol ++ after) =
      some (.compare (trim before) comparison (trim after)) := by
  have charactersBefore : trimChars before.toList ≠ [] := by
    simpa [trim] using showsBefore
  have charactersAfter : trimChars after.toList ≠ [] := by
    simpa [trim] using showsAfter
  have sameBefore :
      trim (String.ofList (before.toList.dropWhile isBlank)) = trim before := by
    simp [trim, trimChars_dropWhile]
  have sameAfter :
      trim (String.ofList (dropEndWhile isBlank after.toList)) = trim after := by
    simp [trim, trimChars_dropEndWhile]
  rw [← sameBefore, ← sameAfter]
  refine read?_of_splits {
    whole := ?_
    known := Comparison.mem_operators_iff.2 ⟨comparison, rfl⟩
    someBefore := ?_
    someAfter := ?_
    freeBefore := isName_iff_forall.2 fun c member => ?_
    freeAfter := isName_iff_forall.2 fun c member => ?_ }
  · rw [← String.toList_inj, toList_trim, String.toList_append, String.toList_append,
      trimChars_append_append charactersBefore charactersAfter]
    simp
  · rintro nothing
    rw [nothing] at sameBefore
    exact showsBefore sameBefore.symm
  · rintro nothing
    rw [nothing] at sameAfter
    exact showsAfter sameAfter.symm
  · rw [String.toList_ofList] at member
    exact isName_iff_forall.1 freeBefore c
      ((List.dropWhile_suffix isBlank).subset member)
  · rw [String.toList_ofList] at member
    exact isName_iff_forall.1 freeAfter c
      ((List.rdropWhile_prefix isBlank _).subset member)

/-- Blanks around the pieces of a comparison do not count. -/
theorem read?_of_spaced
    {name literal front afterName beforeLiteral back : String}
    (blank : ∀ gap ∈ [front, afterName, beforeLiteral, back], ∀ c ∈ gap.toList,
      isBlank c = true)
    (freeName : isName name = true)
    (showsName : trim name ≠ "")
    (freeLiteral : isName literal = true)
    (showsLiteral : trim literal ≠ "")
    (comparison : Comparison) :
    read? (front ++ name ++ afterName ++ comparison.symbol ++ beforeLiteral ++
      literal ++ back) =
      some (.compare (trim name) comparison (trim literal)) := by
  simp only [List.forall_mem_cons, List.not_mem_nil, false_implies, implies_true,
    and_true] at blank
  obtain ⟨frontBlank, afterNameBlank, beforeLiteralBlank, backBlank⟩ := blank
  have trimmedName := trim_between_blanks frontBlank afterNameBlank name
  have trimmedLiteral := trim_between_blanks beforeLiteralBlank backBlank literal
  have grouped :
      front ++ name ++ afterName ++ comparison.symbol ++ beforeLiteral ++ literal ++
      back = (front ++ name ++ afterName) ++ comparison.symbol ++
        (beforeLiteral ++ literal ++ back) := by
    simp only [String.append_assoc]
  rw [grouped, read?_append_symbol_append, trimmedName, trimmedLiteral]
  · simp [isName_append, isName_of_blank frontBlank, freeName,
      isName_of_blank afterNameBlank]
  · rwa [trimmedName]
  · simp [isName_append, isName_of_blank beforeLiteralBlank, freeLiteral,
      isName_of_blank backBlank]
  · rwa [trimmedLiteral]

/-- What is written without blanks is read back. -/
theorem read?_of_operands
    {key value : String}
    (isKey : IsOperand key)
    (isValue : IsOperand value)
    (comparison : Comparison) :
    read? (key ++ comparison.symbol ++ value) =
      some (.compare key comparison value) := by
  rw [read?_append_symbol_append isKey.free isKey.shows isValue.free isValue.shows,
    isKey.trimmed, isValue.trimmed]

/-! ## The written form -/

/-- Expressions with names and operands as they are kept. -/
def Tidy : Expression → Prop
  | .presence name => IsKey name
  | .compare key _ value => IsOperand key ∧ IsOperand value

private theorem tidy_of_read?
    {text : String} {expression : Expression}
    (isRead : read? text = some expression) :
    expression.Tidy := by
  cases expression with
  | presence name =>
      obtain ⟨rfl, free⟩ := read?_presence_iff.1 isRead
      exact isKey_trim free
  | compare key comparison value =>
      obtain ⟨before, after, splits, rfl, rfl⟩ := splits_of_read? isRead
      exact ⟨splits.isOperand_before, splits.isOperand_after⟩

private theorem Tidy.read?_text
    {expression : Expression}
    (tidy : expression.Tidy) :
    read? expression.text = some expression := by
  cases expression with
  | presence name =>
      have isKey : IsKey name := tidy
      exact read?_presence_iff.2
        ⟨isKey.trimmed.symm, by rw [text, isName_trim]; exact isKey.free⟩
  | compare key comparison value =>
      exact read?_of_operands tidy.1 tidy.2 comparison

/-- The written form of an expression that has been read stands for all texts
that are read as this expression: it is one of them, it holds where they do, and
no other expression is written so. -/
theorem written_form_is_canonical
    {text : String} {expression : Expression}
    (isRead : read? text = some expression) :
    read? expression.text = some expression ∧
    (∀ store : Store, store.hasFlag expression.text = store.hasFlag text) ∧
    ∀ otherText other, read? otherText = some other →
      (other.text = expression.text ↔ other = expression) := by
  have readBack := (tidy_of_read? isRead).read?_text
  refine ⟨readBack, fun store => ?_, fun otherText other isOtherRead => ?_⟩
  · rw [Store.hasFlag, Store.hasFlag, readBack, isRead]
  · constructor
    · intro sameText
      have otherReadBack := (tidy_of_read? isOtherRead).read?_text
      rw [sameText, readBack] at otherReadBack
      exact (Option.some.inj otherReadBack).symm
    · rintro rfl
      rfl

theorem written_form_of_spaced_comparison :
    read? "gold coins>=10" = some (.compare "gold coins" .atLeast "10") ∧
      ∀ store : Store, store.hasFlag "gold coins>=10" =
        store.hasFlag "\tgold coins >= 10\n" := by
  have isRead :
      read? "\tgold coins >= 10\n" = some (.compare "gold coins" .atLeast "10") := by
    decide +kernel
  have written :
      "gold coins>=10" = (Expression.compare "gold coins" .atLeast "10").text := by
    decide +kernel
  have canonical := written_form_is_canonical isRead
  rw [written]
  exact ⟨canonical.1, canonical.2.1⟩

end Expression

end Colloquy.Flag
