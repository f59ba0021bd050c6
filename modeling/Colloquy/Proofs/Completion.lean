import Colloquy.Completion
import Colloquy.Proofs.Text.Lowering
import Colloquy.Proofs.Text.Words

/-!
# The word before the cursor

A completion stands for the word before the cursor, which begins behind the last
blank. Put in its place and completed again, a candidate is offered again. A
name that begins with what was typed is offered, unless case takes the end of
what was typed for the end of a word.
-/

namespace Colloquy.Completion

open Colloquy.Storage (Disk)

def Solid (text : String) : Prop :=
  ∀ c ∈ text.toList, Text.isBlank c = false

/-- A text ends in a word, which may be empty, and what stands before the word
ends in a blank. -/
structure EndsInWord (text head word : String) : Prop where
  split : text = head ++ word
  solid : Solid word
  headEnds : head = "" ∨ ∃ (front : String) (blank : Char),
    head = front.push blank ∧ Text.isBlank blank = true

namespace EndsInWord

variable {text head word : String}

private theorem dropWhile_reverse_head (ends : EndsInWord text head word) :
    head.toList.reverse.dropWhile (! Text.isBlank ·) = head.toList.reverse := by
  rcases ends.headEnds with rfl | ⟨front, blank, rfl, isBlank⟩
  · rfl
  · rw [String.toList_push, List.reverse_append, List.reverse_singleton,
      List.singleton_append, List.dropWhile_cons_of_neg (by simp [isBlank])]

private theorem takeWhile_reverse_head (ends : EndsInWord text head word) :
    head.toList.reverse.takeWhile (! Text.isBlank ·) = [] := by
  have whole :=
    List.takeWhile_append_dropWhile (p := (! Text.isBlank ·)) (l := head.toList.reverse)
  rw [ends.dropWhile_reverse_head] at whole
  exact List.append_left_eq_self.1 whole

private theorem reverse_toList (ends : EndsInWord text head word) :
    text.toList.reverse = word.toList.reverse ++ head.toList.reverse := by
  rw [ends.split, String.toList_append, List.reverse_append]

private theorem solid_reverse (ends : EndsInWord text head word) :
    ∀ c ∈ word.toList.reverse, (! Text.isBlank c) = true := by
  intro c member
  rw [ends.solid c (List.mem_reverse.1 member)]
  rfl

private theorem headOf_eq (ends : EndsInWord text head word) :
    headOf text = head.toList := by
  rw [headOf, ends.reverse_toList, List.dropWhile_append_of_pos ends.solid_reverse,
    ends.dropWhile_reverse_head, List.reverse_reverse]

private theorem partialWord_eq (ends : EndsInWord text head word) :
    partialWord text = word.toList := by
  rw [partialWord, ends.reverse_toList, List.takeWhile_append_of_pos ends.solid_reverse,
    ends.takeWhile_reverse_head, List.append_nil, List.reverse_reverse]

/-- What stands before the word decides where the completion begins and what it
draws from. -/
theorem complete_eq (ends : EndsInWord text head word) (disk : Disk) (source : Source) :
    complete disk source text = {
      start := head.utf8ByteSize
      candidates := (pool disk source (Text.words head)).filter fun candidate =>
        beginsWith candidate word } := by
  rw [complete, ends.headOf_eq, ends.partialWord_eq, String.ofList_toList,
    String.ofList_toList]

end EndsInWord

private theorem endsInWord (text : String) :
    EndsInWord text (String.ofList (headOf text))
      (String.ofList (partialWord text)) where
  split := by
    rw [← String.ofList_append, headOf, partialWord, ← List.reverse_append,
      List.takeWhile_append_dropWhile, List.reverse_reverse, String.ofList_toList]
  solid := by
    intro c member
    rw [String.toList_ofList, partialWord, List.mem_reverse] at member
    simpa using List.mem_takeWhile_imp member
  headEnds := by
    cases behind : text.toList.reverse.dropWhile (! Text.isBlank ·) with
    | nil =>
        left
        rw [headOf, behind]
        rfl
    | cons blank rest =>
        right
        have isBlank : Text.isBlank blank = true := by
          have first := List.head?_dropWhile_not (! Text.isBlank ·) text.toList.reverse
          rw [behind] at first
          simpa using first
        refine ⟨String.ofList rest.reverse, blank, ?_, isBlank⟩
        rw [headOf, behind, List.reverse_cons, String.ofList_append,
          String.push_eq_append, String.singleton_eq_ofList]

private theorem completeAt_eq
    {line before after : String} {cursor : line.Pos}
    (splits : cursor.Splits before after)
    (disk : Disk)
    (source : Source) :
    completeAt disk source line cursor = complete disk source before := by
  rw [completeAt, splits.copy_sliceTo_eq]

private theorem exists_splits (before after : String) :
    ∃ cursor : (before ++ after).Pos, cursor.Splits before after := by
  have isValid : before.rawEndPos.IsValid (before ++ after) :=
    String.Pos.Raw.isValid_iff_exists_append.2 ⟨before, after, rfl, rfl⟩
  exact ⟨⟨_, isValid⟩, rfl, rfl⟩

private theorem beginsWith_self (text : String) : beginsWith text text = true :=
  List.isPrefixOf_iff_prefix.2 List.prefix_rfl

/-- A completion at a cursor, with the text before the cursor cut into the word
and what stands before the word. -/
structure CompletesWord
    (disk : Disk) (source : Source) {line : String} (cursor : line.Pos)
    (before after head word : String) : Prop where
  atCursor : cursor.Splits before after
  endsInWord : EndsInWord before head word
  /-- The start is a position between two characters of the text before the cursor. -/
  start : ∃ boundary : before.Pos, boundary.Splits head word ∧
    (completeAt disk source line cursor).start = boundary.offset.byteIdx
  again : ∀ candidate ∈ (completeAt disk source line cursor).candidates,
    Solid candidate →
    ∃ moved : (head ++ candidate ++ after).Pos, moved.Splits (head ++ candidate) after ∧
      (completeAt disk source _ moved).start =
        (completeAt disk source line cursor).start ∧
        candidate ∈ (completeAt disk source _ moved).candidates

private theorem completesWord
    {line before after head word : String} {cursor : line.Pos}
    (splits : cursor.Splits before after)
    (ends : EndsInWord before head word)
    (disk : Disk)
    (source : Source) :
    CompletesWord disk source cursor before after head word where
  atCursor := splits
  endsInWord := ends
  start := by
    have isValid : head.rawEndPos.IsValid before :=
      String.Pos.Raw.isValid_iff_exists_append.2 ⟨head, word, ends.split, rfl⟩
    refine ⟨⟨_, isValid⟩, ⟨ends.split, rfl⟩, ?_⟩
    rw [completeAt_eq splits, ends.complete_eq]
    rfl
  again := by
    rw [completeAt_eq splits, ends.complete_eq]
    intro candidate offered solid
    obtain ⟨inPool, -⟩ := List.mem_filter.1 offered
    obtain ⟨moved, splitsAgain⟩ := exists_splits (head ++ candidate) after
    have endsAgain : EndsInWord (head ++ candidate) head candidate :=
      ⟨rfl, solid, ends.headEnds⟩
    refine ⟨moved, splitsAgain, ?_⟩
    rw [completeAt_eq splitsAgain, endsAgain.complete_eq]
    exact ⟨rfl, List.mem_filter.2 ⟨inPool, beginsWith_self candidate⟩⟩

/-- At every cursor of every line, whatever the triggers and the saves are. -/
theorem candidate_is_offered_again
    (disk : Disk) (source : Source) (line : String) (cursor : line.Pos) :
    ∃ before after head word, CompletesWord disk source cursor before after head word :=
  ⟨_, _, _, _, completesWord cursor.splits (endsInWord _) disk source⟩

/-! ## Names of triggers -/

private theorem beginsWith_append_iff {typed rest : String} :
    beginsWith (typed ++ rest) typed = true ↔
      ¬ Text.SigmaTurns [] typed.toList rest.toList := by
  rw [beginsWith, List.isPrefixOf_iff_prefix, Text.toList_lower, Text.toList_lower,
    String.toList_append]
  exact Text.lowerAfter_prefix_iff

private theorem pool_of_opens
    {word : String}
    (opens : word ∈ ["talk", "start"])
    (disk : Disk)
    (source : Source) :
    pool disk source (Text.words (word ++ " ")) = source.triggers := by
  simp only [List.mem_cons, List.not_mem_nil, or_false] at opens
  rcases opens with rfl | rfl
  · rfl
  · rfl

/-- Behind the words that start a dialogue, triggers are offered in their order.
One whose name begins with what was typed is among them unless a capital sigma
turns where the typing stops. -/
theorem name_is_offered_unless_sigma_turns
    {word typed : String}
    (opens : word ∈ ["talk", "start"])
    (solid : Solid typed)
    (disk : Disk)
    (source : Source) :
    ∃ offers : String → Bool,
      complete disk source (word ++ " " ++ typed) =
        ⟨(word ++ " ").utf8ByteSize, source.triggers.filter offers⟩ ∧
      ∀ rest, offers (typed ++ rest) = true ↔
        ¬ Text.SigmaTurns [] typed.toList rest.toList := by
  have ends : EndsInWord (word ++ " " ++ typed) (word ++ " ") typed :=
    ⟨rfl, solid, Or.inr ⟨word, ' ', rfl, rfl⟩⟩
  refine ⟨fun candidate => beginsWith candidate typed, ?_,
    fun rest => beginsWith_append_iff⟩
  rw [ends.complete_eq, pool_of_opens opens]

def greek : Source where
  triggers := ["ΟΔΥΣ-ΑΡΓΟΣ", "ΟΔΥΣΣΕΥΣ"]
  saveDirectory := "saves"
  developer := false

/-- Both names begin with what was typed, and the sigma turns in the second. -/
theorem first_greek_name_is_offered :
    "talk" ∈ ["talk", "start"] ∧ Solid "ΟΔΥΣ" ∧
      "ΟΔΥΣ" ++ "-ΑΡΓΟΣ" ∈ (complete {} greek ("talk" ++ " " ++ "ΟΔΥΣ")).candidates ∧
        Text.SigmaTurns [] "ΟΔΥΣ".toList "ΣΕΥΣ".toList := by
  have isWord : Text.IsWord "ΟΔΥΣ" := Text.isWord_of_all (by decide) (by decide)
  have notTurns : ¬ Text.SigmaTurns [] "ΟΔΥΣ".toList "-ΑΡΓΟΣ".toList := by
    rintro ⟨-, -, -, -, -, casedBehind⟩
    exact absurd (Text.meetsCased_iff.2 casedBehind) (by decide +kernel)
  have turns : Text.SigmaTurns [] "ΟΔΥΣ".toList "ΣΕΥΣ".toList := by
    refine ⟨"ΟΔΥ".toList, [], rfl, Text.meetsCased_iff.1 ?_, by simp,
      Text.meetsCased_iff.1 ?_⟩
    · decide +kernel
    · decide +kernel
  have opens : "talk" ∈ ["talk", "start"] := by
    decide
  obtain ⟨offers, completed, offers_iff⟩ :=
    name_is_offered_unless_sigma_turns opens isWord.2 {} greek
  refine ⟨opens, isWord.2, ?_, turns⟩
  rw [completed]
  exact List.mem_filter.2 ⟨by decide, (offers_iff _).2 notTurns⟩

theorem second_greek_name_is_not_offered :
    "ΟΔΥΣΣΕΥΣ" ∈ greek.triggers ∧ "ΟΔΥΣΣΕΥΣ" = "ΟΔΥΣ" ++ "ΣΕΥΣ" ∧ Solid "ΟΔΥΣ" ∧
      "ΟΔΥΣΣΕΥΣ" ∉ (complete {} greek ("talk" ++ " " ++ "ΟΔΥΣ")).candidates := by
  have isWord : Text.IsWord "ΟΔΥΣ" := Text.isWord_of_all (by decide) (by decide)
  refine ⟨by decide, by decide, isWord.2, ?_⟩
  decide +kernel

end Colloquy.Completion
