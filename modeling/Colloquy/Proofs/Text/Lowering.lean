import Colloquy.Text.Case
import Mathlib.Data.List.TakeWhile

/-!
# Beginnings in lower case

The lower-case form of a text begins with that of its beginning, with one
exception. A capital sigma that ends a word becomes a final sigma, and the end
of the beginning can be such an end while the text goes on with the word.
-/

namespace Colloquy.Text

/-- A character that is passed over in the search for a cased neighbour. -/
def IsIgnored (c : Char) : Prop :=
  caseIgnorableRanges.contains c = true

/-- The first character that is not passed over is a cased letter. -/
def BeginsCased (characters : List Char) : Prop :=
  ∃ ignored letter rest, characters = ignored ++ letter :: rest ∧
    (∀ c ∈ ignored, IsIgnored c) ∧
    ¬ IsIgnored letter ∧ casedRanges.contains letter = true

theorem meetsCased_iff {characters : List Char} :
    meetsCased characters = true ↔ BeginsCased characters := by
  constructor
  · intro meets
    unfold meetsCased at meets
    split at meets
    · cases meets
    · rename_i letter rest behind
      have split := List.takeWhile_append_dropWhile (p := caseIgnorableRanges.contains)
        (l := characters)
      rw [behind] at split
      have notIgnored : ¬ IsIgnored letter := by
        have first := List.head?_dropWhile_not caseIgnorableRanges.contains characters
        rw [behind] at first
        simpa [IsIgnored] using first
      exact ⟨_, letter, rest, split.symm, fun c => List.mem_takeWhile_imp, notIgnored,
        meets⟩
  · rintro ⟨ignored, letter, rest, rfl, allIgnored, notIgnored, isCased⟩
    rw [meetsCased, List.dropWhile_append_of_pos allIgnored,
      List.dropWhile_cons_of_neg notIgnored]
    exact isCased

section Neighbours

variable {front : List Char}

private theorem meetsCased_append_of_ignored
    (ignored : ∀ c ∈ front, IsIgnored c)
    (back : List Char) :
    meetsCased (front ++ back) = meetsCased back := by
  rw [meetsCased, List.dropWhile_append_of_pos ignored, meetsCased]

private theorem meetsCased_of_ignored
    (ignored : ∀ c ∈ front, IsIgnored c) : meetsCased front = false := by
  rw [← List.append_nil front, meetsCased_append_of_ignored ignored]
  rfl

private theorem meetsCased_append_of_not_ignored
    (notAllIgnored : ¬ ∀ c ∈ front, IsIgnored c)
    (back : List Char) :
    meetsCased (front ++ back) = meetsCased front := by
  have remains : ¬ (front.dropWhile caseIgnorableRanges.contains).isEmpty = true := by
    rw [List.isEmpty_iff, List.dropWhile_eq_nil_iff]
    exact notAllIgnored
  obtain ⟨letter, rest, behind⟩ :=
    List.exists_cons_of_ne_nil (fun empty => remains (List.isEmpty_iff.2 empty))
  rw [meetsCased, meetsCased, List.dropWhile_append, if_neg remains, behind]
  rfl

end Neighbours

/-- What a character becomes between those before it, in reverse, and those
behind it. -/
def imageBetween (before : List Char) (c : Char) (rest : List Char) : List Char :=
  if c == '\u03a3' && meetsCased before && !meetsCased rest then
    ['\u03c2']
  else
    lowerChar c

private theorem lowerAfter_cons (before : List Char) (c : Char) (rest : List Char) :
    lowerAfter before (c :: rest) =
      imageBetween before c rest ++ lowerAfter (c :: before) rest :=
  rfl

private theorem lowerChar_sigma : lowerChar '\u03a3' = ['\u03c3'] := by
  decide +kernel

/-- A capital sigma ends a word of what stands in front, and the word goes on
behind it. What stands before all of this is given in reverse. -/
def SigmaTurns (before front back : List Char) : Prop :=
  ∃ earlier ignored, front = earlier ++ '\u03a3' :: ignored ∧
    BeginsCased (earlier.reverse ++ before) ∧ (∀ c ∈ ignored, IsIgnored c) ∧
      BeginsCased back

private theorem not_sigmaTurns_nil (before back : List Char) :
    ¬ SigmaTurns before [] back := by
  rintro ⟨earlier, ignored, split, -⟩
  simp at split

private theorem sigmaTurns_cons_iff {before tail back : List Char} {c : Char} :
    SigmaTurns before (c :: tail) back ↔
      (c = '\u03a3' ∧ BeginsCased before ∧ (∀ d ∈ tail, IsIgnored d) ∧
        BeginsCased back) ∨
        SigmaTurns (c :: before) tail back := by
  constructor
  · rintro ⟨earlier, ignored, split, casedBefore, allIgnored, casedBehind⟩
    cases earlier with
    | nil =>
        obtain ⟨rfl, rfl⟩ := List.cons.inj split
        exact Or.inl ⟨rfl, casedBefore, allIgnored, casedBehind⟩
    | cons first others =>
        obtain ⟨rfl, rfl⟩ := List.cons.inj split
        refine Or.inr ⟨others, ignored, rfl, ?_, allIgnored, casedBehind⟩
        simpa using casedBefore
  · rintro (⟨rfl, casedBefore, allIgnored, casedBehind⟩ |
      ⟨earlier, ignored, rfl, casedBefore, allIgnored, casedBehind⟩)
    · exact ⟨[], tail, rfl, casedBefore, allIgnored, casedBehind⟩
    · refine ⟨c :: earlier, ignored, rfl, ?_, allIgnored, casedBehind⟩
      simpa using casedBefore

section Images

variable {before tail back : List Char} {c : Char}

/-- More text behind a character changes its image only if it is a sigma that
ended a word. -/
theorem imageBetween_append
    (stays : ¬ (c = '\u03a3' ∧ BeginsCased before ∧ (∀ d ∈ tail, IsIgnored d) ∧
      BeginsCased back)) :
    imageBetween before c (tail ++ back) = imageBetween before c tail := by
  by_cases ignored : ∀ d ∈ tail, IsIgnored d
  · unfold imageBetween
    rw [meetsCased_append_of_ignored ignored, meetsCased_of_ignored ignored]
    by_cases isSigma : c = '\u03a3'
    · by_cases casedBefore : meetsCased before = true
      · have notBehind : meetsCased back = false := by
          refine Bool.eq_false_iff.2 fun meets => stays ?_
          exact ⟨isSigma, meetsCased_iff.1 casedBefore, ignored, meetsCased_iff.1 meets⟩
        rw [notBehind]
      · simp [casedBefore]
    · simp [isSigma]
  · rw [imageBetween, meetsCased_append_of_not_ignored ignored, imageBetween]

private theorem imageBetween_sigma_of_turns
    (casedBefore : BeginsCased before)
    (ignored : ∀ d ∈ tail, IsIgnored d)
    (casedBehind : BeginsCased back) :
    imageBetween before '\u03a3' tail = ['\u03c2'] ∧
      imageBetween before '\u03a3' (tail ++ back) = ['\u03c3'] := by
  unfold imageBetween
  rw [meetsCased_append_of_ignored ignored, meetsCased_of_ignored ignored,
    meetsCased_iff.2 casedBefore, meetsCased_iff.2 casedBehind, lowerChar_sigma]
  exact ⟨rfl, rfl⟩

end Images

/-- The lower-case form of a beginning is a beginning of the lower-case form,
unless a sigma turns. -/
theorem lowerAfter_prefix_iff {before front back : List Char} :
    lowerAfter before front <+: lowerAfter before (front ++ back) ↔
      ¬ SigmaTurns before front back := by
  induction front generalizing before with
  | nil =>
      exact iff_of_true List.nil_prefix (not_sigmaTurns_nil before back)
  | cons c tail inductionHypothesis =>
      rw [List.cons_append, lowerAfter_cons, lowerAfter_cons, sigmaTurns_cons_iff,
        not_or]
      by_cases turns :
          c = '\u03a3' ∧ BeginsCased before ∧ (∀ d ∈ tail, IsIgnored d) ∧
            BeginsCased back
      · refine iff_of_false ?_ fun stays => stays.1 turns
        obtain ⟨rfl, casedBefore, ignored, casedBehind⟩ := turns
        obtain ⟨final, within⟩ :=
          imageBetween_sigma_of_turns casedBefore ignored casedBehind
        rw [final, within]
        intro begins
        have same : '\u03c2' = '\u03c3' := (List.cons_prefix_cons.1 begins).1
        exact absurd same (by decide)
      · rw [imageBetween_append turns, List.prefix_append_right_inj,
          inductionHypothesis, and_iff_right turns]

/-- Lower case is made character by character, each in view of those before and
behind it. -/
theorem toList_lower (text : String) :
    (lower text).toList = lowerAfter [] text.toList :=
  String.toList_ofList

end Colloquy.Text
