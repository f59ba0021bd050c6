import Colloquy.Proofs.Text.Blank

/-!
# Words of a text

A text is its trimmed form between two runs of blanks, and blanks around a text
do not change its words. Words that are joined are read back, so that joining
the words of a text gives the text again exactly if one space and no other blank
stands between neighbours.
-/

namespace Colloquy.Text

private theorem wordsFrom_append_of_solid
    {word rest head : List Char} {others : List (List Char)}
    (solid : ∀ c ∈ word, isBlank c = false)
    (restWords : wordsFrom rest = head :: others) :
    wordsFrom (word ++ rest) = (word ++ head) :: others := by
  induction word with
  | nil =>
      exact restWords
  | cons c tail inductionHypothesis =>
      obtain ⟨headSolid, tailSolid⟩ := List.forall_mem_cons.1 solid
      rw [List.cons_append, wordsFrom, inductionHypothesis tailSolid]
      simp [headSolid]

/-- Blanks have no words but empty ones. -/
theorem exists_wordsFrom_of_blank
    {blanks : List Char}
    (blank : ∀ c ∈ blanks, isBlank c = true) :
    ∃ others, wordsFrom blanks = [] :: others ∧ others.filter (! ·.isEmpty) = [] := by
  induction blanks with
  | nil =>
      exact ⟨[], rfl, rfl⟩
  | cons c tail inductionHypothesis =>
      obtain ⟨headBlank, tailBlank⟩ := List.forall_mem_cons.1 blank
      obtain ⟨others, tailWords, noOthers⟩ := inductionHypothesis tailBlank
      refine ⟨[] :: others, ?_, ?_⟩
      · rw [wordsFrom, tailWords]
        simp [headBlank]
      · simpa using noOthers

private theorem filter_wordsFrom_append_of_blank
    {blanks : List Char}
    (blank : ∀ c ∈ blanks, isBlank c = true)
    (rest : List Char) :
    (wordsFrom (blanks ++ rest)).filter (! ·.isEmpty) =
      (wordsFrom rest).filter (! ·.isEmpty) := by
  induction blanks with
  | nil =>
      rfl
  | cons c tail inductionHypothesis =>
      obtain ⟨headBlank, tailBlank⟩ := List.forall_mem_cons.1 blank
      rw [List.cons_append, wordsFrom, if_pos headBlank,
        List.filter_cons_of_neg (by simp)]
      exact inductionHypothesis tailBlank

theorem exists_eq_blanks_append (characters : List Char) :
    ∃ front back, characters = front ++ trimChars characters ++ back ∧
      (∀ c ∈ front, isBlank c = true) ∧ ∀ c ∈ back, isBlank c = true := by
  refine ⟨characters.takeWhile isBlank,
    (characters.dropWhile isBlank).rtakeWhile isBlank,
    ?_, fun c => List.mem_takeWhile_imp, fun c => List.mem_rtakeWhile_imp⟩
  rw [trimChars, dropEndWhile_eq_rdropWhile, List.append_assoc,
    List.rdropWhile_append_rtakeWhile, List.takeWhile_append_dropWhile]

/-- A text that is solid but for the blanks around it has one word. -/
theorem words_eq_singleton
    {text : String}
    (nonempty : trim text ≠ "")
    (solid : ∀ c ∈ (trim text).toList, isBlank c = false) :
    words text = [trim text] := by
  obtain ⟨front, back, split, frontBlank, backBlank⟩ :=
    exists_eq_blanks_append text.toList
  obtain ⟨others, backWords, noOthers⟩ := exists_wordsFrom_of_blank backBlank
  rw [toList_trim] at solid
  have wordNonempty : trimChars text.toList ≠ [] := by
    intro empty
    refine nonempty ?_
    rw [trim, empty]
  have wordsAfterFront : wordsFrom (trimChars text.toList ++ back) =
      trimChars text.toList :: others := by
    rw [wordsFrom_append_of_solid solid backWords, List.append_nil]
  unfold words
  rw [split, List.append_assoc, filter_wordsFrom_append_of_blank frontBlank,
    wordsAfterFront, List.filter_cons_of_pos (by simpa using wordNonempty), noOthers]
  rfl

private theorem wordsFrom_ne_nil (characters : List Char) :
    wordsFrom characters ≠ [] := by
  cases characters with
  | nil =>
      simp [wordsFrom]
  | cons c rest =>
      unfold wordsFrom
      split
      · simp
      · split
        · simp
        · simp

/-- A blank ends the pieces before it. -/
theorem wordsFrom_append_blank
    {c : Char}
    (blank : isBlank c = true)
    (front back : List Char) :
    wordsFrom (front ++ c :: back) = wordsFrom front ++ wordsFrom back := by
  induction front with
  | nil =>
      simp [wordsFrom, blank]
  | cons first rest inductionHypothesis =>
      rw [List.cons_append, wordsFrom, wordsFrom, inductionHypothesis]
      split
      · rfl
      · obtain ⟨word, others, split⟩ :=
          List.exists_cons_of_ne_nil (wordsFrom_ne_nil rest)
        rw [split, List.cons_append, List.cons_append]

/-- The pieces hold what is not blank, in order. -/
theorem flatten_wordsFrom (characters : List Char) :
    (wordsFrom characters).flatten = characters.filter (! isBlank ·) := by
  induction characters with
  | nil =>
      rfl
  | cons c rest inductionHypothesis =>
      obtain ⟨word, others, split⟩ := List.exists_cons_of_ne_nil (wordsFrom_ne_nil rest)
      rw [split, List.flatten_cons] at inductionHypothesis
      rw [wordsFrom, split]
      by_cases blank : isBlank c = true
      · simp [blank, inductionHypothesis]
      · simp [blank, inductionHypothesis]

/-- A text that shows has a word. -/
theorem words_ne_nil {text : String} (shows : trim text ≠ "") : words text ≠ [] := by
  intro noWords
  have allEmpty : ∀ piece ∈ wordsFrom text.toList, piece = [] := by
    simpa [words] using noWords
  have noneSolid : text.toList.filter (! isBlank ·) = [] := by
    rw [← flatten_wordsFrom]
    exact List.flatten_eq_nil_iff.2 allEmpty
  have allBlank : ∀ c ∈ text.toList, isBlank c = true := by
    simpa using noneSolid
  exact shows (trim_eq_empty_iff.2 allBlank)

/-! ## Joined words -/

def IsWord (text : String) : Prop :=
  text ≠ "" ∧ ∀ c ∈ text.toList, isBlank c = false

theorem isWord_of_all
    {text : String}
    (nonempty : text ≠ "")
    (solid : text.toList.all (! isBlank ·) = true) :
    IsWord text :=
  ⟨nonempty, fun c member => by simpa using List.all_eq_true.1 solid c member⟩

/-- A word is the only word of itself. -/
theorem words_of_isWord {text : String} (isWord : IsWord text) :
    words text = [text] := by
  have whole : wordsFrom text.toList = [text.toList] := by
    have noMore : wordsFrom [] = [[]] := rfl
    simpa using wordsFrom_append_of_solid isWord.2 noMore
  have nonempty : text.toList ≠ [] := by
    simpa using isWord.1
  rw [words, whole, List.filter_cons_of_pos (by simpa using nonempty), List.filter_nil,
    List.map_singleton, String.ofList_toList]

theorem words_eq_append_of_split
    {text : String} {front back : List Char} {c : Char}
    (blank : isBlank c = true)
    (split : text.toList = front ++ c :: back) :
    words text = words (String.ofList front) ++ words (String.ofList back) := by
  simp only [words, split, wordsFrom_append_blank blank, List.filter_append,
    List.map_append, String.toList_ofList]

/-- A space separates the words before it from those after it. -/
theorem words_append_space (front back : String) :
    words (front ++ " " ++ back) = words front ++ words back := by
  have characters :
      (front ++ " " ++ back).toList = front.toList ++ ' ' :: back.toList := by
    simp
  have isSpace : isBlank ' ' = true := rfl
  rw [words_eq_append_of_split isSpace characters, String.ofList_toList,
    String.ofList_toList]

/-- A blank inside of a trimmed text stands between words. -/
theorem isWord_of_words_eq_singleton
    {text word : String}
    (trimmed : trim text = text)
    (single : words text = [word]) :
    IsWord text := by
  have nonempty : text ≠ "" := by
    rintro rfl
    cases single
  refine ⟨nonempty, fun c member => Bool.eq_false_iff.2 fun blank => ?_⟩
  obtain ⟨front, back, split⟩ := List.append_of_mem member
  have characters : trimChars text.toList = front ++ c :: back := by
    rw [← toList_trim, trimmed, split]
  have frontShows : trim (String.ofList front) ≠ "" := by
    intro hidden
    have frontBlank : ∀ other ∈ front ++ [c], isBlank other = true := by
      rw [List.forall_mem_append]
      exact ⟨by simpa using trim_eq_empty_iff.1 hidden, by simpa using blank⟩
    have noFront : front ++ [c] = [] := by
      rw [List.append_cons] at characters
      exact eq_nil_of_trimChars_eq_blanks_append characters frontBlank
    simp at noFront
  have backShows : trim (String.ofList back) ≠ "" := by
    intro hidden
    have backBlank : ∀ other ∈ c :: back, isBlank other = true := by
      rw [List.forall_mem_cons]
      exact ⟨blank, by simpa using trim_eq_empty_iff.1 hidden⟩
    have noBack : c :: back = [] :=
      eq_nil_of_trimChars_eq_append characters backBlank
    cases noBack
  have twoParts : (words text).length =
      (words (String.ofList front)).length + (words (String.ofList back)).length := by
    rw [words_eq_append_of_split blank split, List.length_append]
  have frontWorded := List.length_pos_iff.2 (words_ne_nil frontShows)
  have backWorded := List.length_pos_iff.2 (words_ne_nil backShows)
  rw [single, List.length_singleton] at twoParts
  omega

private theorem words_joinWords
    {parts : List String}
    (areWords : ∀ part ∈ parts, IsWord part) :
    words (joinWords parts) = parts := by
  induction parts with
  | nil =>
      rfl
  | cons head tail inductionHypothesis =>
      obtain ⟨headIsWord, tailAreWords⟩ := List.forall_mem_cons.1 areWords
      cases tail with
      | nil =>
          rw [joinWords, String.intercalate_singleton]
          exact words_of_isWord headIsWord
      | cons second rest =>
          rw [joinWords, String.intercalate_cons_cons, words_append_space,
            words_of_isWord headIsWord]
          exact congrArg (head :: ·) (inductionHypothesis tailAreWords)

/-- A text of words with one space, and no other blank, between neighbours and
none around them. -/
def SingleSpaced (text : String) : Prop :=
  ∃ parts : List String, (∀ part ∈ parts, IsWord part) ∧ text = joinWords parts

/-- The words of a text are words. -/
theorem isWord_of_mem_words
    {text word : String} (member : word ∈ words text) : IsWord word := by
  obtain ⟨piece, isPiece, rfl⟩ := List.mem_map.1 member
  obtain ⟨listed, nonempty⟩ := List.mem_filter.1 isPiece
  refine ⟨by simpa using nonempty, fun c inPiece => ?_⟩
  rw [String.toList_ofList] at inPiece
  have kept : c ∈ text.toList.filter (! isBlank ·) := by
    rw [← flatten_wordsFrom]
    exact List.mem_flatten.2 ⟨piece, listed, inPiece⟩
  simpa using (List.mem_filter.1 kept).2

/-- Joining the words of a text gives the text again exactly if it is spaced singly. -/
theorem joinWords_words_iff {text : String} :
    joinWords (words text) = text ↔ SingleSpaced text := by
  constructor
  · intro same
    exact ⟨words text, fun _ => isWord_of_mem_words, same.symm⟩
  · rintro ⟨parts, areWords, rfl⟩
    rw [words_joinWords areWords]

end Colloquy.Text
