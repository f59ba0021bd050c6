import Colloquy.Proofs.Text.Blank
import Colloquy.Save.Slug

/-!
# Canonical slugs

A slug is made of lower-case letters, digits, underscores and dashes. It begins
and ends with a letter or digit, and one of them follows each dash. What is made
of a text for a file name is a slug, and a text that is a slug stays as it is.
-/

namespace Colloquy.Save

/-- A lower-case ASCII letter or a digit. -/
def IsSolid (c : Char) : Prop :=
  ('a' ≤ c ∧ c ≤ 'z') ∨ ('0' ≤ c ∧ c ≤ '9')

instance (c : Char) : Decidable (IsSolid c) :=
  inferInstanceAs (Decidable ((_ ∧ _) ∨ (_ ∧ _)))

section Characters

variable {c : Char}

/-- What holds of all letters and digits is found by looking at each of them. -/
theorem of_isSlugLetter
    (holds : Char → Prop)
    (each : ∀ code < 128, isSlugLetter (Char.ofNat code) = true →
      holds (Char.ofNat code))
    (letter : isSlugLetter c = true) :
    holds c := by
  have ascii : c.toNat < 128 := by
    simp only [isSlugLetter, Bool.or_eq_true, Bool.and_eq_true, decide_eq_true_eq,
      Char.le_def, UInt32.le_iff_toNat_le] at letter
    have highest : 'z'.val.toNat < 128 ∧ 'Z'.val.toNat < 128 ∧ '9'.val.toNat < 128 := by
      decide
    have same : c.toNat = c.val.toNat := rfl
    omega
  have found := each c.toNat ascii
  rw [Char.ofNat_toNat] at found
  exact found letter

private theorem isSolid_toLower (letter : isSlugLetter c = true) : IsSolid c.toLower :=
  of_isSlugLetter (fun c => IsSolid c.toLower) (by decide) letter

theorem IsSolid.isSlugLetter (solid : IsSolid c) : isSlugLetter c = true := by
  rcases solid with ⟨lower, upper⟩ | ⟨lower, upper⟩
  · simp [Save.isSlugLetter, lower, upper]
  · simp [Save.isSlugLetter, lower, upper]

private theorem IsSolid.toLower_eq (solid : IsSolid c) : c.toLower = c :=
  of_isSlugLetter (fun c => IsSolid c → c.toLower = c)
    (by decide) solid.isSlugLetter solid

theorem IsSolid.isBlank_eq (solid : IsSolid c) : Text.isBlank c = false :=
  of_isSlugLetter (fun c => Text.isBlank c = false) (by decide) solid.isSlugLetter

private theorem IsSolid.ne_underscore (solid : IsSolid c) : c ≠ '_' := by
  rintro rfl
  exact absurd solid (by decide)

end Characters

/-- Behind each dash there is a letter or digit. -/
def DashesFollowed (characters : List Char) : Prop :=
  ∀ before after, characters = before ++ '-' :: after →
    ∃ c rest, after = c :: rest ∧ IsSolid c

/-- A text in the form of file names. Having a first character, it is not empty. -/
structure IsSlug (text : String) : Prop where
  characters : ∀ c ∈ text.toList, IsSolid c ∨ c = '_' ∨ c = '-'
  begins : ∃ c rest, text.toList = c :: rest ∧ IsSolid c
  ends : ∃ front c, text.toList = front ++ [c] ∧ IsSolid c
  dashes : DashesFollowed text.toList

theorem IsSlug.ne_empty {text : String} (isSlug : IsSlug text) : text ≠ "" := by
  rintro rfl
  obtain ⟨c, rest, characters, -⟩ := isSlug.begins
  cases characters

/-- What may be written behind a letter or digit, before underscores at the end
are dropped. -/
inductive Continues : List Char → Prop
  | nil : Continues []
  | solid {c : Char} {rest : List Char} (isSolid : IsSolid c) :
      Continues rest → Continues (c :: rest)
  | underscore {rest : List Char} : Continues rest → Continues ('_' :: rest)
  | dash {c : Char} {rest : List Char} (isSolid : IsSolid c) :
      Continues (c :: rest) → Continues ('-' :: c :: rest)

section Writing

variable {written : List Char}

/-- A slug in progress has solid characters, underscores and dashes only. -/
theorem Continues.characters
    (continues : Continues written) :
    ∀ c ∈ written, IsSolid c ∨ c = '_' ∨ c = '-' := by
  induction continues with
  | nil =>
      intro c member
      cases member
  | solid isSolid _ inductionHypothesis =>
      exact List.forall_mem_cons.2 ⟨.inl isSolid, inductionHypothesis⟩
  | underscore _ inductionHypothesis =>
      exact List.forall_mem_cons.2 ⟨.inr (.inl rfl), inductionHypothesis⟩
  | dash _ _ inductionHypothesis =>
      exact List.forall_mem_cons.2 ⟨.inr (.inr rfl), inductionHypothesis⟩

private theorem dashesFollowed_cons_of_ne
    {c : Char} {rest : List Char}
    (different : c ≠ '-')
    (followed : DashesFollowed rest) :
    DashesFollowed (c :: rest) := by
  intro before after split
  cases before with
  | nil =>
      exact absurd (List.cons.inj split).1 different
  | cons first others =>
      exact followed others after (List.cons.inj split).2

private theorem Continues.dashesFollowed
    (continues : Continues written) :
    DashesFollowed written := by
  induction continues with
  | nil =>
      intro before after split
      simp at split
  | solid isSolid _ inductionHypothesis =>
      refine dashesFollowed_cons_of_ne ?_ inductionHypothesis
      rintro rfl
      exact absurd isSolid (by decide)
  | underscore _ inductionHypothesis =>
      exact dashesFollowed_cons_of_ne (by decide) inductionHypothesis
  | @dash c rest isSolid _ inductionHypothesis =>
      intro before after split
      cases before with
      | nil =>
          exact ⟨c, rest, (List.cons.inj split).2.symm, isSolid⟩
      | cons first others =>
          exact inductionHypothesis others after (List.cons.inj split).2

theorem DashesFollowed.of_cons
    {c : Char}
    (followed : DashesFollowed (c :: written)) :
    DashesFollowed written := by
  rintro before after rfl
  exact followed (c :: before) after rfl

private theorem continues_of_dashesFollowed
    (allowed : ∀ c ∈ written, IsSolid c ∨ c = '_' ∨ c = '-')
    (followed : DashesFollowed written) :
    Continues written := by
  induction written with
  | nil =>
      exact .nil
  | cons head tail inductionHypothesis =>
      obtain ⟨headAllowed, tailAllowed⟩ := List.forall_mem_cons.1 allowed
      have continues := inductionHypothesis tailAllowed followed.of_cons
      rcases headAllowed with isSolid | rfl | rfl
      · exact .solid isSolid continues
      · exact .underscore continues
      · obtain ⟨c, rest, rfl, isSolid⟩ := followed [] tail rfl
        exact .dash isSolid continues

private theorem continues_slugFrom (gap : Bool) (characters : List Char) :
    Continues (slugFrom true gap characters) := by
  induction characters generalizing gap with
  | nil =>
      exact .nil
  | cons c rest inductionHypothesis =>
      simp only [slugFrom]
      split
      · rename_i letter
        have isSolid := isSolid_toLower letter
        have continues := Continues.solid isSolid (inductionHypothesis false)
        split
        · exact .dash isSolid continues
        · exact continues
      · split
        · rename_i isUnderscore
          rw [isUnderscore]
          exact .underscore (inductionHypothesis false)
        · exact inductionHypothesis true

private theorem slugFrom_false_cases (gap : Bool) (characters : List Char) :
    slugFrom false gap characters = [] ∨
      ∃ c rest, slugFrom false gap characters = c :: rest ∧ IsSolid c ∧
        Continues rest := by
  induction characters generalizing gap with
  | nil =>
      exact .inl rfl
  | cons c rest inductionHypothesis =>
      simp only [slugFrom, Bool.and_false, Bool.false_eq_true, if_false]
      split
      · rename_i letter
        exact .inr ⟨_, _, rfl, isSolid_toLower letter, continues_slugFrom false rest⟩
      · split
        · exact inductionHypothesis false
        · exact inductionHypothesis true

private theorem slugFrom_cons_of_isSolid
    {c : Char}
    (isSolid : IsSolid c)
    (started gap : Bool) (rest : List Char) :
    slugFrom started gap (c :: rest) =
      if gap && started then '-' :: c :: slugFrom true false rest
      else c :: slugFrom true false rest := by
  rw [slugFrom, if_pos isSolid.isSlugLetter, isSolid.toLower_eq]

private theorem Continues.slugFrom_eq
    (continues : Continues written) :
    slugFrom true false written = written := by
  induction continues with
  | nil =>
      rfl
  | solid isSolid _ inductionHypothesis =>
      rw [slugFrom_cons_of_isSolid isSolid, inductionHypothesis]
      rfl
  | underscore _ inductionHypothesis =>
      rw [slugFrom, if_neg (by decide), if_pos rfl, if_pos rfl, inductionHypothesis]
  | dash isSolid _ inductionHypothesis =>
      rw [slugFrom_cons_of_isSolid isSolid] at inductionHypothesis
      rw [slugFrom, if_neg (by decide), if_neg (by decide),
        slugFrom_cons_of_isSolid isSolid]
      exact congrArg ('-' :: ·) inductionHypothesis

end Writing

section Ending

variable {c : Char} {rest kept dropped : List Char}

private theorem DashesFollowed.of_append_underscores
    (followed : DashesFollowed (kept ++ dropped))
    (underscores : ∀ c ∈ dropped, c = '_') :
    DashesFollowed kept := by
  rintro before after rfl
  obtain ⟨next, others, isNext, isSolid⟩ :=
    followed before (after ++ dropped) (by simp)
  cases after with
  | nil =>
      rw [List.nil_append] at isNext
      exact absurd (underscores next (by simp [isNext])) isSolid.ne_underscore
  | cons first others =>
      obtain ⟨rfl, -⟩ := List.cons.inj isNext
      exact ⟨first, others, rfl, isSolid⟩

private theorem dropWhile_underscore_of_isSolid
    (isSolid : IsSolid c) (rest : List Char) :
    (c :: rest).dropWhile (· == '_') = c :: rest :=
  List.dropWhile_cons_of_neg (p := (· == '_')) (by simpa using isSolid.ne_underscore)

private theorem exists_dropEndWhile_eq (characters : List Char) :
    ∃ kept dropped, Text.dropEndWhile (· == '_') characters = kept ∧
      characters = kept ++ dropped ∧ (∀ c ∈ dropped, c = '_') ∧
        ∀ front c, kept = front ++ [c] → c ≠ '_' := by
  refine ⟨_, characters.rtakeWhile (· == '_'), rfl, ?_, ?_, ?_⟩
  · rw [Text.dropEndWhile_eq_rdropWhile, List.rdropWhile_append_rtakeWhile]
  · intro c member
    exact eq_of_beq (List.mem_rtakeWhile_imp (p := (· == '_')) member)
  · intro front c isKept
    have lastKept : ∀ kept, characters.rdropWhile (· == '_') = kept →
        ∀ nonempty : kept ≠ [], kept.getLast nonempty ≠ '_' := by
      rintro _ rfl nonempty
      simpa using List.rdropWhile_last_not (· == '_') characters nonempty
    simpa using lastKept (front ++ [c]) isKept (by simp)

/-- A dash is not the last character, for one must follow it. -/
theorem isSolid_of_last
    {front : List Char}
    (allowed : ∀ d ∈ front ++ [c], IsSolid d ∨ d = '_' ∨ d = '-')
    (followed : DashesFollowed (front ++ [c]))
    (notUnderscore : c ≠ '_') :
    IsSolid c := by
  rcases allowed c (by simp) with isSolid | underscore | rfl
  · exact isSolid
  · exact absurd underscore notUnderscore
  · obtain ⟨next, others, nothing, -⟩ := followed front [] rfl
    cases nothing

private theorem exists_kept_eq_cons
    (split : c :: rest = kept ++ dropped)
    (underscores : ∀ c ∈ dropped, c = '_')
    (isSolid : IsSolid c) :
    ∃ others, kept = c :: others := by
  cases kept with
  | nil =>
      rw [List.nil_append] at split
      exact absurd (underscores c (by simp [← split])) isSolid.ne_underscore
  | cons first others =>
      exact ⟨others, by rw [(List.cons.inj split).1]⟩

/-- Without the underscores at its end, what is written is a slug. -/
theorem isSlug_dropEndWhile
    (isSolid : IsSolid c)
    (continues : Continues rest) :
    IsSlug (String.ofList (Text.dropEndWhile (· == '_') (c :: rest))) := by
  obtain ⟨kept, dropped, isKept, split, underscores, lastKept⟩ :=
    exists_dropEndWhile_eq (c :: rest)
  have written : Continues (kept ++ dropped) := split ▸ .solid isSolid continues
  have followed := written.dashesFollowed.of_append_underscores underscores
  have allowed : ∀ d ∈ kept, IsSolid d ∨ d = '_' ∨ d = '-' := fun d member =>
    written.characters d (List.mem_append_left dropped member)
  obtain ⟨others, isCons⟩ := exists_kept_eq_cons split underscores isSolid
  obtain ⟨front, last, ending⟩ : ∃ front last, kept = front ++ [last] :=
    (List.eq_nil_or_concat' kept).resolve_left (by simp [isCons])
  have lastSolid : IsSolid last :=
    isSolid_of_last (ending ▸ allowed) (ending ▸ followed) (lastKept front last ending)
  rw [isKept]
  exact {
    characters := by rwa [String.toList_ofList]
    begins := ⟨c, others, String.toList_ofList.trans isCons, isSolid⟩
    ends := ⟨front, last, String.toList_ofList.trans ending, lastSolid⟩
    dashes := by rwa [String.toList_ofList] }

end Ending

/-! ## Slugs of texts -/

private theorem isSolid_of_mem_quicksave
    {c : Char} (member : c ∈ "quicksave".toList) : IsSolid c := by
  have each : "quicksave".toList.all (fun c => decide (IsSolid c)) = true := by
    decide
  exact of_decide_eq_true (List.all_eq_true.1 each c member)

private theorem isSlug_quicksave : IsSlug "quicksave" where
  characters := fun _ member => .inl (isSolid_of_mem_quicksave member)
  begins := ⟨'q', _, rfl, by decide⟩
  ends := ⟨['q', 'u', 'i', 'c', 'k', 's', 'a', 'v'], 'e', rfl, by decide⟩
  dashes := by
    intro before after split
    have dashIsSolid : IsSolid '-' := isSolid_of_mem_quicksave (by simp [split])
    exact absurd dashIsSolid (by decide)

/-- Every text is made into a slug. -/
theorem isSlug_slug (text : String) : IsSlug (slug text) := by
  simp only [slug]
  split
  · exact isSlug_quicksave
  · rename_i someCharacter
    rcases slugFrom_false_cases false (Text.trimChars text.toList) with nothing |
      ⟨c, rest, written, isSolid, continues⟩
    · exact absurd (by simp [nothing, Text.dropEndWhile]) someCharacter
    · rw [written, dropWhile_underscore_of_isSolid isSolid]
      exact isSlug_dropEndWhile isSolid continues

section

variable {text : String}

theorem IsSlug.isBlank_eq (isSlug : IsSlug text) :
    ∀ c ∈ text.toList, Text.isBlank c = false := by
  intro c member
  rcases isSlug.characters c member with isSolid | rfl | rfl
  · exact isSolid.isBlank_eq
  · decide
  · decide

private theorem IsSlug.trimChars_eq (isSlug : IsSlug text) :
    Text.trimChars text.toList = text.toList := by
  rw [← Text.toList_trim, Text.trim_of_solid isSlug.isBlank_eq]

private theorem IsSlug.slugFrom_eq (isSlug : IsSlug text) :
    slugFrom false false text.toList = text.toList := by
  have continues := continues_of_dashesFollowed isSlug.characters isSlug.dashes
  obtain ⟨c, rest, characters, isSolid⟩ := isSlug.begins
  rw [characters] at continues
  have written := continues.slugFrom_eq
  rw [slugFrom_cons_of_isSolid isSolid] at written
  rw [characters, slugFrom_cons_of_isSolid isSolid]
  exact written

/-- A slug is its own slug. -/
theorem IsSlug.slug_eq (isSlug : IsSlug text) : slug text = text := by
  have front : text.toList.dropWhile (· == '_') = text.toList := by
    obtain ⟨c, rest, characters, isSolid⟩ := isSlug.begins
    rw [characters, dropWhile_underscore_of_isSolid isSolid]
  have back : Text.dropEndWhile (· == '_') text.toList = text.toList := by
    obtain ⟨front, c, characters, isSolid⟩ := isSlug.ends
    rw [characters, Text.dropEndWhile_eq_rdropWhile,
      List.rdropWhile_concat_neg (p := (· == '_'))
        (h := by simpa using isSolid.ne_underscore)]
  have someCharacter : ¬ text.toList.isEmpty = true := by
    simpa using isSlug.ne_empty
  simp only [slug, isSlug.trimChars_eq, isSlug.slugFrom_eq, front, back]
  rw [if_neg someCharacter, String.ofList_toList]

end

end Colloquy.Save
