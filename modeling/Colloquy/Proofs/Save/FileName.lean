import Colloquy.Proofs.Save.Slug
import Colloquy.Proofs.Storage.Walking
import Colloquy.Save.Slots

/-!
# File names of saves

The name of a save's file tells its slot and its version: they stand before and
behind the last separator of the stem, even if the separator occurs in the slot.
A name that tells a slot and a version is made of them.
-/

namespace Colloquy.Save

def isSlugChar (c : Char) : Bool :=
  isSlugLetter c || c == '_' || c == '-'

private theorem isSlugChar_of_mem_slug
    {text : String} {c : Char}
    (member : c ∈ (slug text).toList) :
    isSlugChar c = true := by
  rcases (isSlug_slug text).characters c member with isSolid | rfl | rfl
  · simp [isSlugChar, isSolid.isSlugLetter]
  · rfl
  · rfl

theorem slug_ne_empty (text : String) : slug text ≠ "" :=
  (isSlug_slug text).ne_empty

private theorem eq_append_of_splitLast?
    {sep characters before after : List Char}
    (split : splitLast? sep characters = some (before, after)) :
    characters = before ++ sep ++ after := by
  induction characters generalizing before with
  | nil =>
      cases split
  | cons c rest inductionHypothesis =>
      simp only [splitLast?] at split
      split at split
      · rename_i front back found
        cases split
        rw [inductionHypothesis found]
        rfl
      · split at split
        · rename_i isPrefix
          obtain ⟨back, isWhole⟩ := List.isPrefixOf_iff_prefix.1 isPrefix
          cases split
          rw [← isWhole, List.drop_left, List.nil_append]
        · cases split

/-- Where the end of a text splits, the whole splits. -/
theorem splitLast?_append
    {sep back before after : List Char}
    (split : splitLast? sep back = some (before, after))
    (front : List Char) :
    splitLast? sep (front ++ back) = some (front ++ before, after) := by
  induction front with
  | nil =>
      exact split
  | cons c front inductionHypothesis =>
      simp [splitLast?, inductionHypothesis]

private theorem splitExtension_of_toList
    {name : String} {front extension : List Char}
    (characters : name.toList = front ++ '.' :: extension)
    (nonempty : front ≠ [])
    (noPoint : '.' ∉ extension) :
    Storage.splitExtension name =
      (String.ofList front, some (String.ofList extension)) := by
  have passed : ∀ c ∈ extension.reverse, (c != '.') = true := by
    intro c member
    simp only [bne_iff_ne, ne_eq]
    rintro rfl
    exact noPoint (List.mem_reverse.1 member)
  have reversed : name.toList.reverse = extension.reverse ++ '.' :: front.reverse := by
    simp [characters]
  simp [Storage.splitExtension, reversed, List.takeWhile_append_of_pos passed,
    List.dropWhile_append_of_pos passed, nonempty]

private theorem toList_eq_of_splitExtension
    {name stem extension : String}
    (split : Storage.splitExtension name = (stem, some extension)) :
    name.toList = stem.toList ++ '.' :: extension.toList := by
  simp only [Storage.splitExtension] at split
  split at split
  · rename_i front dropped
    split at split
    · cases split
    · obtain ⟨rfl, sameExtension⟩ := Prod.mk.inj split
      have whole :=
        List.takeWhile_append_dropWhile (p := (· != '.')) (l := name.toList.reverse)
      have reversed := (congrArg List.reverse whole).symm
      rw [dropped, List.reverse_reverse] at reversed
      rw [← Option.some.inj sameExtension]
      exact reversed.trans (by simp)
  · cases split

private theorem toList_fileName (text : String) :
    (fileName text).toList =
      ((slug text).toList ++ separator.toList ++ currentVersion.toList) ++
        '.' :: ['r', 'o', 'n'] := by
  have extension : ".ron".toList = ['.', 'r', 'o', 'n'] := by
    decide
  simp [fileName, String.toList_append, extension]

/-- The file name of a slot tells its slug and this version. -/
theorem slotOfFileName?_fileName (text : String) :
    slotOfFileName? (fileName text) = some (slug text, currentVersion) := by
  have nonempty : (slug text).toList ≠ [] := fun empty =>
    slug_ne_empty text (String.toList_eq_nil_iff.1 empty)
  have split :=
    splitExtension_of_toList (toList_fileName text) (by simp [nonempty]) (by decide)
  have extension : String.ofList ['r', 'o', 'n'] = "ron" := by
    decide
  have lastSeparator :
      splitLast? separator.toList (separator.toList ++ currentVersion.toList) =
      some ([], currentVersion.toList) := by
    decide
  have parts := splitLast?_append lastSeparator (slug text).toList
  rw [List.append_nil] at parts
  simp [slotOfFileName?, Storage.extension?, Storage.stem, split, extension, parts,
    nonempty]

/-- A file name is made of the slot and the version that it tells. -/
theorem eq_append_of_slotOfFileName?
    {name slot version : String}
    (told : slotOfFileName? name = some (slot, version)) :
    name = slot ++ separator ++ version ++ ".ron" := by
  unfold slotOfFileName? at told
  split at told
  · rename_i isRon
    split at told
    · rename_i before after found
      split at told
      · cases told
      · obtain ⟨rfl, rfl⟩ := Prod.mk.inj (Option.some.inj told)
        have whole := toList_eq_of_splitExtension (Prod.ext rfl isRon)
        have parts := eq_append_of_splitLast? found
        have extension : ".ron".toList = '.' :: "ron".toList := by
          decide
        refine String.toList_inj.1 ?_
        rw [whole]
        simp only [String.toList_append, String.toList_ofList, extension]
        rw [← parts]
        rfl
    · cases told
  · cases told

/-- The only file name that tells a slug and this version. -/
theorem eq_fileName_of_slotOfFileName?
    {name text : String}
    (told : slotOfFileName? name = some (slug text, currentVersion)) :
    name = fileName text :=
  eq_append_of_slotOfFileName? told

theorem fileName_eq_of_slug_eq
    {left right : String}
    (same : slug left = slug right) :
    fileName left = fileName right := by
  rw [fileName, same, fileName]

theorem slug_eq_of_fileName_eq
    {left right : String}
    (same : fileName left = fileName right) :
    slug left = slug right := by
  have told := slotOfFileName?_fileName left
  rw [same, slotOfFileName?_fileName] at told
  exact (Prod.mk.inj (Option.some.inj told)).1.symm

/-- The name of a save is a single component of a path. -/
theorem isComponent_fileName (text : String) : Storage.IsComponent (fileName text) := by
  have longEnough : 4 ≤ (fileName text).toList.length := by
    simp [toList_fileName]
    omega
  have notShort :
      ∀ short : String, short.toList.length < 4 → fileName text ≠ short := by
    intro short isShort equal
    rw [equal] at longEnough
    omega
  refine ⟨notShort "" (by decide), notShort "." (by decide), notShort ".." (by decide),
    ?_⟩
  intro slash
  rw [toList_fileName] at slash
  rcases List.mem_append.1 slash with inStem | inExtension
  · rcases List.mem_append.1 inStem with inSlot | inVersion
    · rcases List.mem_append.1 inSlot with inSlug | inSeparator
      · exact absurd (isSlugChar_of_mem_slug inSlug) (by decide)
      · exact absurd inSeparator (by decide)
    · exact absurd inVersion (by decide)
  · exact absurd inExtension (by decide)

/-- What stands for a text in a file name is a slug, which is what stands for
itself. The file name tells it and this version, so that two texts have one file
exactly if they have one slug. -/
theorem slugs_are_canonical_and_file_names_decode (text : String) :
    IsSlug (slug text) ∧ slug (slug text) = slug text ∧
      slotOfFileName? (fileName text) = some (slug text, currentVersion) ∧
      ∀ other, fileName other = fileName text ↔ slug other = slug text := by
  have isSlug := isSlug_slug text
  refine ⟨isSlug, isSlug.slug_eq, slotOfFileName?_fileName text, ?_⟩
  intro other
  exact ⟨slug_eq_of_fileName_eq, fileName_eq_of_slug_eq⟩

/-- A slot whose slug ends in the beginning of the separator. -/
example : fileName "X Parley" = "x-parley-parley-0.3.0.ron" ∧
    slotOfFileName? "x-parley-parley-0.3.0.ron" = some ("x-parley", "0.3.0") := by
  decide +kernel

end Colloquy.Save
