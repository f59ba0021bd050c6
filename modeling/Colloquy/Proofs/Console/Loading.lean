import Colloquy.Proofs.Command.Reading
import Colloquy.Proofs.Console.Courses
import Colloquy.Proofs.Save.FileName
import Colloquy.Proofs.Save.Listing

/-!
# Loading what is listed

The names that a console lists and completes come from file names, and a name
that is asked for is turned into its slug before it is looked up. A listed name
that is its own slug is found. Any other is not: at best its slug is a name of
another save.
-/

namespace Colloquy

open Colloquy.Storage (Disk)

private theorem Save.isWord_slug (text : String) : Text.IsWord (slug text) :=
  ⟨slug_ne_empty text, (isSlug_slug text).isBlank_eq⟩

namespace Command

def loadLine (name : String) : String :=
  "load " ++ name

private theorem read_loadLine
    {name : String}
    (isWord : Text.IsWord name) :
    read (loadLine name) = .load name := by
  have loadIsWord : Text.IsWord "load" := Text.isWord_of_all (by decide) (by decide)
  have split : loadLine name = "load" ++ " " ++ name := rfl
  have single : Text.words name = [name] := Text.words_of_isWord isWord
  rw [split, read_word_append loadIsWord (by simp [single]), single]
  exact congrArg Command.load String.intercalate_singleton

end Command

namespace Console

def noSave (name : String) : Item :=
  .problem ("No save named '" ++ name ++ "'. Try 'saves'.")

section Loading

variable {setting : Setting} {console : Console}

private theorem noSave_ne_of_head
    {message : String} {name : String}
    (other : message.toList.head? ≠ some 'N') :
    noSave name ≠ .problem message := by
  intro same
  have sameMessage := Item.problem.inj same
  refine other ?_
  rw [← sameMessage]
  simp

private theorem noSave_not_mem_restore {name slot : String} {found : Save.Slot} :
    noSave name ∉ (console.restore slot found).items := by
  have notVersion : ∀ status, noSave name ∉ versionNotice status := by
    intro status
    unfold versionNotice
    split
    · simp [noSave]
    · simp
  have notFailed : ∀ failure, noSave name ≠ loadProblem slot failure := fun failure =>
    noSave_ne_of_head (by simp)
  unfold restore
  split
  · rename_i failure _
    simpa using notFailed failure
  · split
    · rename_i failure _
      rw [List.mem_append, not_or, List.mem_singleton]
      exact ⟨notVersion _, notFailed failure⟩
    · rw [List.mem_append, not_or, List.mem_singleton]
      exact ⟨notVersion _, by simp [noSave]⟩

private theorem noSave_mem_items_iff (name : String) :
    noSave name ∈ (console.execute setting (.load name)).items ↔
      console.session.isActive = false ∧
        Save.find? console.disk setting.saveDirectory name = .ok none := by
  rw [execute_eq_settled rfl Command.noConfusion]
  simp only [perform, unlessActive]
  cases active : console.session.isActive with
  | true =>
      have notClosed : noSave name ≠
          .problem ("Close the conversation before you " ++ "load" ++ " flags.") :=
        noSave_ne_of_head (by simp)
      simpa using notClosed
  | false =>
      simp only [load, Bool.false_eq_true, if_false, true_and]
      cases search : Save.find? console.disk setting.saveDirectory name with
      | error failure =>
          have notFailed : noSave name ≠ loadProblem name failure :=
            noSave_ne_of_head (by simp)
          simpa using notFailed
      | ok found =>
          cases found with
          | none =>
              simp [noSave]
          | some found =>
              simpa using noSave_not_mem_restore

/-! ## Loading a name that is shown -/

/-- A name under which a save is listed, or which is offered to complete a line
that loads one. -/
def Shown (disk : Disk) (directory name : String) : Prop :=
  (∃ listed, Save.entries disk directory = .ok listed ∧
    ∃ entry ∈ listed, entry.slot = name) ∨
    ∃ source line, source.saveDirectory = directory ∧
      Text.words (String.ofList (Completion.headOf line)) = ["load"] ∧
        name ∈ (Completion.complete disk source line).candidates

private theorem told_of_shown
    {disk : Disk} {directory name : String}
    (shown : Shown disk directory name) :
    Save.Told disk directory name := by
  rcases shown with listed | ⟨source, line, rfl, isLoad, offered⟩
  · exact Save.told_iff_listed.1 listed
  · have pool : Completion.pool disk source ["load"] =
        Save.slotNames disk source.saveDirectory := rfl
    simp only [Completion.complete, isLoad, pool, List.mem_filter] at offered
    exact Save.told_iff_mem_slotNames.1 offered.1

/-- What asking for a name comes to. -/
structure AskedFor (setting : Setting) (console : Console) (name : String) : Prop where
  /-- A save of that name is found exactly if the name is its own slug. -/
  found_iff :
    (∃ found, Save.find? console.disk setting.saveDirectory name = .ok (some found) ∧
      found.slot = name) ↔ Save.slug name = name
  /-- In that case the line that asks for the name is not told that there is none. -/
  answered : Save.slug name = name →
    noSave name ∉ (console.execute setting (.read (Command.loadLine name))).items
  /-- In general it is told so if no save has the slug as its name. -/
  unanswered_iff : noSave name ∈ (console.execute setting (.load name)).items ↔
    console.session.isActive = false ∧
      ¬ Save.Told console.disk setting.saveDirectory (Save.slug name)

/-- Whatever files are in the directory of saves, a name that is listed or
offered is found under that name exactly if it is its own slug. -/
theorem askedFor_of_shown
    {setting : Setting} {console : Console} {name : String}
    (shown : Shown console.disk setting.saveDirectory name) :
    AskedFor setting console name := by
  have told := told_of_shown shown
  obtain ⟨found, search, foundNone, foundSlug⟩ := Save.exists_find?_eq_of_told told name
  have unanswered : noSave name ∈ (console.execute setting (.load name)).items ↔
      console.session.isActive = false ∧
        ¬ Save.Told console.disk setting.saveDirectory (Save.slug name) := by
    rw [noSave_mem_items_iff, search, Except.ok.injEq, foundNone]
  refine ⟨⟨?_, ?_⟩, ?_, unanswered⟩
  · rintro ⟨entry, isFound, sameName⟩
    rw [search] at isFound
    rw [← foundSlug entry (Except.ok.inj isFound), sameName]
  · intro isSlug
    have isSome : found ≠ none := by
      rw [ne_eq, foundNone, isSlug, not_not]
      exact told
    obtain ⟨entry, rfl⟩ := Option.ne_none_iff_exists'.1 isSome
    exact ⟨entry, search, (foundSlug entry rfl).trans isSlug⟩
  · intro isSlug
    have isWord : Text.IsWord name := by
      rw [← isSlug]
      exact Save.isWord_slug name
    rw [Command.read_loadLine isWord, unanswered, isSlug]
    exact fun answer => answer.2 told

end Loading

/-- A save under the name that the program gave it, and one that was renamed by hand. -/
def renamedSaves : Disk where
  items := [
    (["saves"], .directory),
    (["saves", "my-save-parley-0.3.0.ron"], .file (.text "") 1),
    (["saves", "Other Save-parley-0.3.0.ron"], .file (.text "") 2)]
  now := 3

def renamedSetting : Setting where
  graph := {}
  saveDirectory := "saves"

def renamedItems : List (String × Storage.Item) := [
  ("my-save-parley-0.3.0.ron", .file (.text "") 1),
  ("Other Save-parley-0.3.0.ron", .file (.text "") 2)]

private theorem told_renamedSaves_iff {name : String} :
    Save.Told renamedSaves "saves" name ↔ name ∈ ["my-save", "Other Save"] := by
  have isThere : renamedSaves.exists? "saves" = true := by
    decide +kernel
  have items : renamedSaves.list "saves" = .ok renamedItems := by
    decide +kernel
  have names : (renamedItems.filterMap (Save.slotOfItem? "saves")).map (·.slot) =
      ["my-save", "Other Save"] := by
    decide +kernel
  rw [Save.told_iff, isThere, items]
  simp only [Except.ok.injEq, exists_eq_left', names, true_and]

/-- The save that was not renamed is found by its name. -/
theorem askedFor_my_save :
    Shown renamedSaves "saves" "my-save" ∧
      AskedFor renamedSetting { disk := renamedSaves } "my-save" ∧
        Save.slug "my-save" = "my-save" := by
  have shown : Shown renamedSaves "saves" "my-save" :=
    .inl (Save.told_iff_listed.2 (told_renamedSaves_iff.2 (by decide)))
  have askedFor : AskedFor renamedSetting { disk := renamedSaves } "my-save" :=
    askedFor_of_shown shown
  exact ⟨shown, askedFor, by decide +kernel⟩

/-- The other one is listed, and asking for it is answered with that there is none. -/
theorem renamed_save_is_listed_but_not_found :
    Shown renamedSaves "saves" "Other Save" ∧
      Save.find? renamedSaves "saves" "Other Save" = .ok none ∧
        noSave "Other Save" ∈
          (({ disk := renamedSaves } : Console).execute renamedSetting
            (.read (Command.loadLine "Other Save"))).items := by
  have told : Save.Told renamedSaves "saves" "Other Save" :=
    told_renamedSaves_iff.2 (by decide)
  have isRead : Command.read (Command.loadLine "Other Save") = .load "Other Save" := by
    decide +kernel
  obtain ⟨found, search, foundNone, -⟩ := Save.exists_find?_eq_of_told told "Other Save"
  have noneFound : found = none := by
    rw [foundNone, told_renamedSaves_iff]
    decide +kernel
  have shown : Shown renamedSaves "saves" "Other Save" :=
    .inl (Save.told_iff_listed.2 told)
  have answered : noSave "Other Save" ∈ (({ disk := renamedSaves } : Console).execute
      renamedSetting (.read (Command.loadLine "Other Save"))).items := by
    rw [isRead, noSave_mem_items_iff]
    exact ⟨rfl, noneFound ▸ search⟩
  exact ⟨shown, noneFound ▸ search, answered⟩

end Console

end Colloquy
