import Colloquy.Proofs.Command.Reading
import Colloquy.Proofs.Console.Courses
import Colloquy.Proofs.Flag.Assigning
import Colloquy.Proofs.Flag.Target

/-!
# Removing flags that were set

A line that sets a flag takes its name from all further words, but a line that
removes one takes a single word. So a flag that a line has set can be removed by
its name exactly if that is one word.
-/

namespace Colloquy

open Colloquy.Flag (Assignment Kind Store Target)

namespace Flag

/-- A write binds a target of the trimmed name. -/
theorem Assignment.exists_write?_eq_bindAt
    {assignment : Assignment} {store written : Store}
    (isWritten : assignment.write? store = some written) :
    ∃ (target : Target) (value : target.kind.Value),
      target.name = Text.trim assignment.name ∧
      written = store.bindAt target value := by
  cases assignment with
  | bool name =>
      simp only [write?, Store.setBool?] at isWritten
      obtain ⟨-, rfl⟩ := of_map_name?_eq_some isWritten
      exact ⟨⟨.bool, Text.trim name⟩, (), rfl, rfl⟩
  | int name value =>
      simp only [write?, Store.setInt?] at isWritten
      obtain ⟨-, rfl⟩ := of_map_name?_eq_some isWritten
      exact ⟨⟨.int, Text.trim name⟩, value, rfl, rfl⟩
  | float name value =>
      simp only [write?, Store.setFloat?] at isWritten
      obtain ⟨-, rfl⟩ := of_map_name?_eq_some isWritten
      exact ⟨⟨.float, Text.trim name⟩, value, rfl, rfl⟩
  | text name value =>
      simp only [write?, Store.setString?] at isWritten
      obtain ⟨-, rfl⟩ := of_map_name?_eq_some isWritten
      exact ⟨⟨.string, Text.trim name⟩, Text.trim value, rfl, rfl⟩

section Writes

variable {assignment : Assignment} {store written : Store}

/-- A written flag is bound in some namespace. -/
theorem Assignment.exists_value?_of_write?
    (isWritten : assignment.write? store = some written) :
    ∃ kind, written.value? ⟨kind, Text.trim assignment.name⟩ ≠ none := by
  obtain ⟨target, value, isTarget, rfl⟩ := exists_write?_eq_bindAt isWritten
  refine ⟨target.kind, ?_⟩
  rw [← isTarget, Store.value?_bindAt_self]
  exact Option.some_ne_none value

/-- Flags of other names are not written. -/
theorem Assignment.value?_of_write?
    (isWritten : assignment.write? store = some written)
    {other : Target}
    (different : other.name ≠ Text.trim assignment.name) :
    written.value? other = store.value? other := by
  obtain ⟨target, value, isTarget, rfl⟩ := exists_write?_eq_bindAt isWritten
  apply Store.value?_bindAt_of_ne
  rintro rfl
  exact different isTarget

end Writes

end Flag

namespace Console

section Developers

variable {setting : Setting} {console : Console}

private theorem execute_set_of_write?
    (developer : setting.developer = true)
    (closed : console.session.isActive = false)
    {assignment : Assignment} {flags : Store}
    (isWritten : assignment.write? console.flags = some flags) :
    (console.execute setting (.set assignment)).console.flags = flags ∧
      (console.execute setting (.set assignment)).console.session =
        console.session := by
  rw [execute_of_allowed (fun _ => developer) Command.noConfusion]
  simp [perform, unlessActive, closed, set, isWritten]

private theorem value?_execute_unset
    (developer : setting.developer = true)
    (closed : console.session.isActive = false)
    (name : String) (target : Target) :
    (console.execute setting (.unset name)).console.flags.value? target =
      if target.name = Text.trim name then none else console.flags.value? target := by
  rw [← Store.value?_remove,
    execute_of_allowed (fun _ => developer) Command.noConfusion]
  simp [perform, unlessActive, closed, unset]

private theorem flags_execute_unknown :
    (console.execute setting .unknown).console.flags = console.flags := by
  rw [execute_eq_settled rfl Command.noConfusion, settle_flags]
  rfl

end Developers

def setLine (text : String) : String :=
  "set " ++ text

/-- What it comes to that a name was set and its removal is asked for. -/
structure RemovedAsWord
    (setting : Setting) (before after : Console) (name : String) : Prop where
  /-- A name of one word goes from all namespaces, and every other flag is as it
  was at first. -/
  removed : Text.IsWord name → ∀ target,
    (after.execute setting (.read (Command.unsetLine name))).console.flags.value?
      target =
      if target.name = name then none else before.flags.value? target
  /-- Any other name has been set, and the line is not understood. -/
  refused : ¬ Text.IsWord name → Command.read (Command.unsetLine name) = .unknown ∧
    ∃ kind, after.flags.value? ⟨kind, name⟩ ≠ none ∧
      (after.execute setting (.read (Command.unsetLine name))).console.flags =
        after.flags
  /-- No other line removes it either. -/
  irremovable : ¬ Text.IsWord name →
    ∀ line other kind, Command.read line = .unset other →
    (after.execute setting (.read line)).console.flags.value? ⟨kind, name⟩ =
      after.flags.value? ⟨kind, name⟩

/-- A flag that a line has set is removed by its name if that is one word, and
by no line if it is more. -/
theorem assigned_name_is_removed_as_word
    {setting : Setting} {console : Console} {text : String} {assignment : Assignment}
    {flags : Store}
    (developer : setting.developer = true)
    (closed : console.session.isActive = false)
    (isSet : Command.read (setLine text) = .set assignment)
    (isWritten : assignment.write? console.flags = some flags) :
    RemovedAsWord setting console
      (console.execute setting (.read (setLine text))).console
      assignment.name := by
  obtain ⟨input, isRead⟩ := Command.exists_read?_of_read_eq_set isSet
  have trimmed : Text.trim assignment.name = assignment.name :=
    Assignment.trim_name_of_read? isRead
  have nonempty : assignment.name ≠ "" :=
    Assignment.name_ne_empty_of_read? isRead
  obtain ⟨flagsAfter, sessionAfter⟩ := execute_set_of_write? developer closed isWritten
  rw [isSet]
  generalize (console.execute setting (.set assignment)).console = after
    at flagsAfter sessionAfter
  subst flagsAfter
  have closedAfter : after.session.isActive = false := by
    rw [sessionAfter]
    exact closed
  have unread : ¬ Text.IsWord assignment.name →
      Command.read (Command.unsetLine assignment.name) = .unknown :=
    Command.read_unsetLine_of_not_isWord nonempty trimmed
  refine ⟨?_, ?_, ?_⟩
  · intro isWord other
    rw [Command.read_unsetLine_of_isWord isWord,
      value?_execute_unset developer closedAfter, trimmed]
    by_cases same : other.name = assignment.name
    · rw [if_pos same, if_pos same]
    · rw [if_neg same, if_neg same]
      apply Assignment.value?_of_write? isWritten
      rwa [trimmed]
  · intro notWord
    obtain ⟨kind, isHeld⟩ := Assignment.exists_value?_of_write? isWritten
    rw [trimmed] at isHeld
    refine ⟨unread notWord, kind, isHeld, ?_⟩
    rw [unread notWord, flags_execute_unknown]
  · intro notWord line other kind isUnset
    have otherIsWord : Text.IsWord other := Command.isWord_of_read_eq_unset isUnset
    have different : assignment.name ≠ Text.trim other := by
      rw [Text.trim_of_solid otherIsWord.2]
      intro same
      exact notWord (same ▸ otherIsWord)
    rw [isUnset, value?_execute_unset developer closedAfter, if_neg different]

/-- A console that holds one name in two namespaces. -/
def holdingGold : Console where
  flags := { bools := .insert .empty "gold" (), strings := .insert .empty "gold" "ore" }

/-- The name is assigned to a third namespace, and goes from all of them. -/
theorem removed_gold :
    Command.read (setLine " gold = 1e3 ") = .set (.ofValue "gold" "1e3") ∧
      RemovedAsWord developing holdingGold
        (holdingGold.execute developing (.read (setLine " gold = 1e3 "))).console
          "gold" ∧
          ∀ kind, ((holdingGold.execute developing
            (.read (setLine " gold = 1e3 "))).console.execute developing
              (.read (Command.unsetLine "gold"))).console.flags.value? ⟨kind, "gold"⟩ =
              none := by
  have isSet :
      Command.read (setLine " gold = 1e3 ") = .set (.ofValue "gold" "1e3") := by
    decide +kernel
  have isWritten : ∃ flags,
      (Assignment.ofValue "gold" "1e3").write? holdingGold.flags = some flags :=
    Option.isSome_iff_exists.1 (by decide +kernel)
  obtain ⟨flags, isWritten⟩ := isWritten
  have removes : RemovedAsWord developing holdingGold _
      (Assignment.ofValue "gold" "1e3").name :=
    assigned_name_is_removed_as_word rfl rfl isSet isWritten
  rw [Assignment.name_ofValue] at removes
  have isWord : Text.IsWord "gold" := Text.isWord_of_all (by decide) (by decide)
  refine ⟨isSet, removes, fun kind => ?_⟩
  rw [removes.removed isWord, if_pos rfl]

/-- A name of two words can be set, but the line that removes it is not understood. -/
theorem name_of_two_words_is_not_removed :
    ∃ flags,
      Command.read (setLine "met hero") = .set (.bool "met hero") ∧
        (Assignment.bool "met hero").write? .empty = some flags ∧
          (((({} : Console).execute developing
            (.read (setLine "met hero"))).console.execute developing
              (.read (Command.unsetLine "met hero"))).console.flags.hasBool
              "met hero") = true := by
  refine ⟨_, by decide +kernel, rfl, by decide +kernel⟩

end Console

end Colloquy
