import Colloquy.Proofs.Ron.Numbers
import Colloquy.Save.File

/-!
# The documents of saves

A save's document reads back as the save, whatever texts, names and numbers it holds.
-/

namespace Colloquy.Ron

/-- A text that is one value reads as a document without extensions. -/
theorem readDocument?_of_reads
    {text : String} {result : Value} {c : Char}
    (starts : StartsWith text.toList c)
    (notHash : c ≠ '#')
    (reads : Reads (value nestingLimit) text.toList result) :
    readDocument? text = some ⟨{}, result⟩ := by
  have atText : skip text.toList = some text.toList := by
    simpa using starts.skip_append []
  have noAttributes :
      attributesFrom (text.toList.length + 1) {} text.toList =
        some ({}, text.toList) := by
    obtain ⟨tail, isCons⟩ := starts.eq_cons
    rw [isCons] at atText ⊢
    simp [attributesFrom, atText, notHash]
  have read : value nestingLimit text.toList = some (result, []) := by
    simpa using reads.read [] (by intro c head; cases head)
  have atEnd : skip [] = some [] := rfl
  simp [readDocument?, noAttributes, atText, read, atEnd]

/-- A list of what encodes data is the list of the data. -/
theorem list?_map
    {α : Type} {decoder : Decoder α} {encode : α → Value} {data : List α}
    (each : ∀ entry ∈ data, decoder (encode entry) = some entry) :
    list? decoder (.list (data.map encode)) = some data := by
  simp only [list?]
  induction data with
  | nil =>
      rfl
  | cons head tail inductionHypothesis =>
      have others := inductionHypothesis fun entry member =>
        each entry (List.mem_cons_of_mem _ member)
      simp [each head List.mem_cons_self, others]

private theorem pair?_of_halves
    {α β : Type} {first : Decoder α} {second : Decoder β} {left right : Value} {a : α}
    {b : β}
    (readsLeft : first left = some a)
    (readsRight : second right = some b) :
    pair? first second (.tuple none [left, right]) = some (a, b) := by
  simp [pair?, readsLeft, readsRight]

private theorem option?_optionalText
    (extensions : Extensions) (budget : Nat) (text : Option String) :
    option? extensions budget text? (optionalText text) = some text := by
  cases text with
  | none =>
      rfl
  | some content =>
      rfl

private theorem decode_eq_ok
    {α : Type} {decoder : Extensions → Decoder α} {text : String} {document : Document}
    {data : α}
    (read : readDocument? text = some document)
    (decoded : decoder document.extensions document.value = some data) :
    decode decoder text = .ok data := by
  simp [decode, read, decoded]

end Colloquy.Ron

namespace Colloquy.Save.File

open Colloquy.Flag (Snapshot)
open Colloquy.Ron

def printEntries
    {α : Type} (print : α → List Char) (level : Nat) (entries : List (String × α)) :
    List Char :=
  printList level
    (entries.map fun entry => printPair (printText entry.1) (print entry.2))

def entriesValue
    {α : Type} (encode : α → Value) (entries : List (String × α)) : Value :=
  .list (entries.map fun entry => .tuple none [.text entry.1, encode entry.2])

def integerValue (data : Int32) : Value :=
  .number (Number.showInt data.toInt)

def floatValue (data : Number.Single) : Value :=
  .number data.decimalText

def snapshotValue (flags : Snapshot) : Value :=
  .fields none [
    ("bools", .list (flags.bools.map .text)),
    ("ints", entriesValue integerValue flags.ints),
    ("floats", entriesValue floatValue flags.floats),
    ("strings", entriesValue .text flags.strings)]

def fileValue (file : File) : Value :=
  .fields none [
    ("version", .text file.version),
    ("saved_at_trigger", optionalText file.trigger),
    ("flags", snapshotValue file.flags)]

private theorem reads_printEntries
    {α : Type} {print : α → List Char} {encode : α → Value} {budget : Nat}
    (each : ∀ data, Reads (value budget) (print data) (encode data))
    (level : Nat) (entries : List (String × α)) :
    Reads (value (budget + 4)) (printEntries print level entries)
      (entriesValue encode entries) := by
  have eachPair : ∀ entry ∈ entries,
      Reads (value (budget + 2)) (printPair (printText entry.1) (print entry.2))
        (.tuple none [.text entry.1, encode entry.2]) := fun entry _ =>
    reads_printPair (startsWith_printText entry.1) (reads_printText budget entry.1)
      (each entry.2)
  exact reads_printList eachPair level

private theorem reads_printSnapshot (budget level : Nat) (flags : Snapshot) :
    Reads (value (budget + 6)) (printSnapshot level flags) (snapshotValue flags) := by
  have bools :
      ∀ name ∈ flags.bools, Reads (value (budget + 2)) (printText name) (.text name) :=
    fun name _ => reads_printText (budget + 2) name
  refine reads_printRecord (budget + 4) [
    ("bools", printList (level + 1) (flags.bools.map printText),
      .list (flags.bools.map .text)),
    ("ints", printEntries printInteger (level + 1) flags.ints,
      entriesValue integerValue flags.ints),
    ("floats", printEntries printFloat (level + 1) flags.floats,
      entriesValue floatValue flags.floats),
    ("strings", printEntries printText (level + 1) flags.strings,
      entriesValue .text flags.strings)] ?_ ?_ (by simp) level
  · simp only [List.forall_mem_cons, List.not_mem_nil, false_implies, implies_true,
      and_true]
    decide +kernel
  · simp only [List.forall_mem_cons, List.not_mem_nil, false_implies, implies_true,
      and_true]
    exact ⟨reads_printList bools (level + 1),
      reads_printEntries (reads_printInteger budget) (level + 1) flags.ints,
      reads_printEntries (reads_printFloat budget) (level + 1) flags.floats,
      reads_printEntries (reads_printText budget) (level + 1) flags.strings⟩

private theorem startsWith_document (file : File) :
    StartsWith file.document.toList '(' := by
  have printed : file.document.toList.head? = some '(' := by
    simp [document, printRecord, layOut]
  exact ⟨printed, by decide, by decide, by decide⟩

private theorem reads_document_of_budget (budget : Nat) (file : File) :
    Reads (value (budget + 8)) file.document.toList (fileValue file) := by
  have record := reads_printRecord (budget + 6) [
    ("version", printText file.version, .text file.version),
    ("saved_at_trigger", printOptionalText file.trigger, optionalText file.trigger),
    ("flags", printSnapshot 1 file.flags, snapshotValue file.flags)]
    (by
      simp only [List.forall_mem_cons, List.not_mem_nil, false_implies, implies_true,
        and_true]
      decide +kernel)
    (by
      simp only [List.forall_mem_cons, List.not_mem_nil, false_implies, implies_true,
        and_true]
      exact ⟨reads_printText (budget + 6) file.version,
        reads_printOptionalText (budget + 5) file.trigger,
        reads_printSnapshot budget 1 file.flags⟩)
    (by simp) 0
  simp only [List.map_cons, List.map_nil] at record
  rw [document, String.toList_ofList]
  exact record

/-- The nesting of a save is far within the limit. -/
theorem reads_document (file : File) :
    Reads (value nestingLimit) file.document.toList (fileValue file) :=
  reads_document_of_budget 120 file

/-! ## What is read -/

private theorem list?_entriesValue
    {α : Type} {decoder : Decoder α} {encode : α → Value} {entries : List (String × α)}
    (each : ∀ data, decoder (encode data) = some data) :
    list? (pair? text? decoder) (entriesValue encode entries) = some entries :=
  list?_map fun entry _ => pair?_of_halves rfl (each entry.2)

private theorem readSnapshot?_snapshotValue (flags : Snapshot) :
    readSnapshot? {} (snapshotValue flags) = some flags := by
  have bools : list? text? (.list (flags.bools.map .text)) = some flags.bools :=
    list?_map fun _ _ => rfl
  have ints : list? (pair? text? integer?) (entriesValue integerValue flags.ints) =
      some flags.ints :=
    list?_entriesValue int32?_showInt
  have floats : list? (pair? text? float?) (entriesValue floatValue flags.floats) =
      some flags.floats :=
    list?_entriesValue single32?_decimalText
  have strings : list? (pair? text? text?) (entriesValue .text flags.strings) =
      some flags.strings :=
    list?_entriesValue fun _ => rfl
  simp [readSnapshot?, snapshotValue, record?, fieldsAreReadable, defaulted?,
    List.lookup_cons, bools, ints, floats, strings]

private theorem readFile?_of_fields
    {version trigger flags : Value} {file : File}
    (isVersion : text? version = some file.version)
    (isTrigger : option? {} nestingLimit text? trigger = some file.trigger)
    (isFlags : readSnapshot? {} flags = some file.flags) :
    readFile? {} (.fields none
      [("version", version), ("saved_at_trigger", trigger), ("flags", flags)]) =
      some file := by
  let entries := [("version", version), ("saved_at_trigger", trigger), ("flags", flags)]
  have record : record? {} "SaveFile" ["version", "saved_at_trigger", "flags"]
      (.fields none entries) = some entries := by
    simp [record?, fieldsAreReadable, entries]
  have readVersion : required? entries "version" text? = some file.version := by
    simp [required?, entries, isVersion]
  have readTrigger : defaulted? entries "saved_at_trigger" none
      (option? {} nestingLimit text?) = some file.trigger := by
    simpa [defaulted?, List.lookup_cons, entries] using isTrigger
  have readFlags : required? entries "flags" (readSnapshot? {}) = some file.flags := by
    simp [required?, List.lookup_cons, entries, isFlags]
  simp only [readFile?, record, readVersion, readTrigger, readFlags,
    Option.bind_eq_bind, Option.bind_some, entries]

private theorem readFile?_fileValue (file : File) :
    readFile? {} (fileValue file) = some file :=
  readFile?_of_fields rfl (option?_optionalText {} nestingLimit file.trigger)
    (readSnapshot?_snapshotValue file.flags)

/-- The document of a save is read as the save. -/
theorem ofDocument_document (file : File) : ofDocument file.document = .ok file :=
  decode_eq_ok
    (readDocument?_of_reads (startsWith_document file) (by decide)
      (reads_document file))
    (readFile?_fileValue file)

end Colloquy.Save.File
