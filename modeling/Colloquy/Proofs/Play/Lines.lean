import Colloquy.Play
import Colloquy.Proofs.Text.Bytes
import Colloquy.Proofs.Text.Words

/-!
# What lines of input enter

Lines may end in a line feed alone or behind a carriage return, and the last one
need not end at all. What is read enters the same commands in each of these
forms: a carriage return that is left at the end of a line is a blank behind its
last word, and bytes are text with it exactly if they are text without it.
-/

namespace Colloquy.Text

private theorem fromUTF8?_eq_some_iff {line : List UInt8} {text : String} :
    String.fromUTF8? ⟨line.toArray⟩ = some text ↔ bytes text = line := by
  unfold String.fromUTF8?
  constructor
  · intro decoded
    split at decoded
    · obtain rfl := Option.some.inj decoded
      rfl
    · cases decoded
  · rintro rfl
    have same : (⟨(bytes text).toArray⟩ : ByteArray) = text.toByteArray := rfl
    rw [same, dif_pos text.isValidUTF8]
    rfl

private theorem bytes_push_return (text : String) :
    bytes (text.push '\r') = bytes text ++ [13] := by
  have oneByte : String.utf8EncodeChar '\r' = [13] := by decide
  simp [bytes_eq_flatMap, oneByte]

/-- Only a carriage return ends in its byte: bytes behind a first one are greater. -/
theorem eq_return_of_utf8EncodeChar_eq
    {c : Char} {front : List UInt8}
    (ends : String.utf8EncodeChar c = front ++ [13]) :
    c = '\r' ∧ front = [] := by
  rw [utf8EncodeChar_eq_cons] at ends
  cases count : continuationCount c.toNat with
  | zero =>
      rw [count, continuation] at ends
      have single : [] = front ∧ UInt8.ofNat (leadByte c.toNat) = 13 :=
        List.append_singleton_inj.1 ends
      have lead : leadByte c.toNat = c.toNat := by
        simp [leadByte, count, marker]
      have code : c.toNat = 13 := by
        have sameByte := congrArg UInt8.toNat single.2
        rwa [lead, UInt8.toNat_ofNat_of_lt'
          (lead ▸ leadByte_lt (toNat_lt c))] at sameByte
      exact ⟨Char.toNat_inj.1 code, single.1.symm⟩
  | succ more =>
      rw [count, continuation, ← List.cons_append] at ends
      have last : UInt8.ofNat (c.toNat % 64 + 128) = 13 :=
        (List.append_singleton_inj.1 ends).2
      have sameByte := congrArg UInt8.toNat last
      rw [UInt8.toNat_ofNat_of_lt' (by change _ < 256; omega)] at sameByte
      change c.toNat % 64 + 128 = 13 at sameByte
      omega

private theorem exists_eq_push_return
    {text : String} {line : List UInt8}
    (ends : bytes text = line ++ [13]) :
    ∃ front : String, text = front.push '\r' ∧ bytes front = line := by
  rcases List.eq_nil_or_concat text.toList with empty | ⟨front, last, split⟩
  · simp [bytes_eq_flatMap, empty] at ends
  · rw [List.concat_eq_append] at split
    obtain ⟨initial, final, encoded⟩ : ∃ initial final,
        String.utf8EncodeChar last = initial ++ [final] := by
      rcases List.eq_nil_or_concat (String.utf8EncodeChar last) with none |
        ⟨initial, final, some⟩
      · rw [utf8EncodeChar_eq_cons] at none
        cases none
      · exact ⟨initial, final, by rw [some, List.concat_eq_append]⟩
    rw [bytes_eq_flatMap, split, List.flatMap_append, List.flatMap_singleton, encoded,
      ← List.append_assoc] at ends
    obtain ⟨sameFront, rfl⟩ := List.append_singleton_inj.1 ends
    obtain ⟨rfl, rfl⟩ := eq_return_of_utf8EncodeChar_eq encoded
    refine ⟨String.ofList front, String.toList_injective ?_, ?_⟩
    · rw [split, String.toList_push, String.toList_ofList]
    · rw [bytes_eq_flatMap, String.toList_ofList, ← sameFront, List.append_nil]

private theorem words_push_return (text : String) :
    words (text.push '\r') = words text := by
  have isReturn : isBlank '\r' = true := rfl
  rw [words_eq_append_of_split isReturn (String.toList_push '\r'), String.ofList_toList]
  exact List.append_nil _

end Colloquy.Text

namespace Colloquy.InputLine

/-- What a line enters: a command, unless its bytes are no text. -/
def entry (line : List UInt8) : Option Command :=
  (String.fromUTF8? ⟨line.toArray⟩).map Command.read

private theorem entry_concat_return (line : List UInt8) :
    entry (line ++ [13]) = entry line := by
  cases decoded : String.fromUTF8? ⟨line.toArray⟩ with
  | some text =>
      have withReturn :
          String.fromUTF8? ⟨(line ++ [13]).toArray⟩ = some (text.push '\r') := by
        rw [Text.fromUTF8?_eq_some_iff, Text.bytes_push_return,
          Text.fromUTF8?_eq_some_iff.1 decoded]
      rw [entry, entry, withReturn, decoded, Option.map_some, Option.map_some,
        Command.read, Text.words_push_return, Command.read]
  | none =>
      have withReturn : String.fromUTF8? ⟨(line ++ [13]).toArray⟩ = none := by
        by_contra some
        obtain ⟨text, isText⟩ := Option.ne_none_iff_exists'.1 some
        obtain ⟨front, -, sameBytes⟩ :=
          Text.exists_eq_push_return (Text.fromUTF8?_eq_some_iff.1 isText)
        rw [Text.fromUTF8?_eq_some_iff.2 sameBytes] at decoded
        cases decoded
      rw [entry, entry, withReturn, decoded]

/-- What is left of a line without its ending enters the same. -/
theorem map_read_decode (line : List UInt8) (ended : Bool) :
    (decode (line, ended)).map Command.read = entry line := by
  unfold decode content
  split
  · next returned =>
      simp only [Bool.and_eq_true, beq_iff_eq] at returned
      change entry line.dropLast = entry line
      rw [← entry_concat_return, List.dropLast_append_getLast? 13 returned.2]
  · rfl

/-- The bytes of lines. Each line ends in a line feed, or in a carriage return
and a line feed; the last one may end with the input, unless it is empty. -/
inductive IsInput : List (List UInt8) → List UInt8 → Prop
  | empty : IsInput [] []
  | unended {line : List UInt8} : line ≠ [] → IsInput [line] line
  | fed (line : List UInt8) {others : List (List UInt8)} {bytes : List UInt8} :
      IsInput others bytes → IsInput (line :: others) (line ++ 10 :: bytes)
  | returned (line : List UInt8) {others : List (List UInt8)} {bytes : List UInt8} :
      IsInput others bytes → IsInput (line :: others) (line ++ 13 :: 10 :: bytes)

private theorem split_append_feed
    {line : List UInt8}
    (noFeed : 10 ∉ line)
    (rest : List UInt8) :
    split (line ++ 10 :: rest) = (line, true) :: split rest := by
  induction line with
  | nil =>
      rw [List.nil_append, split, if_pos rfl]
  | cons byte tail inductionHypothesis =>
      have notFeed : byte ≠ 10 := (List.ne_of_not_mem_cons noFeed).symm
      have tailNoFeed : 10 ∉ tail := List.not_mem_of_not_mem_cons noFeed
      rw [List.cons_append, split, if_neg notFeed, inductionHypothesis tailNoFeed]

private theorem split_of_no_feed
    {line : List UInt8}
    (nonempty : line ≠ [])
    (noFeed : 10 ∉ line) :
    split line = [(line, false)] := by
  induction line with
  | nil =>
      exact absurd rfl nonempty
  | cons byte tail inductionHypothesis =>
      have notFeed : byte ≠ 10 := (List.ne_of_not_mem_cons noFeed).symm
      have tailNoFeed : 10 ∉ tail := List.not_mem_of_not_mem_cons noFeed
      rw [split, if_neg notFeed]
      cases tail with
      | nil =>
          rfl
      | cons second rest =>
          rw [inductionHypothesis (List.cons_ne_nil _ _) tailNoFeed]

/-- What is read of an input enters what its lines enter. -/
theorem map_read_ofBytes
    {lines : List (List UInt8)} {bytes : List UInt8}
    (noFeed : ∀ line ∈ lines, 10 ∉ line)
    (isInput : IsInput lines bytes) :
    (ofBytes bytes).map (Option.map Command.read) = lines.map entry := by
  unfold ofBytes
  induction isInput with
  | empty =>
      rfl
  | unended nonempty =>
      have lineNoFeed := noFeed _ (List.mem_singleton_self _)
      rw [split_of_no_feed nonempty lineNoFeed, List.map_singleton, List.map_singleton,
        map_read_decode, List.map_singleton]
  | fed line isInput inductionHypothesis =>
      obtain ⟨lineNoFeed, othersNoFeed⟩ := List.forall_mem_cons.1 noFeed
      rw [split_append_feed lineNoFeed, List.map_cons, List.map_cons, map_read_decode,
        inductionHypothesis othersNoFeed, List.map_cons]
  | @returned line others bytes isInput inductionHypothesis =>
      obtain ⟨lineNoFeed, othersNoFeed⟩ := List.forall_mem_cons.1 noFeed
      have sameBytes : line ++ 13 :: 10 :: bytes = (line ++ [13]) ++ 10 :: bytes := by
        simp
      have returnedNoFeed : 10 ∉ line ++ [13] := by simpa using lineNoFeed
      rw [sameBytes, split_append_feed returnedNoFeed, List.map_cons, List.map_cons,
        map_read_decode, entry_concat_return, inductionHypothesis othersNoFeed,
          List.map_cons]

end Colloquy.InputLine
