import Colloquy.Proofs.Script.WellFormed

/-!
# What validation finds

A script has no finding that keeps it from loading exactly if it is well-formed.
Each check is taken by itself first: it is clear of such findings exactly if the
entry has the property that is checked.
-/

namespace Colloquy.Script

open Colloquy.Flag (Kind)

/-- No finding keeps the script from loading. -/
def Clear (findings : List Finding) : Prop :=
  ∀ finding ∈ findings, finding.isFatal = false

instance (findings : List Finding) : Decidable (Clear findings) :=
  inferInstanceAs (Decidable (∀ finding ∈ findings, finding.isFatal = false))

/-- No finding is fatal exactly if the findings are clear. -/
theorem fatalFindings_eq_nil_iff {script : Script} :
    script.fatalFindings = [] ↔ Clear script.validate := by
  simp [fatalFindings, Clear]

@[simp]
theorem clear_nil : Clear [] := by
  simp [Clear]

@[simp]
theorem clear_singleton_iff {finding : Finding} :
    Clear [finding] ↔ finding.isFatal = false := by
  simp [Clear]

/-- Findings are clear exactly if those of each part are. -/
@[simp]
theorem clear_append_iff {left right : List Finding} :
    Clear (left ++ right) ↔ Clear left ∧ Clear right := by
  simp only [Clear, List.forall_mem_append]

private theorem clear_flatMap_iff
    {α : Type} {entries : List α} {check : α → List Finding} :
    Clear (entries.flatMap check) ↔ ∀ entry ∈ entries, Clear (check entry) := by
  simp only [Clear, List.forall_mem_flatMap]

private theorem clear_map_iff_of_fatal
    {α : Type} {entries : List α} {report : α → Finding}
    (fatal : ∀ entry, (report entry).isFatal = true) :
    Clear (entries.map report) ↔ entries = [] := by
  constructor
  · intro clear
    cases entries with
    | nil =>
        rfl
    | cons head tail =>
        have spared := clear (report head) (List.mem_map_of_mem List.mem_cons_self)
        rw [fatal head] at spared
        cases spared
  · rintro rfl
    exact clear_nil

private theorem repeats_eq_nil_iff {seen ids : List String} :
    repeats seen ids = [] ↔ ids.Nodup ∧ ∀ id ∈ ids, id ∉ seen := by
  induction ids generalizing seen with
  | nil =>
      simp [repeats]
  | cons head tail inductionHypothesis =>
      by_cases known : head ∈ seen
      · simp [repeats, known]
      · rw [repeats, if_neg known, inductionHypothesis, List.nodup_cons]
        constructor
        · rintro ⟨tailNodup, fresh⟩
          refine ⟨⟨fun inTail => fresh head inTail List.mem_cons_self, tailNodup⟩, ?_⟩
          refine List.forall_mem_cons.2 ⟨known, fun id member inSeen => ?_⟩
          exact fresh id member (List.mem_cons_of_mem head inSeen)
        · rintro ⟨⟨notInTail, tailNodup⟩, fresh⟩
          refine ⟨tailNodup, fun id member inSeen => ?_⟩
          rcases List.mem_cons.1 inSeen with equal | earlier
          · exact notInTail (equal ▸ member)
          · exact fresh id (List.mem_cons_of_mem head member) earlier

private theorem distinct_eq_nil_iff {names : List String} :
    distinct names = [] ↔ names = [] := by
  cases names with
  | nil =>
      simp [distinct]
  | cons head tail =>
      simp [distinct]

/-- Identifiers pass exactly if they are distinct. -/
private theorem clear_checkIds_iff {kind : EntryKind} {ids : List String} :
    Clear (checkIds kind ids) ↔ ids.Nodup := by
  rw [checkIds, clear_map_iff_of_fatal fun _ => rfl, repeats_eq_nil_iff]
  simp

/-- A reference passes exactly if it is known. -/
private theorem clear_checkReference_iff
    {kind : EntryKind} {known : List String} {place : Place} {id : String} :
    Clear (checkReference kind known place id) ↔ id ∈ known := by
  by_cases member : id ∈ known
  · simp [checkReference, member]
  · simp [checkReference, member, Finding.isFatal]

section Conditions

open Colloquy.Condition

variable {choice : String} {gate : Gate}

private theorem clear_checkNegationsOfParts_iff {parts : List Condition} :
    Clear (checkNegationsOfParts choice gate parts) ↔
      ∀ part ∈ parts, Clear (checkNegations choice gate part) := by
  induction parts with
  | nil =>
      simp [checkNegationsOfParts]
  | cons head tail inductionHypothesis =>
      rw [checkNegationsOfParts, clear_append_iff, inductionHypothesis,
        List.forall_mem_cons]

/-- A tree passes exactly if each of its negations has a part. -/
private theorem clear_checkNegations_iff {tree : Condition} :
    Clear (checkNegations choice gate tree) ↔ NegationsFilled tree := by
  induction tree using inductionOnParts with
  | flag text =>
      simp [checkNegations, negationsFilled_flag]
  | all parts inductionHypothesis =>
      rw [checkNegations, clear_checkNegationsOfParts_iff, negationsFilled_all_iff]
      exact forall₂_congr inductionHypothesis
  | any parts inductionHypothesis =>
      rw [checkNegations, clear_checkNegationsOfParts_iff, negationsFilled_any_iff]
      exact forall₂_congr inductionHypothesis
  | negation parts inductionHypothesis =>
      cases parts with
      | nil =>
          simp [checkNegations, Finding.isFatal, not_negationsFilled_negation_nil]
      | cons head tail =>
          have noteClear :
              Clear (if tail.isEmpty then []
                else [Finding.ignoredNegationParts choice gate (tail.length + 1)]) := by
            split
            · exact clear_nil
            · exact clear_singleton_iff.2 rfl
          rw [checkNegations, clear_append_iff, negationsFilled_negation_cons_iff,
            inductionHypothesis head List.mem_cons_self]
          exact and_iff_right noteClear

/-- A condition passes its checks exactly if it is sound. -/
theorem clear_checkCondition_iff {tree : Condition} :
    Clear (checkCondition choice gate tree) ↔ Sound tree := by
  rw [checkCondition, clear_append_iff, clear_checkNegations_iff]
  by_cases tooDeep : depthLimit < depth tree
  · simp only [tooDeep, if_true, clear_singleton_iff, Finding.isFatal]
    constructor
    · rintro ⟨spared, _⟩
      cases spared
    · rintro ⟨shallow, _⟩
      exact absurd tooDeep (Nat.not_lt.2 shallow)
  · simp only [tooDeep, if_false, clear_nil, true_and]
    exact ⟨fun filled => ⟨Nat.le_of_not_lt tooDeep, filled⟩, Sound.filled⟩

private theorem clear_checkGate_iff {optional : Option Condition} :
    Clear (checkGate choice gate optional) ↔
      ∀ tree, optional = some tree → Sound tree := by
  cases optional with
  | none =>
      simp [checkGate]
  | some tree =>
      simp [checkGate, clear_checkCondition_iff]

end Conditions

private theorem isOperatorChar_iff {c : Char} :
    Flag.isOperatorChar c = true ↔ IsOperator c := by
  simp only [Flag.isOperatorChar, IsOperator, Bool.or_eq_true, beq_iff_eq, or_assoc]

theorem isName_iff {text : String} :
    Flag.isName text = true ↔ ∀ c ∈ text.toList, ¬ IsOperator c := by
  simp only [Flag.isName, Bool.not_eq_true', List.any_eq_false, isOperatorChar_iff]

private theorem valueFits_iff {effect : Effect} :
    effect.valueFits = true ↔ Fits effect.kind effect.value := by
  obtain ⟨kind, operation, key, value⟩ := effect
  constructor
  · intro fits
    cases kind with
    | bool =>
        exact .bool value
    | int =>
        cases value with
        | int value =>
            exact .int value
        | _ =>
            cases fits
    | float =>
        cases value with
        | float value =>
            exact .float value
        | _ =>
            cases fits
    | string =>
        cases value with
        | text value =>
            exact .string value
        | _ =>
            cases fits
  · intro fits
    cases fits with
    | bool =>
        rfl
    | int =>
        rfl
    | float =>
        rfl
    | string =>
        rfl

private theorem clear_checkKey_iff {choice key : String} :
    Clear (if key.isEmpty then [.emptyEffectKey choice]
      else if Flag.isName key then [] else [.operatorInEffectKey choice key]) ↔
      key ≠ "" ∧ ∀ c ∈ key.toList, ¬ IsOperator c := by
  rw [← isName_iff]
  by_cases blank : key = ""
  · simp [blank, Finding.isFatal]
  · by_cases plain : Flag.isName key = true
    · simp [blank, plain]
    · simp [blank, plain, Finding.isFatal]

/-- An effect passes exactly if it is well-formed. -/
private theorem clear_checkEffect_iff {choice : String} {effect : Effect} :
    Clear (checkEffect choice effect) ↔ effect.WellFormed := by
  have valueClear :
      Clear (if effect.valueFits then []
        else
          [.unfitEffectValue choice effect.kind (Text.trim effect.key) effect.value]) ↔
        Fits effect.kind effect.value := by
    rw [← valueFits_iff]
    by_cases fits : effect.valueFits = true
    · simp [fits]
    · simp [fits, Finding.isFatal]
  rw [checkEffect, clear_append_iff, clear_checkKey_iff, valueClear]
  constructor
  · rintro ⟨⟨named, plain⟩, fits⟩
    exact ⟨named, plain, fits⟩
  · rintro ⟨named, plain, fits⟩
    exact ⟨⟨named, plain⟩, fits⟩

private theorem clear_checkNode_iff {script : Script} {node : Node} :
    Clear (checkNode script.speakerIds script.choiceIds node) ↔
      node.WellFormed script := by
  simp only [checkNode, clear_append_iff, clear_flatMap_iff, Option.mem_toList,
    clear_checkReference_iff, speakerIds, choiceIds, List.mem_map]
  constructor
  · rintro ⟨speaker, choices⟩
    exact ⟨speaker, choices⟩
  · rintro ⟨speaker, choices⟩
    exact ⟨speaker, choices⟩

private theorem clear_checkChoice_iff {script : Script} {choice : Choice} :
    Clear (checkChoice script.nodeIds choice) ↔ choice.WellFormed script := by
  simp only [checkChoice, clear_append_iff, clear_flatMap_iff, Option.mem_toList,
    clear_checkReference_iff, clear_checkGate_iff, clear_checkEffect_iff, nodeIds,
      List.mem_map]
  constructor
  · rintro ⟨⟨⟨target, visible⟩, unlocked⟩, effects⟩
    exact ⟨target, visible, unlocked, effects⟩
  · rintro ⟨target, visible, unlocked, effects⟩
    exact ⟨⟨⟨target, visible⟩, unlocked⟩, effects⟩

private theorem isDeceptive_iff {c : Char} : isDeceptive c = true ↔ IsHidden c := by
  simp only [isDeceptive, IsHidden, Bool.or_eq_true, decide_eq_true_eq, List.mem_cons,
    List.not_mem_nil, or_false, ← Char.toNat_inj]
  have codes :
      '\u200b'.toNat = 0x200B ∧ '\u200c'.toNat = 0x200C ∧ '\u200d'.toNat = 0x200D ∧
        '\ufeff'.toNat = 0xFEFF ∧ '\u00a0'.toNat = 0xA0 ∧ '\u202f'.toNat = 0x202F ∧
        '\u2060'.toNat = 0x2060 ∧ '\u180e'.toNat = 0x180E ∧ '\u00ad'.toNat = 0xAD := by
    decide
  omega

private theorem clear_deceptive_iff {name : String} :
    Clear (if name.toList.any isDeceptive then [.deceptiveTrigger name] else []) ↔
      ∀ c ∈ name.toList, ¬ IsHidden c := by
  have noneHidden :
      name.toList.any isDeceptive = false ↔ ∀ c ∈ name.toList, ¬ IsHidden c := by
    simp only [List.any_eq_false, isDeceptive_iff]
  rw [← noneHidden]
  cases name.toList.any isDeceptive with
  | false =>
      simp
  | true =>
      simp [Finding.isFatal]

private theorem clear_checkStart_iff
    {script : Script} {name : String} {node : Option String} :
    Clear (match node with
      | some node => checkReference .node script.nodeIds (.trigger name) node
      | none => [.triggerWithoutNode name]) ↔
      ∃ id, node = some id ∧ ∃ entry ∈ script.nodes, entry.id = id := by
  cases node with
  | none =>
      simp [Finding.isFatal]
  | some id =>
      rw [clear_checkReference_iff, nodeIds, List.mem_map]
      constructor
      · intro known
        exact ⟨id, rfl, known⟩
      · rintro ⟨named, equal, known⟩
        cases equal
        exact known

private theorem clear_checkTrigger_iff
    {script : Script} {index : Nat} {trigger : Trigger} :
    Clear (checkTrigger script.nodeIds index trigger) ↔ trigger.WellFormed script := by
  by_cases blank : Text.trim trigger.name = ""
  · constructor
    · intro clear
      simp [checkTrigger, blank, Finding.isFatal] at clear
    · intro wellFormed
      exact absurd blank wellFormed.named
  · have notEmpty : (Text.trim trigger.name).isEmpty = false := by
      simpa using blank
    simp only [checkTrigger, notEmpty, Bool.false_eq_true, if_false, clear_append_iff,
      clear_deceptive_iff]
    constructor
    · rintro ⟨shown, startClear⟩
      exact ⟨blank, shown, clear_checkStart_iff.1 startClear⟩
    · rintro ⟨_, shown, node⟩
      exact ⟨shown, clear_checkStart_iff.2 node⟩

private theorem clear_checkTriggersFrom_iff
    {script : Script} {index : Nat} {triggers : List Trigger} :
    Clear (checkTriggersFrom script.nodeIds index triggers) ↔
      ∀ trigger ∈ triggers, trigger.WellFormed script := by
  induction triggers generalizing index with
  | nil =>
      simp [checkTriggersFrom]
  | cons head tail inductionHypothesis =>
      rw [checkTriggersFrom, clear_append_iff, clear_checkTrigger_iff,
        inductionHypothesis, List.forall_mem_cons]

private theorem triggerNames_eq_map
    {triggers : List Trigger}
    (named : ∀ trigger ∈ triggers, Text.trim trigger.name ≠ "") :
    triggerNames triggers = triggers.map fun trigger => Text.trim trigger.name := by
  refine List.filter_eq_self.2 fun name member => ?_
  obtain ⟨trigger, triggerMember, rfl⟩ := List.mem_map.1 member
  simpa using named trigger triggerMember

/-- Triggers pass exactly if they are well-formed and their trimmed names distinct. -/
private theorem clear_checkTriggers_iff {script : Script} :
    Clear (checkTriggers script.nodeIds script.triggers) ↔
      (∀ trigger ∈ script.triggers, trigger.WellFormed script) ∧
        (script.triggers.map fun trigger => Text.trim trigger.name).Nodup := by
  rw [checkTriggers, clear_append_iff, clear_checkTriggersFrom_iff,
    clear_map_iff_of_fatal fun _ => rfl, distinct_eq_nil_iff, repeats_eq_nil_iff]
  refine and_congr_right fun wellFormed => ?_
  have named : ∀ trigger ∈ script.triggers, Text.trim trigger.name ≠ "" :=
    fun trigger member => (wellFormed trigger member).named
  rw [triggerNames_eq_map named]
  exact and_iff_left fun _ _ => List.not_mem_nil

/-! ## Scripts -/

/-- A script passes exactly if its entries do and its identifiers are distinct. -/
private theorem clear_validate_iff {script : Script} :
    Clear script.validate ↔
      ((script.speakers.map (·.id)).Nodup ∧ (script.nodes.map (·.id)).Nodup ∧
        (script.choices.map (·.id)).Nodup) ∧
      ((∀ node ∈ script.nodes, node.WellFormed script) ∧
        ∀ choice ∈ script.choices, choice.WellFormed script) ∧
      (∀ trigger ∈ script.triggers, trigger.WellFormed script) ∧
        (script.triggers.map fun trigger => Text.trim trigger.name).Nodup := by
  simp only [validate, clear_append_iff, clear_checkIds_iff, clear_flatMap_iff,
    clear_checkNode_iff, clear_checkChoice_iff, clear_checkTriggers_iff, and_assoc]
  rfl

/-- A script that passes all checks is well-formed. -/
theorem WellFormed.of_clear
    {script : Script}
    (clear : Clear script.validate) :
    WellFormed script := by
  obtain ⟨⟨speakerIds, nodeIds, choiceIds⟩, ⟨nodes, choices⟩, triggers, triggerNames⟩ :=
    clear_validate_iff.1 clear
  exact { speakerIds, nodeIds, choiceIds, nodes, choices, triggers, triggerNames }

/-- Validation neither misses a fault nor reports one that is not there. -/
theorem no_fatalFindings_iff_wellFormed {script : Script} :
    script.fatalFindings = [] ↔ WellFormed script := by
  rw [fatalFindings_eq_nil_iff]
  constructor
  · exact WellFormed.of_clear
  · intro wellFormed
    refine clear_validate_iff.2 ⟨⟨?_, ?_, ?_⟩, ⟨?_, ?_⟩, ?_, ?_⟩
    · exact wellFormed.speakerIds
    · exact wellFormed.nodeIds
    · exact wellFormed.choiceIds
    · exact wellFormed.nodes
    · exact wellFormed.choices
    · exact wellFormed.triggers
    · exact wellFormed.triggerNames

end Colloquy.Script
