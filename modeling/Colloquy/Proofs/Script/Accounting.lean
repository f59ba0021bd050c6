import Colloquy.Proofs.Condition.Tree
import Colloquy.Proofs.Graph.Assembly
import Mathlib.Data.List.Count

/-!
# Validation accounts for every problem

Each problem of a script is found once for each time that it occurs: a repeated
identifier for every further entry, a dangling reference wherever it stands, a
blank trigger at its position, and a repeated trigger name once for all. The
message of a refused script is made of the fatal findings.
-/

namespace Colloquy.Script

section Occurrences

variable {names : List String} {name : String}

/-- A name is repeated once less often than it stands, and each time if it was
seen before. -/
private theorem count_repeats (seen names : List String) (name : String) :
    (repeats seen names).count name =
      if name ∈ seen then names.count name else names.count name - 1 := by
  induction names generalizing seen with
  | nil =>
      simp [repeats]
  | cons head tail inductionHypothesis =>
      by_cases known : head ∈ seen
      · rw [repeats, if_pos known, List.count_cons, inductionHypothesis,
          List.count_cons]
        by_cases same : head = name
        · simp [← same, known]
        · simp [same]
      · rw [repeats, if_neg known, inductionHypothesis, List.count_cons]
        by_cases same : head = name
        · simp [← same, known]
        · simp [same, Ne.symm same]

private theorem mem_repeats_iff : name ∈ repeats [] names ↔ 2 ≤ names.count name := by
  rw [← List.count_pos_iff, count_repeats, if_neg List.not_mem_nil]
  omega

private theorem count_distinct (names : List String) (name : String) :
    (distinct names).count name = if name ∈ names then 1 else 0 := by
  induction names with
  | nil =>
      simp [distinct]
  | cons head tail inductionHypothesis =>
      rw [distinct, List.count_cons]
      by_cases same : head = name
      · have noneLeft : ((distinct tail).filter (· ≠ head)).count name = 0 := by
          rw [List.count_eq_zero, ← same]
          simp
        rw [noneLeft]
        simp [same]
      · have kept :
            ((distinct tail).filter (· ≠ head)).count name =
              (distinct tail).count name :=
          List.count_filter (by simpa using Ne.symm same)
        rw [kept, inductionHypothesis]
        simp [same, Ne.symm same]

end Occurrences

/-! ## Views of findings -/

namespace Finding

/-- A finding about the conditions or effects of a choice. -/
def AboutContent : Finding → Prop
  | .emptyNegation .. => True
  | .emptyEffectKey .. => True
  | .operatorInEffectKey .. => True
  | .unfitEffectValue .. => True
  | .conditionTooDeep .. => True
  | .ignoredNegationParts .. => True
  | _ => False

def repeatedId? : Finding → Option (EntryKind × String)
  | .duplicateId kind id => some (kind, id)
  | _ => none

def blankTrigger? : Finding → Option Nat
  | .emptyTrigger index => some index
  | _ => none

def repeatedTrigger? : Finding → Option String
  | .duplicateTrigger name => some name
  | _ => none

end Finding

/-- An identifier by which an entry refers to another one. -/
structure Reference where
  kind : EntryKind
  id : String
  /-- Where it stands. -/
  place : Place
  deriving DecidableEq

def Finding.missing? : Finding → Option Reference
  | .missingReference kind id place => some ⟨kind, id, place⟩
  | _ => none

section Content

variable {choice : String} {gate : Gate}

private theorem aboutContent_of_mem_checkNegationsOfParts
    {parts : List Condition}
    (each : ∀ part ∈ parts, ∀ finding ∈ checkNegations choice gate part,
      finding.AboutContent) :
    ∀ finding ∈ checkNegationsOfParts choice gate parts, finding.AboutContent := by
  induction parts with
  | nil =>
      simp [checkNegationsOfParts]
  | cons head tail inductionHypothesis =>
      obtain ⟨ofHead, ofTail⟩ := List.forall_mem_cons.1 each
      rw [checkNegationsOfParts, List.forall_mem_append]
      exact ⟨ofHead, inductionHypothesis ofTail⟩

private theorem aboutContent_of_mem_checkNegations (tree : Condition) :
    ∀ finding ∈ checkNegations choice gate tree, finding.AboutContent := by
  induction tree using Condition.inductionOnParts with
  | flag text =>
      simp [checkNegations]
  | all parts inductionHypothesis =>
      rw [checkNegations]
      exact aboutContent_of_mem_checkNegationsOfParts inductionHypothesis
  | any parts inductionHypothesis =>
      rw [checkNegations]
      exact aboutContent_of_mem_checkNegationsOfParts inductionHypothesis
  | negation parts inductionHypothesis =>
      cases parts with
      | nil =>
          simp [checkNegations, Finding.AboutContent]
      | cons head tail =>
          rw [checkNegations, List.forall_mem_append]
          refine ⟨?_, inductionHypothesis head List.mem_cons_self⟩
          split
          · simp
          · simp [Finding.AboutContent]

private theorem aboutContent_of_mem_checkGate (optional : Option Condition) :
    ∀ finding ∈ checkGate choice gate optional, finding.AboutContent := by
  cases optional with
  | none =>
      simp [checkGate]
  | some tree =>
      rw [checkGate, checkCondition, List.forall_mem_append]
      refine ⟨?_, aboutContent_of_mem_checkNegations tree⟩
      split
      · simp [Finding.AboutContent]
      · simp

private theorem aboutContent_of_mem_checkEffect (effect : Effect) :
    ∀ finding ∈ checkEffect choice effect, finding.AboutContent := by
  rw [checkEffect, List.forall_mem_append]
  constructor
  · split
    · simp [Finding.AboutContent]
    · split
      · simp
      · simp [Finding.AboutContent]
  · split
    · simp
    · simp [Finding.AboutContent]

end Content

section Views

variable {α : Type} {view : Finding → Option α}

/-- A finding that alone is seen as a value is counted by that value among what
is seen. -/
private theorem count_eq_count_filterMap
    [BEq α]
    [LawfulBEq α]
    {finding : Finding} {seen : α}
    (only : ∀ other, view other = some seen ↔ other = finding)
    (findings : List Finding) :
    findings.count finding = (findings.filterMap view).count seen := by
  rw [List.count_filterMap, List.count]
  refine List.countP_congr fun other _ => ?_
  rw [beq_iff_eq, beq_iff_eq, only]

/-- A view that passes over conditions and effects. -/
def PassesContent (view : Finding → Option α) : Prop :=
  ∀ finding, finding.AboutContent → view finding = none

/-- A view that passes content over sees nothing in findings about content. -/
private theorem PassesContent.filterMap_eq_nil
    (passes : PassesContent view)
    {findings : List Finding}
    (about : ∀ finding ∈ findings, finding.AboutContent) :
    findings.filterMap view = [] :=
  List.filterMap_eq_nil_iff.2 fun finding member =>
    passes finding (about finding member)

private theorem PassesContent.filterMap_checkChoice
    (passes : PassesContent view)
    (nodes : List String) (choice : Choice) :
    (checkChoice nodes choice).filterMap view =
      (choice.target.toList.flatMap
        (checkReference .node nodes (.choice choice.id))).filterMap view := by
  have effects : ∀ finding ∈ choice.effects.flatMap (checkEffect choice.id),
      finding.AboutContent :=
    List.forall_mem_flatMap.2 fun effect _ => aboutContent_of_mem_checkEffect effect
  simp only [checkChoice, List.filterMap_append,
    passes.filterMap_eq_nil (aboutContent_of_mem_checkGate _),
      passes.filterMap_eq_nil effects,
    List.append_nil]

private theorem filterMap_checkIds_eq_nil
    (repeated : ∀ kind id, view (.duplicateId kind id) = none)
    (kind : EntryKind) (ids : List String) :
    (checkIds kind ids).filterMap view = [] := by
  simp [checkIds, repeated]

private theorem filterMap_checkReferences_eq_nil
    (passes : ∀ kind id place, view (.missingReference kind id place) = none)
    (kind : EntryKind) (known : List String) (place : Place) (ids : List String) :
    (ids.flatMap (checkReference kind known place)).filterMap view = [] := by
  rw [List.filterMap_flatMap, List.flatMap_eq_nil_iff]
  intro id _
  by_cases member : id ∈ known
  · simp [checkReference, member]
  · simp [checkReference, member, passes]

/-- A view of all findings, part by part. -/
theorem PassesContent.filterMap_validate
    (passes : PassesContent view)
    (script : Script) :
    script.validate.filterMap view =
      (checkIds .speaker script.speakerIds).filterMap view ++
        (checkIds .node script.nodeIds).filterMap view ++
        (checkIds .choice script.choiceIds).filterMap view ++
        (script.nodes.flatMap fun node =>
          (checkNode script.speakerIds script.choiceIds node).filterMap view) ++
        (script.choices.flatMap fun choice => (choice.target.toList.flatMap
          (checkReference .node script.nodeIds (.choice choice.id))).filterMap view) ++
        ((checkTriggersFrom script.nodeIds 0 script.triggers).filterMap view ++
          (distinct (repeats [] (triggerNames script.triggers))).filterMap
            fun name => view (.duplicateTrigger name)) := by
  simp only [validate, checkTriggers, List.filterMap_append, List.filterMap_flatMap,
    List.filterMap_map, passes.filterMap_checkChoice, Function.comp_def]

/-- A view that passes over references as well. -/
theorem PassesContent.filterMap_validate_of_missing
    (passes : PassesContent view)
    (missing : ∀ kind id place, view (.missingReference kind id place) = none)
    (script : Script) :
    script.validate.filterMap view =
      (checkIds .speaker script.speakerIds).filterMap view ++
        (checkIds .node script.nodeIds).filterMap view ++
        (checkIds .choice script.choiceIds).filterMap view ++
        ((checkTriggersFrom script.nodeIds 0 script.triggers).filterMap view ++
          (distinct (repeats [] (triggerNames script.triggers))).filterMap
            fun name => view (.duplicateTrigger name)) := by
  have ofNodes : (script.nodes.flatMap fun node =>
      (checkNode script.speakerIds script.choiceIds node).filterMap view) = [] := by
    refine List.flatMap_eq_nil_iff.2 fun node _ => ?_
    rw [checkNode, List.filterMap_append, filterMap_checkReferences_eq_nil missing,
      filterMap_checkReferences_eq_nil missing, List.append_nil]
  have ofChoices : (script.choices.flatMap fun choice => (choice.target.toList.flatMap
      (checkReference .node script.nodeIds (.choice choice.id))).filterMap view) = [] :=
    List.flatMap_eq_nil_iff.2 fun choice _ =>
      filterMap_checkReferences_eq_nil missing _ _ _ _
  rw [passes.filterMap_validate, ofNodes, ofChoices, List.append_nil, List.append_nil]

end Views

section Triggers

variable {α : Type} {view : Finding → Option α}

private theorem checkTriggersFrom_eq_flatMap
    (nodes : List String) (index : Nat) (triggers : List Trigger) :
    checkTriggersFrom nodes index triggers =
      (triggers.zipIdx index).flatMap fun entry =>
        checkTrigger nodes entry.2 entry.1 := by
  induction triggers generalizing index with
  | nil =>
      rfl
  | cons head tail inductionHypothesis =>
      rw [checkTriggersFrom, inductionHypothesis, List.zipIdx_cons, List.flatMap_cons]

/-- A view that sees nothing of a trigger with a name. -/
theorem filterMap_checkTrigger
    (deceptive : ∀ name, view (.deceptiveTrigger name) = none)
    (withoutNode : ∀ name, view (.triggerWithoutNode name) = none)
    (missing : ∀ kind id place, view (.missingReference kind id place) = none)
    (nodes : List String) (index : Nat) (trigger : Trigger) :
    (checkTrigger nodes index trigger).filterMap view =
      if (Text.trim trigger.name).isEmpty then
        (view (.emptyTrigger index)).toList
      else
        [] := by
  by_cases blank : (Text.trim trigger.name).isEmpty
  · cases seen : view (.emptyTrigger index) with
    | none =>
        simp [checkTrigger, blank, seen]
    | some =>
        simp [checkTrigger, blank, seen]
  · have characters : (if (Text.trim trigger.name).toList.any isDeceptive then
        [Finding.deceptiveTrigger (Text.trim trigger.name)] else []).filterMap view =
        [] := by
      split
      · simp [deceptive]
      · simp
    rw [checkTrigger, if_neg blank, if_neg blank, List.filterMap_append, characters,
      List.nil_append]
    cases trigger.node with
    | none =>
        simp [withoutNode]
    | some node =>
        simpa using filterMap_checkReferences_eq_nil missing .node nodes _ [node]

private theorem filterMap_checkTriggersFrom_eq_nil
    (blank : ∀ index, view (.emptyTrigger index) = none)
    (deceptive : ∀ name, view (.deceptiveTrigger name) = none)
    (withoutNode : ∀ name, view (.triggerWithoutNode name) = none)
    (missing : ∀ kind id place, view (.missingReference kind id place) = none)
    (nodes : List String) (index : Nat) (triggers : List Trigger) :
    (checkTriggersFrom nodes index triggers).filterMap view = [] := by
  rw [checkTriggersFrom_eq_flatMap, List.filterMap_flatMap, List.flatMap_eq_nil_iff]
  intro entry _
  rw [filterMap_checkTrigger deceptive withoutNode missing, blank]
  simp

end Triggers

def idsOf (script : Script) : EntryKind → List String
  | .speaker => script.speakerIds
  | .node => script.nodeIds
  | .choice => script.choiceIds

private theorem passesContent_repeatedId? : PassesContent Finding.repeatedId? := by
  intro finding about
  cases finding with
  | duplicateId => cases about
  | _ => rfl

private theorem filterMap_repeatedId?_checkIds (kind : EntryKind) (ids : List String) :
    (checkIds kind ids).filterMap Finding.repeatedId? =
      (repeats [] ids).map (kind, ·) := by
  rw [checkIds, List.filterMap_map, ← List.filterMap_eq_map]
  rfl

private theorem filterMap_repeatedId?_validate (script : Script) :
    script.validate.filterMap Finding.repeatedId? =
      (repeats [] script.speakerIds).map (EntryKind.speaker, ·) ++
        (repeats [] script.nodeIds).map (EntryKind.node, ·) ++
        (repeats [] script.choiceIds).map (EntryKind.choice, ·) := by
  have triggers : (checkTriggersFrom script.nodeIds 0 script.triggers).filterMap
      Finding.repeatedId? = [] :=
    filterMap_checkTriggersFrom_eq_nil (fun _ => rfl) (fun _ => rfl) (fun _ => rfl)
      (fun _ _ _ => rfl) _ _ _
  rw [passesContent_repeatedId?.filterMap_validate_of_missing fun _ _ _ => rfl,
    triggers]
  simp [filterMap_repeatedId?_checkIds, Finding.repeatedId?]

private theorem count_map_kind
    (kind other : EntryKind) (id : String) (ids : List String) :
    (ids.map (other, ·)).count (kind, id) = if other =
      kind then ids.count id else 0 := by
  by_cases same : other = kind
  · subst same
    have apart : Function.Injective fun id : String => (other, id) :=
      fun _ _ equal => (Prod.mk.inj equal).2
    rw [if_pos rfl]
    exact List.count_map_of_injective ids _ apart id
  · rw [if_neg same, List.count_eq_zero]
    simp [same]

/-- A duplicate of an identifier is found as often as the identifier stands
beyond its first time. -/
private theorem count_duplicateId (script : Script) (kind : EntryKind) (id : String) :
    script.validate.count (.duplicateId kind id) =
      (script.idsOf kind).count id - 1 := by
  have only (finding : Finding) :
      finding.repeatedId? = some (kind, id) ↔ finding = .duplicateId kind id := by
    cases finding with
    | duplicateId =>
        simp [Finding.repeatedId?]
    | _ =>
        simp [Finding.repeatedId?]
  have counts (ids : List String) : (repeats [] ids).count id = ids.count id - 1 := by
    rw [count_repeats, if_neg List.not_mem_nil]
  rw [count_eq_count_filterMap only, filterMap_repeatedId?_validate, List.count_append,
    List.count_append, count_map_kind, count_map_kind, count_map_kind]
  cases kind with
  | speaker =>
      simp [idsOf, counts]
  | node =>
      simp [idsOf, counts]
  | choice =>
      simp [idsOf, counts]

/-- The references of a node, in the order in which they are looked up. -/
def Node.references (node : Node) : List Reference :=
  node.speaker.toList.map (fun id => ⟨.speaker, id, .node node.id⟩) ++
    node.choices.map fun id => ⟨.choice, id, .node node.id⟩

def Choice.references (choice : Choice) : List Reference :=
  choice.target.toList.map fun id => ⟨.node, id, .choice choice.id⟩

/-- The reference of a trigger; a blank trigger has none. -/
def Trigger.references (trigger : Trigger) : List Reference :=
  let name := Text.trim trigger.name
  if name.isEmpty then
    []
  else
    trigger.node.toList.map fun id => ⟨.node, id, .trigger name⟩

def references (script : Script) : List Reference :=
  script.nodes.flatMap Node.references ++ script.choices.flatMap Choice.references ++
    script.triggers.flatMap Trigger.references

def Dangles (script : Script) (reference : Reference) : Prop :=
  reference.id ∉ script.idsOf reference.kind

instance (script : Script) : DecidablePred script.Dangles :=
  fun reference =>
    inferInstanceAs (Decidable (reference.id ∉ script.idsOf reference.kind))

private theorem passesContent_missing? : PassesContent Finding.missing? := by
  intro finding about
  cases finding with
  | missingReference => cases about
  | _ => rfl

section References

variable (script : Script) (kind : EntryKind) (place : Place)

private theorem filterMap_missing?_checkReference (id : String) :
    (checkReference kind (script.idsOf kind) place id).filterMap Finding.missing? =
      [Reference.mk kind id place].filter script.Dangles := by
  by_cases known : id ∈ script.idsOf kind
  · simp [checkReference, known, Dangles]
  · simp [checkReference, known, Dangles, Finding.missing?]

private theorem filterMap_missing?_checkReferences (ids : List String) :
    (ids.flatMap (checkReference kind (script.idsOf kind) place)).filterMap
      Finding.missing? =
      (ids.map fun id => Reference.mk kind id place).filter script.Dangles := by
  rw [List.filterMap_flatMap, List.map_eq_flatMap, List.filter_flatMap]
  simp only [filterMap_missing?_checkReference]

private theorem filterMap_missing?_checkNode (node : Node) :
    (checkNode script.speakerIds script.choiceIds node).filterMap Finding.missing? =
      node.references.filter script.Dangles := by
  rw [checkNode, Node.references, List.filterMap_append, List.filter_append,
    ← script.filterMap_missing?_checkReferences,
      ← script.filterMap_missing?_checkReferences]
  rfl

private theorem filterMap_missing?_checkTrigger (index : Nat) (trigger : Trigger) :
    (checkTrigger script.nodeIds index trigger).filterMap Finding.missing? =
      trigger.references.filter script.Dangles := by
  by_cases blank : (Text.trim trigger.name).isEmpty
  · simp [checkTrigger, Trigger.references, blank, Finding.missing?]
  · have characters : (if (Text.trim trigger.name).toList.any isDeceptive then
        [Finding.deceptiveTrigger (Text.trim trigger.name)] else []).filterMap
          Finding.missing? = [] := by
      split
      · rfl
      · rfl
    rw [checkTrigger, Trigger.references, if_neg blank, if_neg blank,
      List.filterMap_append, characters, List.nil_append]
    cases trigger.node with
    | none =>
        rfl
    | some node =>
        exact script.filterMap_missing?_checkReference .node _ node

private theorem filterMap_missing?_checkTriggersFrom
    (index : Nat) (triggers : List Trigger) :
    (checkTriggersFrom script.nodeIds index triggers).filterMap Finding.missing? =
      (triggers.flatMap Trigger.references).filter script.Dangles := by
  induction triggers generalizing index with
  | nil =>
      rfl
  | cons head tail inductionHypothesis =>
      rw [checkTriggersFrom, List.filterMap_append, filterMap_missing?_checkTrigger,
        inductionHypothesis, List.flatMap_cons, List.filter_append]

private theorem filterMap_missing?_checkTarget (choice : Choice) :
    (choice.target.toList.flatMap
      (checkReference .node script.nodeIds (.choice choice.id))).filterMap
      Finding.missing? =
      choice.references.filter script.Dangles :=
  script.filterMap_missing?_checkReferences .node _ _

/-- The missing references that are found are those of the script that dangle,
in order. -/
private theorem filterMap_missing?_validate :
    script.validate.filterMap Finding.missing? =
      script.references.filter script.Dangles := by
  have identifiers : ∀ kind ids, (checkIds kind ids).filterMap Finding.missing? = [] :=
    filterMap_checkIds_eq_nil fun _ _ => rfl
  have repeated (names : List String) :
      names.filterMap (fun name => Finding.missing? (.duplicateTrigger name)) = [] := by
    simp [Finding.missing?]
  rw [passesContent_missing?.filterMap_validate]
  simp only [identifiers, repeated, filterMap_missing?_checkNode,
    filterMap_missing?_checkTarget, filterMap_missing?_checkTriggersFrom, references,
    List.filter_append, List.filter_flatMap, List.nil_append, List.append_nil]

end References

private theorem passesContent_blankTrigger? : PassesContent Finding.blankTrigger? := by
  intro finding about
  cases finding with
  | emptyTrigger => cases about
  | _ => rfl

private theorem filterMap_blankTrigger?_checkTriggersFrom
    (nodes : List String) (index : Nat) (triggers : List Trigger) :
    (checkTriggersFrom nodes index triggers).filterMap Finding.blankTrigger? =
      ((triggers.zipIdx index).filter fun entry => (Text.trim entry.1.name).isEmpty).map
        Prod.snd := by
  induction triggers generalizing index with
  | nil =>
      rfl
  | cons head tail inductionHypothesis =>
      rw [checkTriggersFrom, List.filterMap_append, inductionHypothesis,
        List.zipIdx_cons,
        filterMap_checkTrigger (fun _ => rfl) (fun _ => rfl) (fun _ _ _ => rfl)]
      by_cases blank : (Text.trim head.name).isEmpty
      · simp [blank, Finding.blankTrigger?]
      · simp [blank]

private theorem filterMap_blankTrigger?_validate (script : Script) :
    script.validate.filterMap Finding.blankTrigger? =
      (script.triggers.zipIdx.filter fun entry => (Text.trim entry.1.name).isEmpty).map
        Prod.snd := by
  have identifiers :
      ∀ kind ids, (checkIds kind ids).filterMap Finding.blankTrigger? = [] :=
    filterMap_checkIds_eq_nil fun _ _ => rfl
  rw [passesContent_blankTrigger?.filterMap_validate_of_missing fun _ _ _ => rfl,
    filterMap_blankTrigger?_checkTriggersFrom]
  simp [identifiers, Finding.blankTrigger?]

private theorem pairwise_blankTriggers (script : Script) :
    (script.validate.filterMap Finding.blankTrigger?).Pairwise (· < ·) := by
  have positions : (script.triggers.zipIdx.map Prod.snd).Pairwise (· < ·) := by
    rw [List.zipIdx_map_snd]
    exact List.pairwise_lt_range'
  rw [filterMap_blankTrigger?_validate]
  exact positions.sublist (List.filter_sublist.map Prod.snd)

/-- A blank trigger is found at an index exactly if one stands there. -/
private theorem emptyTrigger_mem_validate_iff {script : Script} {index : Nat} :
    .emptyTrigger index ∈ script.validate ↔
      ∃ trigger, script.triggers[index]? = some trigger ∧
        Text.trim trigger.name = "" := by
  have only (finding : Finding) :
      finding.blankTrigger? = some index ↔ finding = .emptyTrigger index := by
    cases finding with
    | emptyTrigger =>
        simp [Finding.blankTrigger?]
    | _ =>
        simp [Finding.blankTrigger?]
  rw [← List.count_pos_iff, count_eq_count_filterMap only, List.count_pos_iff,
    filterMap_blankTrigger?_validate]
  simp [List.mem_zipIdx_iff_getElem?]

private theorem passesContent_repeatedTrigger? :
    PassesContent Finding.repeatedTrigger? := by
  intro finding about
  cases finding with
  | duplicateTrigger => cases about
  | _ => rfl

private theorem filterMap_repeatedTrigger?_validate (script : Script) :
    script.validate.filterMap Finding.repeatedTrigger? =
      distinct (repeats [] (triggerNames script.triggers)) := by
  have identifiers :
      ∀ kind ids, (checkIds kind ids).filterMap Finding.repeatedTrigger? = [] :=
    filterMap_checkIds_eq_nil fun _ _ => rfl
  have triggers : (checkTriggersFrom script.nodeIds 0 script.triggers).filterMap
      Finding.repeatedTrigger? = [] :=
    filterMap_checkTriggersFrom_eq_nil (fun _ => rfl) (fun _ => rfl) (fun _ => rfl)
      (fun _ _ _ => rfl) _ _ _
  rw [passesContent_repeatedTrigger?.filterMap_validate_of_missing fun _ _ _ => rfl,
    triggers]
  simp [identifiers, Finding.repeatedTrigger?]

private theorem count_triggerNames (triggers : List Trigger) (name : String) :
    (triggerNames triggers).count name =
      if name = "" then
        0
      else
        (triggers.map fun trigger => Text.trim trigger.name).count name := by
  by_cases blank : name = ""
  · rw [if_pos blank, List.count_eq_zero, triggerNames]
    simp [blank]
  · rw [if_neg blank, triggerNames]
    exact List.count_filter (by simpa using blank)

/-- A repeated name of triggers is found once, however often it stands. -/
private theorem count_duplicateTrigger (script : Script) (name : String) :
    script.validate.count (.duplicateTrigger name) =
      if name ≠ "" ∧
        2 ≤ (script.triggers.map fun trigger => Text.trim trigger.name).count name
      then 1 else 0 := by
  have only (finding : Finding) :
      finding.repeatedTrigger? = some name ↔ finding = .duplicateTrigger name := by
    cases finding with
    | duplicateTrigger =>
        simp [Finding.repeatedTrigger?]
    | _ =>
        simp [Finding.repeatedTrigger?]
  rw [count_eq_count_filterMap only, filterMap_repeatedTrigger?_validate,
    count_distinct]
  refine if_congr ?_ rfl rfl
  rw [mem_repeats_iff, count_triggerNames]
  by_cases blank : name = ""
  · simp [blank]
  · simp [blank]

private theorem newline_append_intercalate
    {entries : List String}
    (nonempty : entries ≠ []) :
    "\n" ++ String.intercalate "\n" entries =
      String.join (entries.map ("\n" ++ ·)) := by
  induction entries with
  | nil =>
      exact absurd rfl nonempty
  | cons head tail inductionHypothesis =>
      rw [List.map_cons, String.join_cons]
      by_cases last : tail = []
      · simp [last]
      · rw [String.intercalate_cons_of_ne_nil last, ← inductionHypothesis last]
        simp only [String.append_assoc]

/-- The aggregated message has one line for each finding, under one head. -/
private theorem aggregate_eq_join
    {findings : List Finding}
    (nonempty : findings ≠ []) :
    aggregate findings = "dialogue validation failed:" ++
      String.join (findings.map fun finding => "\n- " ++ finding.message) := by
  have entries : findings.map (fun finding => "- " ++ finding.message) ≠ [] := by
    simpa using nonempty
  have lines : (findings.map fun finding => "- " ++ finding.message).map ("\n" ++ ·) =
      findings.map fun finding => "\n- " ++ finding.message := by
    rw [List.map_map]
    refine List.map_congr_left fun finding _ => ?_
    exact (String.append_assoc ..).symm
  rw [← lines, ← newline_append_intercalate entries, ← String.append_assoc]
  rfl

private theorem chain_of_not_clear
    {script : Script}
    (faulty : ¬ Clear script.validate) :
    (Graph.BuildError.invalid script.fatalFindings).chain =
      ["dialogue validation failed:" ++ String.join
        ((script.validate.filter Finding.isFatal).map fun finding =>
          "\n- " ++ finding.message)] := by
  have nonempty : script.fatalFindings ≠ [] :=
    fun nothing => faulty (fatalFindings_eq_nil_iff.1 nothing)
  rw [Graph.BuildError.chain, aggregate_eq_join nonempty, fatalFindings]

/-! ## The account -/

/-- What the findings about a script tell of it, and what a refusal tells of them. -/
structure Accounted (script : Script) : Prop where
  /-- A repeated identifier is found once for each occurrence but the first. -/
  identifiers : ∀ kind id,
    script.validate.count (.duplicateId kind id) = (script.idsOf kind).count id - 1
  /-- The dangling references and no others are found, each where it stands. -/
  references : script.validate.filterMap Finding.missing? =
    script.references.filter script.Dangles
  /-- Blank triggers are found in order. -/
  blanksInOrder : (script.validate.filterMap Finding.blankTrigger?).Pairwise (· < ·)
  blanks : ∀ index, .emptyTrigger index ∈ script.validate ↔
    ∃ trigger, script.triggers[index]? = some trigger ∧ Text.trim trigger.name = ""
  /-- A repeated trigger name is found once, however often it occurs. -/
  triggers : ∀ name, script.validate.count (.duplicateTrigger name) =
    if name ≠ "" ∧
      2 ≤ (script.triggers.map fun trigger => Text.trim trigger.name).count name
    then 1 else 0
  accepted : Clear script.validate → Graph.checkScript script = .ok ()
  /-- The message has an entry for each fatal finding, in order. -/
  refused : ¬ Clear script.validate →
    ∃ error, Graph.checkScript script = .error error ∧
      error.chain = ["dialogue validation failed:" ++ String.join
        ((script.validate.filter Finding.isFatal).map fun finding => "\n- " ++
          finding.message)]

/-- The findings account for each problem of a script, and its refusal for each
fatal one. -/
theorem validation_accounts_for_every_problem (script : Script) : script.Accounted where
  identifiers := script.count_duplicateId
  references := script.filterMap_missing?_validate
  blanksInOrder := script.pairwise_blankTriggers
  blanks _ := emptyTrigger_mem_validate_iff
  triggers := script.count_duplicateTrigger
  accepted := Graph.checkScript_of_clear
  refused faulty :=
    ⟨_, Graph.checkScript_of_not_clear faulty, chain_of_not_clear faulty⟩

end Colloquy.Script
