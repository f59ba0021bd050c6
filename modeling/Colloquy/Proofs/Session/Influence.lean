import Colloquy.Proofs.Condition.Asking
import Colloquy.Proofs.Flag.Agreement
import Colloquy.Proofs.Session.Lockstep
import Mathlib.Data.List.Forall2

/-!
# What cannot influence a dialogue

Flags that no condition of a graph mentions, and the localization of its texts.
Dialogues that only differ in these go through the same states with the same
answers and the same events, of which localization only changes the texts.
-/

namespace Colloquy

open Colloquy.Flag (Expression Store)

/-- The names that the leaves of a tree ask for, those of malformed leaves left out. -/
def Condition.mentionedNames (tree : Condition) : List String :=
  tree.questions.filterMap fun text => (Expression.read? text).map Expression.name

def Graph.mentionedNames (graph : Graph) : List String :=
  graph.choices.flatMap fun choice =>
    (choice.visible.toList ++ choice.unlocked.toList).flatMap Condition.mentionedNames

private theorem Condition.evaluate?_eq_of_agreeOn
    {left right : Store} {condition : Option Condition}
    (agree : ∀ tree, condition = some tree → ∀ name ∈ tree.mentionedNames,
      Store.AgreeOn name left right) :
    evaluate? left.hasFlag condition = evaluate? right.hasFlag condition := by
  apply evaluate?_congr
  intro tree given question asked
  apply Store.hasFlag_congr
  intro expression read
  apply agree tree given
  exact List.mem_filterMap.2 ⟨question, asked, by rw [read, Option.map_some]⟩

private theorem Graph.mem_mentionedNames
    {graph : Graph} {choice : Graph.Choice} {tree : Condition} {name : String}
    (member : choice ∈ graph.choices)
    (given : choice.visible = some tree ∨ choice.unlocked = some tree)
    (mentioned : name ∈ tree.mentionedNames) :
    name ∈ graph.mentionedNames := by
  have isGate : tree ∈ choice.visible.toList ++ choice.unlocked.toList := by
    rcases given with visible | unlocked
    · exact List.mem_append_left _ (Option.mem_toList.2 visible)
    · exact List.mem_append_right _ (Option.mem_toList.2 unlocked)
  exact List.mem_flatMap.2
    ⟨choice, member, List.mem_flatMap.2 ⟨tree, isGate, mentioned⟩⟩

namespace Session

/-- Calls over one store: the answer to each of them, and the stage after it. -/
def Stage.history (graph : Graph) (resolver : Resolver) (stage : Stage) :
    List Call → List (Except Error Reply × Stage)
  | [] => []
  | call :: rest =>
    stage.call graph resolver call ::
      history graph resolver (stage.call graph resolver call).2 rest

/-- Two answers with the stages after them that only differ in flags, and in
these on no name on which two given stores agree. -/
structure SameButFlags
    (left right : Store) (first second : Except Error Reply × Stage) : Prop where
  answer : first.1 = second.1
  session : first.2.session = second.2.session
  presented : first.2.presented = second.2.presented
  flags : ∀ name, Store.AgreeOn name left right →
    Store.AgreeOn name first.2.flags second.2.flags

/-- Two stores agree on each name on which two given ones do. -/
def AgreeWhere (left right : Store) (first second : Store) : Prop :=
  ∀ name, Store.AgreeOn name left right → Store.AgreeOn name first second

section Flags

variable {graph : Graph} {resolver : Resolver} {left right : Store}

private theorem indistinct_of_agreeOn
    (resolver : Resolver)
    (agree : ∀ name ∈ graph.mentionedNames, Store.AgreeOn name left right) :
    Indistinct graph resolver resolver id (AgreeWhere left right) where
  texts _ _ := rfl
  visible choice member first second same := by
    apply Condition.evaluate?_eq_of_agreeOn
    intro tree given name mentioned
    exact same name
      (agree name (Graph.mem_mentionedNames member (Or.inl given) mentioned))
  unlocked choice member first second same := by
    apply Condition.evaluate?_eq_of_agreeOn
    intro tree given name mentioned
    exact same name
      (agree name (Graph.mem_mentionedNames member (Or.inr given) mentioned))
  effects choice _ first second same name agreed :=
    (same name agreed).applyAll choice.effects

private theorem sameButFlags_call
    (indistinct : Indistinct graph resolver resolver id (AgreeWhere left right))
    {first second : Stage}
    (sameSession : first.session = second.session)
    (samePresented : first.presented = second.presented)
    (agree : AgreeWhere left right first.flags second.flags)
    (call : Call) :
    SameButFlags left right (first.call graph resolver call)
      (second.call graph resolver call) := by
  have same := matches_perform indistinct agree first.session call
  have sameEvents := same.events
  rw [map_mapTexts_id, map_mapTexts_id] at sameEvents
  simp only [Stage.call, ← sameSession]
  exact {
    answer := same.answer
    session := same.session
    presented := by simp only [samePresented, sameEvents]
    flags := same.flags }

private theorem sameButFlags_history
    (indistinct : Indistinct graph resolver resolver id (AgreeWhere left right))
    {first second : Stage}
    (sameSession : first.session = second.session)
    (samePresented : first.presented = second.presented)
    (agree : AgreeWhere left right first.flags second.flags)
    (calls : List Call) :
    List.Forall₂ (SameButFlags left right)
      (first.history graph resolver calls) (second.history graph resolver calls) := by
  induction calls generalizing first second with
  | nil =>
      exact .nil
  | cons call rest inductionHypothesis =>
      have same := sameButFlags_call indistinct sameSession samePresented agree call
      exact .cons same (inductionHypothesis same.session same.presented same.flags)

end Flags

/-- Two sessions over stores that agree on all names that conditions mention
cannot be told apart by any calls, and the stores go on agreeing wherever they
did. -/
theorem unmentioned_flags_have_no_influence
    (graph : Graph) (resolver : Resolver) (session : Session) (left right : Store)
    (agree : ∀ name ∈ graph.mentionedNames, Store.AgreeOn name left right)
    (calls : List Call) :
    List.Forall₂ (SameButFlags left right)
      (({ session, flags := left } : Stage).history graph resolver calls)
      (({ session, flags := right } : Stage).history graph resolver calls) := by
  have indistinct := indistinct_of_agreeOn resolver agree
  apply sameButFlags_history indistinct
  · rfl
  · rfl
  · exact fun name agreed => agreed

/-- A stall at which one can buy as long as the gold lasts, and each purchase is
talked about. -/
def stallGraph : Graph where
  nodes := [{ symbol := "stall", text := "Fresh figs!", choices := [⟨0⟩, ⟨1⟩] }]
  choices := [
    { symbol := "buy"
      target := some ⟨0⟩
      visible := some (.any [.flag " gold >= 10", .flag "credit"])
      unlocked := some (.flag "open")
      effects := [.addInt "gold" (-10), .addInt " rumours " 1] },
    { symbol := "leave" }]
  triggers := .ofEntries [("stall", some ⟨0⟩)]

def quietStore : Store :=
  Effect.applyAll [.setBool "open", .setInt "gold" 12] .empty

def rumouredStore : Store :=
  Effect.applyAll
    [.setInt "rumours" 5, .setString "rumours" "loud", .setBool "secret"] quietStore

/-- Rumours do not change what can be bought. -/
theorem rumours_have_no_influence :
    (∀ name ∈ stallGraph.mentionedNames, Store.AgreeOn name quietStore rumouredStore) ∧
      quietStore.int? "rumours" ≠ rumouredStore.int? "rumours" ∧
        List.Forall₂ (SameButFlags quietStore rumouredStore)
          (({ flags := quietStore } : Stage).history stallGraph Localizer.passThrough
            [.start "stall", .advance, .select 0, .advance])
          (({ flags := rumouredStore } : Stage).history stallGraph Localizer.passThrough
            [.start "stall", .advance, .select 0, .advance]) := by
  have agree : ∀ name ∈ stallGraph.mentionedNames,
      Store.AgreeOn name quietStore rumouredStore := by
    decide +kernel
  have different : quietStore.int? "rumours" ≠ rumouredStore.int? "rumours" := by
    decide
  refine ⟨agree, different, ?_⟩
  exact unmentioned_flags_have_no_influence stallGraph Localizer.passThrough {}
    quietStore
    rumouredStore agree [.start "stall", .advance, .select 0, .advance]

/-! ## Localization -/

/-- An event without the name of its speaker, its line and its prompts. -/
def Event.withoutTexts (event : Event) : Event :=
  event.mapTexts fun _ => ""

/-- A step with the localized texts of its events left out. -/
def Step.withoutTexts {α : Type} (step : Step α) : Step α :=
  { step with events := step.events.map Event.withoutTexts }

private theorem indistinct_of_resolvers (graph : Graph) (first second : Resolver) :
    Indistinct graph first second (fun _ => "") Eq where
  texts _ _ := rfl
  visible _ _ _ _ same := by rw [same]
  unlocked _ _ _ _ same := by rw [same]
  effects _ _ _ _ same := by rw [same]

private theorem withoutTexts_perform
    (graph : Graph) (first second : Resolver) (session : Session) (flags : Store)
    (call : Call) :
    (perform graph first session flags call).withoutTexts =
      (perform graph second session flags call).withoutTexts := by
  have same :=
    matches_perform (indistinct_of_resolvers graph first second)
      (rfl : flags = flags) session call
  have sameEvents :
      (perform graph first session flags call).events.map Event.withoutTexts =
        (perform graph second session flags call).events.map Event.withoutTexts :=
    same.events
  simp only [Step.withoutTexts, same.answer, same.session, same.flags, sameEvents]

/-- Whatever two sources of localized texts know, and whatever look-ups fail,
runs with the same calls and flags are the same but for localized texts. -/
theorem localization_has_no_influence
    (graph : Graph) (first second : Resolver) (session : Session)
    (calls : List (Call × Store)) :
    (run graph first session calls).map Step.withoutTexts =
      (run graph second session calls).map Step.withoutTexts := by
  induction calls generalizing session with
  | nil =>
      rfl
  | cons head tail inductionHypothesis =>
      have same := withoutTexts_perform graph first second session head.2 head.1
      have sameSession :
          (perform graph first session head.2 head.1).session =
            (perform graph second session head.2 head.1).session := by
        have projected := congrArg Step.session same
        exact projected
      simp only [run, List.map_cons]
      rw [same, sameSession, inductionHypothesis]

end Session

end Colloquy
