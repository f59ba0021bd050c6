import Colloquy.Proofs.Command.Reading
import Colloquy.Proofs.Console.Courses
import Colloquy.Proofs.Graph.Closed
import Colloquy.Proofs.Graph.Positions

/-!
# Talking about a trigger

A console lists the triggers of its graph by name, and a line that asks to talk
about one is read as words, which are joined with single spaces before they are
looked up. A name that is spaced like that is found; any other is looked up as a
different name.
-/

namespace Colloquy

open Colloquy.Text (joinWords SingleSpaced)

namespace Command

def talkLine (name : String) : String :=
  "talk " ++ name

private theorem read_talkLine
    {name : String}
    (shows : Text.trim name ≠ "") :
    read (talkLine name) = .talk (joinWords (Text.words name)) := by
  have isWord : Text.IsWord "talk" := Text.isWord_of_all (by decide) (by decide)
  have split : talkLine name = "talk" ++ " " ++ name := rfl
  rw [split, read_word_append isWord (Text.words_ne_nil shows)]
  rfl

end Command

namespace Console

open Colloquy.Graph (NodeId)

/-- The execution of a line that opens a dialogue at a node, whose line is presented. -/
structure LineOpens
    (setting : Setting) (console : Console) (line : String) (id : NodeId) : Prop where
  phase : (console.execute setting (.read line)).console.session.phase = .presenting
  current : (console.execute setting (.read line)).console.session.current = some id
  presents : ∃ node, setting.graph.node? id = some node ∧
    (console.execute setting (.read line)).items =
      [.event (Session.lineEvent setting.graph setting.localizer id node)]

/-- The execution of a line that is answered with a problem and opens nothing. -/
structure LineRefused
    (setting : Setting) (console : Console) (line problem : String) : Prop where
  session : (console.execute setting (.read line)).console.session = console.session
  told : (console.execute setting (.read line)).items = [.problem problem]

section Talking

variable {setting : Setting} {console : Console}

private theorem execute_talk_of_known
    (inactive : console.session.isActive = false)
    {trigger : String} {id : NodeId} {node : Graph.Node}
    (starts : setting.graph.start? trigger = some id)
    (found : setting.graph.node? id = some node) :
    console.execute setting (.talk trigger) = {
      console := { console with
        session := { console.session with phase := .presenting, current := some id }
        activeTrigger := some (Text.trim trigger) }
      items :=
        [.event (Session.lineEvent setting.graph setting.localizer id node)] } := by
  rw [execute_eq_settled rfl Command.noConfusion]
  simp only [perform, talk, Session.start, inactive, starts, Session.present, found,
    reply, follow, Except.map, Bool.false_eq_true, if_false, List.map_cons,
    List.map_nil, List.append_nil]
  rw [settle_of_isActive _ rfl]

private theorem describeStartError_unknownTrigger (trigger : String) :
    describeStartError (.unknownTrigger trigger) =
      "dialogue trigger '" ++ trigger ++ "' was not found or has no start node." := by
  have described : describeStartError (.unknownTrigger trigger) =
      (Session.Error.unknownTrigger trigger).message ++ "." := rfl
  have message : (Session.Error.unknownTrigger trigger).message =
      "dialogue trigger '" ++ trigger ++ "' was not found or has no start node" := rfl
  have stop : "' was not found or has no start node" ++ "." =
      "' was not found or has no start node." := by
    decide
  rw [described, message, String.append_assoc, stop]

private theorem execute_talk_of_unknown
    (inactive : console.session.isActive = false)
    {trigger : String}
    (unknown : setting.graph.start? trigger = none) :
    (console.execute setting (.talk trigger)).console.session = console.session ∧
      (console.execute setting (.talk trigger)).items =
        [.problem ("dialogue trigger '" ++ trigger ++
          "' was not found or has no start node.")] := by
  rw [execute_eq_settled rfl Command.noConfusion]
  simp only [perform, talk, Session.start, inactive, unknown, reply, follow,
    Bool.false_eq_true, if_false, List.map_nil, List.nil_append, settle_session,
    describeStartError_unknownTrigger, true_and]

/-- A name that shows is looked up as its words joined with single spaces. -/
theorem lineOpens_iff
    (closed : Graph.Closed setting.graph)
    (inactive : console.session.isActive = false)
    {name : String} (shows : Text.trim name ≠ "") {id : NodeId} :
    LineOpens setting console (Command.talkLine name) id ↔
      setting.graph.start? (joinWords (Text.words name)) = some id := by
  have isTalk := Command.read_talkLine shows
  constructor
  · intro opens
    cases starts : setting.graph.start? (joinWords (Text.words name)) with
    | none =>
        have unchanged := (execute_talk_of_unknown inactive starts).1
        have current := opens.current
        rw [isTalk, unchanged] at current
        simp [Session.isActive, current] at inactive
    | some other =>
        obtain ⟨node, found⟩ := closed.starts _ other starts
        have current := opens.current
        rw [isTalk, execute_talk_of_known inactive starts found] at current
        exact current
  · intro starts
    obtain ⟨node, found⟩ := closed.starts _ id starts
    have executed := execute_talk_of_known inactive starts found
    refine ⟨?_, ?_, node, found, ?_⟩
    · rw [isTalk, executed]
    · rw [isTalk, executed]
    · rw [isTalk, executed]

private theorem lineRefused_of_unknown
    (inactive : console.session.isActive = false)
    {name : String} (shows : Text.trim name ≠ "")
    (unknown : setting.graph.start? (joinWords (Text.words name)) = none) :
    LineRefused setting console (Command.talkLine name)
      ("dialogue trigger '" ++ joinWords (Text.words name) ++
        "' was not found or has no start node.") := by
  obtain ⟨unchanged, told⟩ := execute_talk_of_unknown inactive unknown
  refine ⟨?_, ?_⟩
  · rw [Command.read_talkLine shows, unchanged]
  · rw [Command.read_talkLine shows, told]

private theorem listed_iff {name : String} :
    (∃ names, .triggers names ∈ (console.execute setting .triggers).items ∧
      name ∈ names) ↔
      name ∈ setting.graph.triggers.names := by
  have executed : (console.execute setting .triggers).items =
      [.triggers setting.graph.triggers.names] := by
    rw [execute_eq_settled rfl Command.noConfusion]
    rfl
  rw [executed]
  simp

/-- A name of the graph of a script shows and has a start. -/
theorem exists_start?_of_mem_names
    {script : Script} {graph : Graph}
    (built : Graph.ofScript script = .ok graph)
    {name : String}
    (listed : name ∈ graph.triggers.names) :
    Text.trim name ≠ "" ∧ ∃ id, graph.start? name = some id := by
  obtain ⟨wellFormed, rfl⟩ := Graph.eq_image_of_ofScript_eq_ok built
  obtain ⟨entry, isEntry, rfl⟩ := List.mem_map.1 listed
  obtain ⟨trigger, member, rfl⟩ := List.mem_map.1 isEntry
  have isTrimmed :
      Text.trim (Graph.triggerImage script trigger).1 = Text.trim trigger.name := by
    exact Text.trim_trim trigger.name
  refine ⟨?_, ?_⟩
  · rw [isTrimmed]
    exact (wellFormed.triggers trigger member).named
  · obtain ⟨node, index, _, _, starts⟩ :=
      Graph.start?_image_of_trigger wellFormed member isTrimmed.symm
    exact ⟨_, starts⟩

/-! ## Talking about what is listed -/

/-- What asking to talk about a name with a start comes to. -/
structure TalkedAbout
    (setting : Setting) (console : Console) (name : String) (id : NodeId) :
    Prop where
  starts : setting.graph.start? name = some id
  /-- A dialogue opens where the words of the name, joined with single spaces,
  start one. -/
  opens_iff : ∀ other, LineOpens setting console (Command.talkLine name) other ↔
    setting.graph.start? (joinWords (Text.words name)) = some other
  opens_of_singleSpaced : SingleSpaced name →
    LineOpens setting console (Command.talkLine name) id
  refused : setting.graph.start? (joinWords (Text.words name)) = none →
    LineRefused setting console (Command.talkLine name)
      ("dialogue trigger '" ++ joinWords (Text.words name) ++
        "' was not found or has no start node.")

/-- Over the graph of any script, a listed name has a start, and while no
dialogue is open the line that asks to talk about it opens the dialogue there if
its words have one space, and no other blank, between them. In general it opens
what that spelling of the name starts. -/
theorem talkedAbout_of_listed
    {script : Script} {setting : Setting}
    (built : Graph.ofScript script = .ok setting.graph)
    {console : Console}
    (inactive : console.session.isActive = false)
    {names : List String} {name : String}
    (listed : .triggers names ∈ (console.execute setting .triggers).items)
    (member : name ∈ names) :
    ∃ id, TalkedAbout setting console name id := by
  have closed := Graph.closed_of_ofScript_eq_ok built
  obtain ⟨shows, id, starts⟩ :=
    exists_start?_of_mem_names built (listed_iff.1 ⟨names, listed, member⟩)
  have opensIff : ∀ other, LineOpens setting console (Command.talkLine name) other ↔
      setting.graph.start? (joinWords (Text.words name)) = some other :=
    fun other => lineOpens_iff closed inactive shows
  refine ⟨id, starts, opensIff, ?_, ?_⟩
  · intro singleSpaced
    rw [opensIff, Text.joinWords_words_iff.2 singleSpaced]
    exact starts
  · intro unknown
    exact lineRefused_of_unknown inactive shows unknown

end Talking

/-- Two triggers whose names differ in the spaces between their words. -/
def millScript : Script where
  nodes := [
    { id := "mill", text := "The mill turns." },
    { id := "ruin", text := "Nothing is left of it." }]
  triggers := [
    { name := " old mill", node := some "mill" },
    { name := "old  mill", node := some "ruin" }]

def millSetting : Setting where
  graph := Graph.image millScript
  saveDirectory := "saves"

theorem talkedAbout_old_mill :
    ∃ id, TalkedAbout millSetting {} "old mill" id ∧
      LineOpens millSetting {} (Command.talkLine "old mill") id := by
  have built : Graph.ofScript millScript = .ok millSetting.graph := rfl
  have inactive : ({} : Console).session.isActive = false := rfl
  have listed : .triggers ["old mill", "old  mill"] ∈
      (({} : Console).execute millSetting .triggers).items := by
    decide +kernel
  have singleSpaced : SingleSpaced "old mill" :=
    Text.joinWords_words_iff.1 (by decide +kernel)
  obtain ⟨id, talkedAbout⟩ :=
    talkedAbout_of_listed built inactive listed List.mem_cons_self
  exact ⟨id, talkedAbout, talkedAbout.opens_of_singleSpaced singleSpaced⟩

/-- The name with two spaces is listed and has a start, but the line that asks
to talk about it opens the dialogue of the other name. -/
theorem doubly_spaced_name_opens_another :
    Graph.ofScript millScript = .ok millSetting.graph ∧
      ({} : Console).session.isActive = false ∧
        .triggers ["old mill", "old  mill"] ∈
            (({} : Console).execute millSetting .triggers).items ∧
          millSetting.graph.start? "old  mill" = some ⟨1⟩ ∧
            ¬ LineOpens millSetting {} (Command.talkLine "old  mill") ⟨1⟩ ∧
              (({} : Console).execute millSetting
                (.read (Command.talkLine "old  mill"))).console.session.current =
                some ⟨0⟩ := by
  have opened : (({} : Console).execute millSetting
      (.read (Command.talkLine "old  mill"))).console.session.current = some ⟨0⟩ := by
    decide +kernel
  refine ⟨rfl, rfl, by decide +kernel, by decide +kernel, fun opens => ?_, opened⟩
  have current := opens.current
  rw [opened] at current
  cases current

end Console

end Colloquy
