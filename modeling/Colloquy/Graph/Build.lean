import Colloquy.Graph.Basic
import Colloquy.Script.Validation

/-!
# Graphs from scripts

Turns a script into a graph. The script is validated first; then every
identifier is looked up among those entered so far, and each look-up and each
effect may fail on its own account.
-/

namespace Colloquy.Graph

open Colloquy.Flag (Bindings)
open Colloquy.Script (EntryKind Finding)

inductive BuildError where
  /-- Validation found what keeps the script from loading. -/
  | invalid (findings : List Finding)
  /-- An identifier names no entry entered so far. -/
  | unknown (kind : EntryKind) (symbol : String)
  | misfit (cause : Effect.Misfit)
  | withinChoice (choice : String) (cause : BuildError)
  deriving DecidableEq

/-- The wordings of an error and of its causes, outermost first. -/
def BuildError.chain : BuildError → List String
  | .invalid findings => [Script.aggregate findings]
  | .unknown kind symbol => ["unknown " ++ kind.label ++ " '" ++ symbol ++ "'"]
  | .misfit cause => [cause.message]
  | .withinChoice choice cause =>
      ("while building choice '" ++ choice ++ "'") :: cause.chain

/-- The positions of the identifiers entered so far. -/
structure Symbols where
  speakers : Bindings SpeakerId := .empty
  nodes : Bindings NodeId := .empty
  choices : Bindings ChoiceId := .empty
  deriving Inhabited

namespace Symbols

def speaker (symbols : Symbols) (symbol : String) : Except BuildError SpeakerId :=
  match symbols.speakers.find? symbol with
  | some id => .ok id
  | none => .error (.unknown .speaker symbol)

def node (symbols : Symbols) (symbol : String) : Except BuildError NodeId :=
  match symbols.nodes.find? symbol with
  | some id => .ok id
  | none => .error (.unknown .node symbol)

def choice (symbols : Symbols) (symbol : String) : Except BuildError ChoiceId :=
  match symbols.choices.find? symbol with
  | some id => .ok id
  | none => .error (.unknown .choice symbol)

end Symbols

/-- Looks up an optional identifier. -/
def resolve? {α : Type} (find : String → Except BuildError α) :
    Option String → Except BuildError (Option α)
  | none => .ok none
  | some symbol => (find symbol).map some

/-- A graph under construction and the identifiers entered so far. -/
structure Draft where
  graph : Graph := {}
  symbols : Symbols := {}
  deriving Inhabited

def Draft.enterSpeaker (draft : Draft) (entry : Script.Speaker) : Draft :=
  let (id, graph) := draft.graph.addSpeaker
    { symbol := entry.id, name := entry.name, portrait := entry.portrait,
      table := entry.table }
  { graph
    symbols :=
      { draft.symbols with speakers := draft.symbols.speakers.insert entry.id id } }

/-- Enters a node, as yet without its choices. -/
def Draft.enterNode (draft : Draft) (entry : Script.Node) :
    Except BuildError Draft := do
  let speaker ← resolve? draft.symbols.speaker entry.speaker
  let (id, graph) := draft.graph.addNode
    { symbol := entry.id, speaker, text := entry.text, table := entry.table }
  return {
    graph
    symbols := { draft.symbols with nodes := draft.symbols.nodes.insert entry.id id } }

def resolveEffects (effects : List Script.Effect) : Except BuildError (List Effect) :=
  (Effect.ofScripts effects).mapError .misfit

def resolveChoice (symbols : Symbols) (entry : Script.Choice) :
    Except BuildError Choice := do
  let target ← resolve? symbols.node entry.target
  let effects ← resolveEffects entry.effects
  return {
    symbol := entry.id
    prompt := entry.prompt
    table := entry.table
    target
    visible := entry.visible
    unlocked := entry.unlocked
    effects }

def Draft.enterChoice (draft : Draft) (entry : Script.Choice) :
    Except BuildError Draft := do
  let choice ← (resolveChoice draft.symbols entry).mapError (.withinChoice entry.id)
  let (id, graph) := draft.graph.addChoice choice
  return {
    graph
    symbols :=
      { draft.symbols with choices := draft.symbols.choices.insert entry.id id } }

def Draft.attach (node : NodeId) (draft : Draft) (symbol : String) :
    Except BuildError Draft := do
  let choice ← draft.symbols.choice symbol
  return { draft with graph := (draft.graph.attachChoice? node choice).getD draft.graph }

def Draft.attachChoices (draft : Draft) (entry : Script.Node) :
    Except BuildError Draft := do
  let node ← draft.symbols.node entry.id
  entry.choices.foldlM (Draft.attach node) draft

/-- Enters a trigger under its trimmed name. -/
def Draft.enterTrigger (draft : Draft) (entry : Script.Trigger) :
    Except BuildError Draft := do
  let node ← resolve? draft.symbols.node entry.node
  return { draft with graph := draft.graph.addTrigger (Text.trim entry.name) node }

/-- The graph of a script that need not be valid. -/
def assemble (script : Script) : Except BuildError Graph := do
  let draft : Draft := script.speakers.foldl Draft.enterSpeaker {}
  let draft ← script.nodes.foldlM Draft.enterNode draft
  let draft ← script.choices.foldlM Draft.enterChoice draft
  let draft ← script.nodes.foldlM Draft.attachChoices draft
  let draft ← script.triggers.foldlM Draft.enterTrigger draft
  return { draft.graph with triggers := draft.graph.triggers.prepare }

def checkScript (script : Script) : Except BuildError Unit :=
  if script.fatalFindings.isEmpty then
    .ok ()
  else
    .error (.invalid script.fatalFindings)

/-- The graph of a script, or why it has none. -/
def ofScript (script : Script) : Except BuildError Graph := do
  checkScript script
  assemble script

end Colloquy.Graph
