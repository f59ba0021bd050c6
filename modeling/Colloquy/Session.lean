import Colloquy.Flag.Expression
import Colloquy.Graph.Basic
import Colloquy.Localization

/-!
# Sessions

One walk through a graph. A session presents a line, waits to be advanced, and
then ends, follows the only visible choice, or offers the visible ones and waits
for a selection. Conditions are evaluated on every visit. Each call is a total
function; its step records the answer, the session and the flags after the call,
and the events emitted by it.
-/

namespace Colloquy

open Colloquy.Flag (Store)
open Colloquy.Graph (NodeId ChoiceId)

namespace Session

inductive Phase where
  /-- Nothing has been started, or the dialogue was closed. -/
  | idle
  /-- A line was presented and waits for an advance. -/
  | presenting
  /-- Choices are on offer and wait for a selection. -/
  | choosing
  | terminal
  deriving DecidableEq, Repr

/-- The name of a phase, for logs. -/
def Phase.title : Phase → String
  | .idle => "Idle"
  | .presenting => "Presenting"
  | .choosing => "Choosing"
  | .terminal => "Terminal"

structure Pending where
  choice : ChoiceId
  unlocked : Bool
  deriving DecidableEq, Repr

structure Offer where
  choice : ChoiceId
  prompt : String
  unlocked : Bool
  deriving DecidableEq

inductive Event where
  | line (node : NodeId) (speaker : String) (portrait : Option String) (text : String)
  | choices (offers : List Offer)
  | ended
  deriving DecidableEq

inductive Issue where
  | noChoicesPending
  | outOfRange (available : Nat)
  | locked
  deriving DecidableEq, Repr

def Issue.message : Issue → String
  | .noChoicesPending => "no choices are waiting for a selection"
  | .outOfRange available =>
      "only " ++ Number.showNat available ++ " choices are on offer"
  | .locked => "that choice is locked"

inductive Error where
  | unknownTrigger (trigger : String)
  | alreadyActive
  | notActive
  | invalidSelection (index : Nat) (issue : Issue)
  /-- A condition of a choice has no value. -/
  | condition (choice : ChoiceId) (cause : Condition.Error)
  | missingNode (node : NodeId)
  | missingChoice (choice : ChoiceId)
  deriving DecidableEq, Repr

def Error.message : Error → String
  | .unknownTrigger trigger =>
    "dialogue trigger '" ++ trigger ++ "' was not found or has no start node"
  | .alreadyActive => "a dialogue is already open"
  | .notActive => "no dialogue is open"
  | .invalidSelection index issue =>
    "choice " ++ Number.showNat index ++ " cannot be selected: " ++ issue.message
  | .condition choice _ => "conditions on " ++ choice.text ++ " could not be evaluated"
  | .missingNode node => node.text ++ " is referenced but does not exist"
  | .missingChoice choice => choice.text ++ " is referenced but does not exist"

end Session

/-- The state of one walk through a graph. -/
structure Session where
  phase : Session.Phase := .idle
  /-- The node whose line was presented last, while a dialogue is open. -/
  current : Option NodeId := none
  /-- The choices on offer, in authored order. -/
  pending : List Session.Pending := []
  deriving DecidableEq, Inhabited

namespace Session

structure Step (α : Type) where
  /-- The answer of the call, or why it failed. -/
  answer : Except Error α
  session : Session
  flags : Store
  /-- The events emitted by the call, in order. -/
  events : List Event := []

def isActive (session : Session) : Bool := session.current.isSome

def finish (flags : Store) : Step Phase where
  answer := .ok .terminal
  session := { phase := .terminal }
  flags := flags
  events := [.ended]

def lineEvent
    (graph : Graph) (resolver : Resolver) (id : NodeId) (node : Graph.Node) : Event :=
  let speaker := node.speaker.bind graph.speaker?
  let name := match speaker with
    | some entry => resolver.localize entry.table entry.name
    | none => ""
  let portrait := (speaker.map (·.portrait)).filter (! ·.isEmpty)
  .line id name portrait (resolver.localize node.table node.text)

/-- Moves to a node and presents its line. A missing node changes nothing. -/
def present (graph : Graph) (resolver : Resolver) (session : Session) (flags : Store)
    (id : NodeId) : Step Phase :=
  match graph.node? id with
  | none => { answer := .error (.missingNode id), session, flags }
  | some node => {
      answer := .ok .presenting
      session := { session with phase := .presenting, current := some id }
      flags
      events := [lineEvent graph resolver id node] }

/-- Moves to a target, or ends the dialogue if there is none. -/
def proceed (graph : Graph) (resolver : Resolver) (session : Session) (flags : Store) :
    Option NodeId → Step Phase
  | some target => present graph resolver session flags target
  | none => finish flags

/-! ## Calls -/

def start (graph : Graph) (resolver : Resolver) (session : Session) (flags : Store)
    (trigger : String) : Step NodeId :=
  if session.isActive then { answer := .error .alreadyActive, session, flags }
  else
    match graph.start? trigger with
    | none => { answer := .error (.unknownTrigger trigger), session, flags }
    | some first =>
      let step := present graph resolver session flags first
      { step with answer := step.answer.map fun _ => first }

def evaluateGate (flags : Store) (choice : ChoiceId) (gate : Option Condition) :
    Except Error Bool :=
  (Condition.evaluate? flags.hasFlag gate).mapError (.condition choice)

def choiceAt (graph : Graph) (id : ChoiceId) : Except Error Graph.Choice :=
  match graph.choice? id with
  | some choice => .ok choice
  | none => .error (.missingChoice id)

/-- The choices whose visibility condition holds, in order. -/
def visibleChoices (graph : Graph) (flags : Store) :
    List ChoiceId → Except Error (List ChoiceId)
  | [] => .ok []
  | id :: rest => do
    let choice ← choiceAt graph id
    let shown ← evaluateGate flags id choice.visible
    let others ← visibleChoices graph flags rest
    return if shown then id :: others else others

def offers (graph : Graph) (resolver : Resolver) (flags : Store) :
    List ChoiceId → Except Error (List Offer)
  | [] => .ok []
  | id :: rest => do
    let choice ← choiceAt graph id
    let unlocked ← evaluateGate flags id choice.unlocked
    let others ← offers graph resolver flags rest
    return ⟨id, resolver.localize choice.table choice.prompt, unlocked⟩ :: others

def Offer.pending (offer : Offer) : Pending :=
  ⟨offer.choice, offer.unlocked⟩

def offer (graph : Graph) (resolver : Resolver) (session : Session) (flags : Store)
    (visible : List ChoiceId) : Step Phase :=
  match offers graph resolver flags visible with
  | .error error => { answer := .error error, session, flags }
  | .ok shown => {
      answer := .ok .choosing
      session := { session with phase := .choosing, pending := shown.map Offer.pending }
      flags
      events := [.choices shown] }

/-- Leaves a node: ends without visible choices, follows the only one, offers
several. -/
def leave (graph : Graph) (resolver : Resolver) (session : Session) (flags : Store)
    (node : Graph.Node) : Step Phase :=
  match visibleChoices graph flags node.choices with
  | .error error => { answer := .error error, session, flags }
  | .ok [] => finish flags
  | .ok [only] =>
    proceed graph resolver session flags ((graph.choice? only).bind (·.target))
  | .ok visible => offer graph resolver session flags visible

/-- Moves past the current line and tells the phase reached. -/
def advance (graph : Graph) (resolver : Resolver) (session : Session) (flags : Store) :
    Step Phase :=
  match session.phase, session.current with
  | .choosing, _ => { answer := .ok .choosing, session, flags }
  | .presenting, some id =>
    match graph.node? id with
    | none => { answer := .error (.missingNode id), session, flags }
    | some node =>
      if node.isTerminal then finish flags else leave graph resolver session flags node
  | _, _ => { answer := .error .notActive, session, flags }

/-- Takes a choice on offer: applies its effects and moves to its target. The
target is checked before anything changes. -/
def take (graph : Graph) (resolver : Resolver) (session : Session) (flags : Store)
    (id : ChoiceId) : Step Phase :=
  match graph.choice? id with
  | none => { answer := .error (.missingChoice id), session, flags }
  | some choice =>
    match choice.target.filter fun target => (graph.node? target).isNone with
    | some missing => { answer := .error (.missingNode missing), session, flags }
    | none =>
      proceed graph resolver { session with pending := [] }
        (Effect.applyAll choice.effects flags)
        choice.target

/-- Takes the choice at an index of the offer and tells the phase reached. -/
def select (graph : Graph) (resolver : Resolver) (session : Session) (flags : Store)
    (index : Nat) : Step Phase :=
  if session.phase ≠ .choosing then
    { answer := .error (.invalidSelection index .noChoicesPending), session, flags }
  else
    match session.pending[index]? with
    | none =>
      { answer := .error (.invalidSelection index (.outOfRange session.pending.length))
        session
        flags }
    | some picked =>
      if picked.unlocked then take graph resolver session flags picked.choice
      else { answer := .error (.invalidSelection index .locked), session, flags }

/-- Closes an open dialogue and tells whether there was one. -/
def close (session : Session) (flags : Store) : Step Bool :=
  if session.isActive then
    { answer := .ok true, session := {}, flags, events := [.ended] }
  else { answer := .ok false, session, flags }

/-- The form of a pending choice within that of its session. -/
def Pending.diagnostic (pending : Pending) : String :=
  "PendingChoice \x7b choice: ChoiceId(" ++ Number.showNat pending.choice.index ++
    "), unlocked: " ++ (if pending.unlocked then "true" else "false") ++ " \x7d"

/-- The form in which a host logs a session. No command shows it. -/
def diagnostic (session : Session) : String :=
  let current := match session.current with
    | some id => "Some(NodeId(" ++ Number.showNat id.index ++ "))"
    | none => "None"
  "DialogueSession \x7b state: " ++ session.phase.title ++ ", current: " ++ current ++
    ", pending: [" ++
      String.intercalate ", " (session.pending.map Pending.diagnostic) ++
    "], .. \x7d"

end Session

end Colloquy
