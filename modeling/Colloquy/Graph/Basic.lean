import Colloquy.Effect
import Colloquy.Graph.Trigger

/-!
# Dialogue graphs

The form of a dialogue that sessions walk: speakers, nodes and choices in order,
referring to each other by position. A graph can be put together piece by piece,
in which case positions may dangle.
-/

namespace Colloquy

namespace Graph

def NodeId.text (id : NodeId) : String := "node#" ++ Number.showNat id.index

def ChoiceId.text (id : ChoiceId) : String := "choice#" ++ Number.showNat id.index

structure Speaker where
  symbol : String
  name : String
  /-- A handle to a picture; empty if there is none. -/
  portrait : String := ""
  table : Option String := none
  deriving DecidableEq

/-- One line of dialogue and its outgoing choices. -/
structure Node where
  symbol : String
  speaker : Option SpeakerId := none
  text : String
  table : Option String := none
  /-- The outgoing choices, in the order of offering. -/
  choices : List ChoiceId := []
  deriving DecidableEq

/-- Whether a node has no outgoing choices and so ends the dialogue after its line. -/
def Node.isTerminal (node : Node) : Bool := node.choices.isEmpty

structure Choice where
  symbol : String
  prompt : String := ""
  table : Option String := none
  /-- The node it leads to; none ends the dialogue. -/
  target : Option NodeId := none
  visible : Option Condition := none
  /-- Whether an offered choice can be taken. -/
  unlocked : Option Condition := none
  effects : List Effect := []

end Graph

/-- A dialogue with its references resolved to positions. -/
structure Graph where
  speakers : List Graph.Speaker := []
  nodes : List Graph.Node := []
  choices : List Graph.Choice := []
  triggers : Graph.TriggerMap := {}
  deriving Inhabited

namespace Graph

def addSpeaker (graph : Graph) (speaker : Speaker) : SpeakerId × Graph :=
  (⟨graph.speakers.length⟩, { graph with speakers := graph.speakers ++ [speaker] })

def addNode (graph : Graph) (node : Node) : NodeId × Graph :=
  (⟨graph.nodes.length⟩, { graph with nodes := graph.nodes ++ [node] })

def addChoice (graph : Graph) (choice : Choice) : ChoiceId × Graph :=
  (⟨graph.choices.length⟩, { graph with choices := graph.choices ++ [choice] })

/-- Appends a choice to those of a node, if there is such a node. -/
def attachChoice? (graph : Graph) (id : NodeId) (choice : ChoiceId) : Option Graph :=
  graph.nodes[id.index]?.map fun node =>
    let extended := { node with choices := node.choices ++ [choice] }
    { graph with nodes := graph.nodes.set id.index extended }

def addTrigger (graph : Graph) (name : String) (node : Option NodeId) : Graph :=
  { graph with triggers := graph.triggers.push name node }

def speaker? (graph : Graph) (id : SpeakerId) : Option Speaker :=
  graph.speakers[id.index]?

def node? (graph : Graph) (id : NodeId) : Option Node := graph.nodes[id.index]?

def choice? (graph : Graph) (id : ChoiceId) : Option Choice := graph.choices[id.index]?

def start? (graph : Graph) (trigger : String) : Option NodeId :=
  graph.triggers.start? trigger

/-- The position of the first node with an identifier. -/
def findNode? (graph : Graph) (symbol : String) : Option NodeId :=
  (graph.nodes.findIdx? fun node => node.symbol = symbol).map .mk

end Graph

end Colloquy
