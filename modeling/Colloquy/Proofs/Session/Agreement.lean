import Colloquy.Proofs.Session.Coherence

/-!
# Agreement of the fields of a session

Phase, current node and pending choices of a session, after any calls over any
graph: what each of them tells about the others and about the graph. The graph
may have gaps, and calls may be refused.
-/

namespace Colloquy.Session

open Colloquy.Flag (Store)
open Colloquy.Graph (NodeId ChoiceId)

variable {graph : Graph} {session : Session}

/-- The session after calls. With each of them the host hands in flags of its own. -/
def after (graph : Graph) (resolver : Resolver) (session : Session)
    (calls : List (Call × Store)) : Session :=
  calls.foldl
    (fun session call => (perform graph resolver session call.2 call.1).session) session

/-- Whatever is called, a coherent session stays coherent. -/
theorem Coherent.after
    (coherent : Coherent graph session)
    (resolver : Resolver) (calls : List (Call × Store)) :
    Coherent graph (after graph resolver session calls) := by
  induction calls generalizing session with
  | nil =>
      exact coherent
  | cons head tail inductionHypothesis =>
      exact inductionHypothesis (coherent.perform resolver head.2 head.1)

/-- The choices on offer at a node: several, in the order of the node, and all
in the graph. -/
structure OfferStands
    (graph : Graph) (session : Session) (node : Graph.Node) : Prop where
  several : 2 ≤ session.pending.length
  ordered : (session.pending.map (·.choice)).Sublist node.choices
  exist : ∀ entry ∈ session.pending, ∃ choice, graph.choice? entry.choice = some choice

structure FieldsAgree (graph : Graph) (session : Session) : Prop where
  /-- A node is current exactly while a line or an offer stands. -/
  current_isSome_iff :
    session.current.isSome = true ↔
      session.phase = .presenting ∨ session.phase = .choosing
  current_exists : ∀ id, session.current = some id → ∃ node, graph.node? id = some node
  pending_eq_nil : session.phase ≠ .choosing → session.pending = []
  offer_stands :
    session.phase = .choosing →
      ∃ id node, session.current = some id ∧ graph.node? id = some node ∧
        OfferStands graph session node

/-- There is a current node exactly while one is presented or chosen from. -/
theorem Coherent.current_isSome_iff
    (coherent : Coherent graph session) :
    session.current.isSome = true ↔
      session.phase = .presenting ∨ session.phase = .choosing := by
  cases coherent with
  | _ =>
      simp

/-- While choices are on offer, they are those of the current node. -/
theorem Coherent.offer_stands
    (coherent : Coherent graph session)
    (choosing : session.phase = .choosing) :
    ∃ id node, session.current = some id ∧ graph.node? id = some node ∧
      OfferStands graph session node := by
  cases coherent with
  | choosing found several ordered exist =>
      exact ⟨_, _, rfl, found, several, ordered, exist⟩
  | _ =>
      cases choosing

/-- After any calls on a new session over any graph, with whatever flags, the
fields agree. -/
theorem fields_agree_after_calls
    (graph : Graph) (resolver : Resolver) (calls : List (Call × Store)) :
    FieldsAgree graph (after graph resolver {} calls) := by
  have coherent : Coherent graph (after graph resolver {} calls) :=
    Coherent.idle.after resolver calls
  exact {
    current_isSome_iff := coherent.current_isSome_iff
    current_exists := fun _ current => coherent.exists_current_node current
    pending_eq_nil := coherent.pending_eq_nil
    offer_stands := coherent.offer_stands }

end Colloquy.Session
