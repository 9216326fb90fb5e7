import PropertyGraph.Graph.Entity

/-!
# Operations on a graph

The five ways to change a graph. An operation names its partition; a transaction
collects operations and carries them out together.
-/

namespace PropertyGraph

/-- One change of a graph. -/
inductive Operation where
  /-- Lay the attributes over those of the stored node; store the node if there is none. -/
  | updateNode (partition : String) (node : Node)
  /-- Store a node, replacing the one with its key and kind. -/
  | storeNode (partition : String) (node : Node)
  /-- Remove a node with its edges and all that its removal cascades to. -/
  | removeNode (partition key kind : String)
  /-- Store an edge, replacing the one with its key and kind. -/
  | storeEdge (partition : String) (edge : Edge)
  /-- Remove an edge. -/
  | removeEdge (partition key kind : String)

/-- The partition an operation is about. -/
def Operation.partition : Operation → String
  | .updateNode p _ => p
  | .storeNode p _ => p
  | .removeNode p _ _ => p
  | .storeEdge p _ => p
  | .removeEdge p _ _ => p

end PropertyGraph
