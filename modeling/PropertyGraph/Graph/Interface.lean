import PropertyGraph.Graph.Operation
import PropertyGraph.Log

/-!
# What a request needs from a store

Requests are answered by any store that offers these operations; they know nothing
else about it.

- `Transaction`: accepts or rejects operations one by one, each depending on all
  before it, and commits what it accepted.
- `GraphStore`: reads of single entities, listings, summaries and traversals.
- `TransactionalStore`: a store whose state a transaction can change.
-/

namespace PropertyGraph

/-- A state that operations are staged into. An operation may be rejected, and may
leave a changed state even then. -/
class Transaction (τ : Type) where
  /-- Stage one operation. -/
  stage : Operation → τ → Except StoreFault Unit × τ
  /-- Carry out what was staged, or nothing. -/
  commit : τ → Except StoreFault Unit × τ
  /-- What a successful commit reports. -/
  receipt : τ → List LogEvent

/-- A store that can be read. -/
class GraphStore (σ : Type) where
  /-- The keys of a node kind in a partition, any of which may be unreadable; none if
  the partition or the kind is unknown. -/
  nodeKeys : σ → (partition kind : String) →
    Except StoreFault (Option (List (Except StoreFault String)))
  /-- A node with all its attributes. -/
  fetchNode : σ → (partition key kind : String) → Except StoreFault (Option Node)
  /-- A node with the named attributes. -/
  fetchNodePart : σ → (partition key kind : String) → (names : List String) →
    Except StoreFault (Option Node)
  /-- An edge with all its attributes. -/
  fetchEdge : σ → (partition key kind : String) → Except StoreFault (Option Edge)
  /-- How many nodes of a kind the store knows. -/
  nodeCount : σ → (kind : String) → Nat
  /-- How many edges of a kind the store knows. -/
  edgeCount : σ → (kind : String) → Nat
  /-- The node kinds the store knows. -/
  nodeKinds : σ → List String
  /-- The edge kinds the store knows. -/
  edgeKinds : σ → List String
  /-- The nodes reached from a node and the edges followed, pairwise. -/
  traverse : σ → (partition key kind spec : String) → (allData : Bool) →
    Except StoreFault (List Node × List Edge)

/-- A store that transactions of type `τ` change. -/
class TransactionalStore (σ : Type) (τ : outParam Type) [Transaction τ] extends GraphStore σ where
  /-- A transaction against the store. -/
  begin : σ → τ
  /-- The store as a transaction leaves it. -/
  settle : τ → σ

end PropertyGraph
