import PropertyGraph.Graph.Interface
import PropertyGraph.Request.Body
import PropertyGraph.Request.Error

/-!
# Applying a batch

The nodes of a request are staged first, then its edges, each list in order. The
first rejected item ends the request and nothing is committed.

- `Verb`: what a request does; it picks one strategy for nodes and one for edges.
- `Strategy`: how an entity becomes an operation.
- `BatchItem`: an entity of a batch with its place, its operation and its names.
- `stageItems`: stage items up to the first rejection.
- `Batch.apply`: stage all items, then commit.

All of this works with any transaction.
-/

namespace PropertyGraph

/-- How an entity is staged. -/
inductive Strategy where
  /-- Lay its attributes over the stored entity. -/
  | merge
  /-- Put it in the place of the stored entity. -/
  | replace
  /-- Remove the entity with its key and kind. -/
  | remove
  deriving DecidableEq

namespace Strategy

/-- The operation for a node. -/
def nodeOperation (s : Strategy) (partition : String) (n : Node) : Operation :=
  match s with
  | .merge => .updateNode partition n
  | .replace => .storeNode partition n
  | .remove => .removeNode partition n.key n.kind

/-- The operation for an edge. Edges are not updated in part. -/
def edgeOperation (s : Strategy) (partition : String) (e : Edge) : Operation :=
  match s with
  | .merge => .storeEdge partition e
  | .replace => .storeEdge partition e
  | .remove => .removeEdge partition e.key e.kind

end Strategy

/-- What a request does with the entities of its body. -/
inductive Verb where
  /-- Update nodes, replace edges. -/
  | put
  /-- Replace nodes and edges. -/
  | post
  /-- Remove nodes and edges. -/
  | delete
  deriving DecidableEq

namespace Verb

/-- The verb of a request method. -/
def ofMethod? (method : String) : Option Verb :=
  if method = "PUT" then some .put
  else if method = "POST" then some .post
  else if method = "DELETE" then some .delete
  else none

/-- The word for a verb. -/
def word : Verb → String
  | .put => "Put"
  | .post => "Post"
  | .delete => "Delete"

/-- What is done with nodes. -/
def nodeStrategy : Verb → Strategy
  | .put => .merge
  | .post => .replace
  | .delete => .remove

/-- What is done with edges. -/
def edgeStrategy : Verb → Strategy
  | .put => .replace
  | .post => .replace
  | .delete => .remove

end Verb

/-- An entity of a batch, ready to be staged. -/
structure BatchItem where
  entity : EntityType
  /-- The place within the nodes or the edges, from one on. -/
  position : Nat
  key : String
  kind : String
  operation : Operation

/-- The error for a rejected item. -/
def BatchItem.rejected (i : BatchItem) (reason : StoreFault) : RequestError :=
  .badItem i.entity i.position i.kind i.key reason

/-- How many entities were applied. -/
structure BatchOutcome where
  nodes : Nat
  edges : Nat
  deriving DecidableEq

namespace Batch

/-- The nodes, ready to be staged. -/
def nodeItems (b : Batch) (verb : Verb) (partition : String) : List BatchItem :=
  b.nodes.zipIdx.map fun (n, i) =>
    ⟨.node, i + 1, n.key, n.kind, verb.nodeStrategy.nodeOperation partition n⟩

/-- The edges, ready to be staged. -/
def edgeItems (b : Batch) (verb : Verb) (partition : String) : List BatchItem :=
  b.edges.zipIdx.map fun (e, i) =>
    ⟨.edge, i + 1, e.key, e.kind, verb.edgeStrategy.edgeOperation partition e⟩

/-- All items, nodes first. -/
def items (b : Batch) (verb : Verb) (partition : String) : List BatchItem :=
  b.nodeItems verb partition ++ b.edgeItems verb partition

/-- The counts of a batch. -/
def outcome (b : Batch) : BatchOutcome := ⟨b.nodes.length, b.edges.length⟩

end Batch

/-- Stage items one after another, up to the first rejection. -/
def stageItems {τ : Type} [Transaction τ] (t : τ) :
    List BatchItem → Except RequestError Unit × τ
  | [] => (.ok (), t)
  | i :: rest =>
    match Transaction.stage i.operation t with
    | (.ok (), t) => stageItems t rest
    | (.error reason, t) => (.error (i.rejected reason), t)

/-- The answer to a batch, the transaction as it was left, and what is reported. -/
structure Applied (τ : Type) where
  result : Except RequestError BatchOutcome
  transaction : τ
  events : List LogEvent

namespace Batch

/-- What is reported about a committed batch. -/
def report (o : BatchOutcome) (verb : Verb) (partition : String) : LogEvent :=
  ⟨.info, verb.word ++ " committed " ++ decimal o.nodes ++ " nodes and " ++ decimal o.edges ++
    " edges to partition " ++ partition⟩

/-- Stage all items of a batch. -/
def stage {τ : Type} [Transaction τ] (b : Batch) (verb : Verb) (partition : String) (t : τ) :
    Except RequestError BatchOutcome × τ :=
  match stageItems t (b.items verb partition) with
  | (.ok (), t) => (.ok b.outcome, t)
  | (.error e, t) => (.error e, t)

/-- Stage all items of a batch, then commit. -/
def apply {τ : Type} [Transaction τ] (b : Batch) (verb : Verb) (partition : String) (t : τ) :
    Applied τ :=
  match b.stage verb partition t with
  | (.error e, t) => ⟨.error e, t, []⟩
  | (.ok o, t) =>
    match Transaction.commit t with
    | (.error reason, t') => ⟨.error (.commitFailure reason), t', []⟩
    | (.ok (), t') => ⟨.ok o, t', Transaction.receipt t ++ [report o verb partition]⟩

end Batch

end PropertyGraph
