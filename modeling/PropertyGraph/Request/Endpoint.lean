import PropertyGraph.Graph.Interface
import PropertyGraph.Request.Batch
import PropertyGraph.Request.Page
import PropertyGraph.Request.Pairing
import PropertyGraph.Request.Path
import PropertyGraph.Total

/-!
# Answering graph requests

- `Answer`: a document, with the size of the listed population if it is a list, or
  nothing but success.
- `Endpoint.get`: reads: all nodes of a partition or of a kind, one entity, or a
  traversal.
- `Endpoint.mutate`: writes: a batch into a partition.

Both work with any store.
-/

namespace PropertyGraph

/-- A successful answer. -/
inductive Answer where
  /-- A document; `total` is the size of the population it lists from. -/
  | document (body : Json) (total : Option Nat)
  /-- Success without a document. -/
  | empty

namespace Endpoint

variable {σ : Type} [GraphStore σ]

/-- A fault of the store while reading. -/
def readFault {α : Type} (r : Except StoreFault α) : Except RequestError α :=
  r.mapError .fetchFailure

/-- A node whose key was listed a moment ago. -/
def fetchListed (store : σ) (partition kind key : String) : Except RequestError Attributes :=
  match GraphStore.fetchNode store partition key kind with
  | .error e => .error (.fetchFailure e)
  | .ok (some n) => .ok n.attributes
  | .ok none =>
    .error (.fetchFailure (.storage
      ("Node " ++ key ++ " (" ++ kind ++ ") disappeared while listing")))

/-- The listings of several kinds, of which unknown ones do not count. -/
def listKinds (store : σ) (partition : String) :
    List String → Except StoreFault (List (String × List (Except StoreFault String)))
  | [] => .ok []
  | kind :: kinds => do
    let keys ← GraphStore.nodeKeys store partition kind
    let rest ← listKinds store partition kinds
    return match keys with
      | none => rest
      | some keys => (kind, keys) :: rest

/-- The references of several listings, one listing after another. -/
def references (sources : List (String × List (Except StoreFault String))) :
    List (Except StoreFault (String × String)) :=
  sources.flatMap fun (kind, keys) => keys.map fun key => key.map fun key => (kind, key)

/-- List the nodes of all kinds of a partition, kinds in the order of the store. -/
def listPartition (store : σ) (partition : String) (w : Window) : Except RequestError Answer := do
  let kinds := GraphStore.nodeKinds store
  let population := total (kinds.map (GraphStore.nodeCount store))
  let sources ← readFault (listKinds store partition kinds)
  if sources.isEmpty then
    throw (.notFound "Unknown partition")
  let rows ← page (references sources) w fun (kind, key) => fetchListed store partition kind key
  return .document (encodeList rows) (some population)

/-- List the nodes of one kind of a partition. -/
def listKind (store : σ) (partition kind : String) (w : Window) : Except RequestError Answer := do
  match ← readFault (GraphStore.nodeKeys store partition kind) with
  | none => throw (.notFound "Unknown partition or node kind")
  | some keys =>
    let population := GraphStore.nodeCount store kind
    let rows ← page keys w (fetchListed store partition kind)
    return .document (encodeList rows) (some population)

/-- Fetch one entity. -/
def fetchEntity (store : σ) (partition : String) (entity : EntityType) (kind key : String) :
    Except RequestError Answer :=
  match entity with
  | .node => do
    match ← readFault (GraphStore.fetchNode store partition key kind) with
    | none => throw (.notFound "Unknown partition or node kind")
    | some n => return .document n.attributes.toJson none
  | .edge => do
    match ← readFault (GraphStore.fetchEdge store partition key kind) with
    | none => throw (.notFound "Unknown partition or edge kind")
    | some e => return .document e.attributes.toJson none

/-- Follow a spec from a node that has to exist. -/
def traverse (store : σ) (partition kind key spec : String) : Except RequestError Answer := do
  match ← readFault (GraphStore.fetchNodePart store partition key kind namingAttributes) with
  | none => throw (.notFound "Unknown partition or node kind")
  | some _ =>
    let (nodes, edges) ← readFault (GraphStore.traverse store partition key kind spec true)
    let (nodes, edges) ← pairByKey nodes edges
    return .document (encodeTraversal nodes edges) none

/-- The window that parameters ask for. -/
def window (q : Query) : Except RequestError Window :=
  (Window.ofQuery q).mapError fun b => .invalidRequest b.message

/-- What segments address. -/
def shape (segments : List String) (access : Access) : Except RequestError RequestShape :=
  (resolve segments access).mapError fun f => .invalidRequest f.message

/-- The error for listing edges. -/
def edgeListing : RequestError :=
  .invalidRequest "Entity type must be n (nodes) when requesting all items"

/-- Answer a read of what segments address. -/
def get (store : σ) (segments : List String) (q : Query) : Except RequestError Answer := do
  match ← shape segments .read with
  | .partition _ => throw (.invalidRequest Access.read.usage)
  | .entityList p .node => listPartition store p (← window q)
  | .kindList p .node kind => listKind store p kind (← window q)
  | .entityList _ .edge => throw edgeListing
  | .kindList _ .edge _ => throw edgeListing
  | .entity p t kind key => fetchEntity store p t kind key
  | .traversal p kind key spec => traverse store p kind key spec

/-- The partition a write is about, and what its body is expected to hold. -/
def writeTarget : RequestShape → Except RequestError (String × BodyTarget)
  | .partition p => .ok (p, .graph)
  | .entityList p t => .ok (p, .entities t)
  | _ => .error (.invalidRequest Access.write.usage)

/-- The entities of a body. -/
def decode (target : BodyTarget) (body : Bytes) : Except RequestError Batch :=
  (decodeBody target body).mapError fun f => .malformedBody (f.message target body)

/-- The partition and the entities of a write. -/
def writeRequest (segments : List String) (body : Bytes) :
    Except RequestError (String × Batch) := do
  let (partition, target) ← writeTarget (← shape segments .write)
  let batch ← decode target body
  return (partition, batch)

/-- The answer to a write, the store after it, and what is reported. -/
structure Mutated (σ : Type) where
  answer : Except RequestError Answer
  store : σ
  events : List LogEvent

/-- Answer a write. -/
def mutate {σ τ : Type} [Transaction τ] [TransactionalStore σ τ] (store : σ) (verb : Verb)
    (segments : List String) (body : Bytes) : Mutated σ :=
  match writeRequest segments body with
  | .error e => ⟨.error e, store, []⟩
  | .ok (partition, batch) =>
    let applied := batch.apply verb partition (TransactionalStore.begin store)
    ⟨applied.result.map fun _ => .empty, TransactionalStore.settle applied.transaction,
      applied.events⟩

end Endpoint

end PropertyGraph
