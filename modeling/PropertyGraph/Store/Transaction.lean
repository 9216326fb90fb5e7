import PropertyGraph.Decimal.Digits
import PropertyGraph.Graph.Interface
import PropertyGraph.Store.Commit
import PropertyGraph.Store.Traversal

/-!
# Transactions of the in-memory store

- `Staging`: the operations a transaction has accepted, in order. Staging looks at
  nothing but the operation, so a transaction knows nothing of the store until it
  commits.
- `StoreTransaction`: a store and a transaction against it, which is what requests
  work with.
- `Session`: one store and any number of transactions open at once, by name.
-/

namespace PropertyGraph

/-- The operations a transaction has accepted, in order. -/
structure Staging where
  operations : List Operation

namespace Staging

instance : EmptyCollection Staging := ⟨⟨[]⟩⟩
instance : Inhabited Staging := ⟨∅⟩

/-- Whether nothing has been accepted. -/
def isEmpty (t : Staging) : Bool := t.operations.isEmpty

/-- Accept an operation that passes its check. -/
def stage (t : Staging) (op : Operation) : Except StoreFault Staging :=
  op.check.map fun _ => ⟨t.operations ++ [op]⟩

/-- What a successful commit reports: nothing if there was nothing to do. -/
def receipt (t : Staging) : List LogEvent :=
  if t.isEmpty then []
  else
    [⟨.info, "Committed " ++ decimal t.operations.length ++ " staged operations across " ++
      decimal (Store.distinct (t.operations.map Operation.partition)).length ++ " partitions"⟩]

end Staging

/-- A store and what a transaction against it has accepted. -/
structure StoreTransaction where
  store : Store
  staging : Staging

namespace StoreTransaction

/-- Stage an operation; a rejected one leaves no trace. -/
def stage (op : Operation) (t : StoreTransaction) : Except StoreFault Unit × StoreTransaction :=
  match t.staging.stage op with
  | .ok staging => (.ok (), { t with staging })
  | .error e => (.error e, t)

/-- Commit to the store; a failure leaves it as it was. -/
def commit (t : StoreTransaction) : Except StoreFault Unit × StoreTransaction :=
  match t.store.commit t.staging.operations with
  | .ok store => (.ok (), ⟨store, ∅⟩)
  | .error e => (.error e, ⟨t.store, ∅⟩)

end StoreTransaction

instance : Transaction StoreTransaction where
  stage := StoreTransaction.stage
  commit := StoreTransaction.commit
  receipt t := t.staging.receipt

instance : TransactionalStore Store StoreTransaction where
  nodeKeys s partition kind := (s.nodeKeys partition kind).map (·.map (·.map .ok))
  fetchNode := Store.fetchNode
  fetchNodePart := Store.fetchNodePart
  fetchEdge := Store.fetchEdge
  nodeCount := Store.nodeCount
  edgeCount := Store.edgeCount
  nodeKinds := Store.nodeKinds
  edgeKinds := Store.edgeKinds
  traverse := Store.traverse
  begin s := ⟨s, ∅⟩
  settle t := t.store

/-! ## Several transactions at once -/

/-- A store and the transactions that are open against it, by name. -/
structure Session where
  store : Store
  pending : Bindings Staging

namespace Session

/-- A fresh store without open transactions. -/
def start : Session := ⟨∅, []⟩

/-- The open transaction with a name. -/
def staging? (s : Session) (name : String) : Option Staging := Bindings.get? name s.pending

/-- The open transactions other than one. -/
def others (s : Session) (name : String) : Bindings Staging :=
  s.pending.filter fun e => e.1 ≠ name

/-- Open a transaction; one that is open under the name is dropped. -/
def begin (s : Session) (name : String) : Session :=
  { s with pending := (name, ∅) :: s.others name }

/-- Drop a transaction. -/
def drop (s : Session) (name : String) : Session := { s with pending := s.others name }

/-- Stage an operation into an open transaction. Without one, nothing happens. -/
def stage (s : Session) (name : String) (op : Operation) : Except StoreFault Unit × Session :=
  match s.staging? name with
  | none => (.ok (), s)
  | some t =>
    match t.stage op with
    | .ok t => (.ok (), { s with pending := (name, t) :: s.others name })
    | .error e => (.error e, s)

/-- Commit an open transaction, which ends it either way. Without one, nothing happens. -/
def commit (s : Session) (name : String) : Except StoreFault Unit × Session :=
  match s.staging? name with
  | none => (.ok (), s)
  | some t =>
    match s.store.commit t.operations with
    | .ok store => (.ok (), ⟨store, s.others name⟩)
    | .error e => (.error e, ⟨s.store, s.others name⟩)

end Session

end PropertyGraph
