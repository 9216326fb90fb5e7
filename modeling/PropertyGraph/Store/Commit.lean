import PropertyGraph.Graph.Operation
import PropertyGraph.Store.Basic

/-!
# Carrying out operations

Operations are checked when they are staged and carried out together.

- `Operation.check`: what staging refuses. It looks at the operation alone.
- `Partition.apply`: carry out one operation. Only an edge with an end at no stored
  node is refused.
- `Store.apply`, `Store.run`: **in place**, one operation after another.
- `Store.commit`: **on working copies**: each partition is copied when the first
  operation names it, and the copies replace the partitions if all went well.
-/

namespace PropertyGraph

/-- Refuse an operation that no store state can make sense of: the entity is checked
first, then the partition. -/
def Operation.check : Operation → Except StoreFault Unit
  | .updateNode p n => do n.check; checkPartition p
  | .storeNode p n => do n.check; checkPartition p
  | .removeNode p key kind => do checkNames .node key kind; checkPartition p
  | .storeEdge p e => do e.check; checkPartition p
  | .removeEdge p key kind => do checkNames .edge key kind; checkPartition p

namespace Partition

/-- Refuse an end of an edge that lies at no stored node. -/
def checkEndpoint (p : Partition) (e : Edge) (side : EndSide) : Except StoreFault Unit := do
  let d ← e.endpoint side
  if (p.node? d.key d.kind).isSome then .ok () else .error (.missingEndpoint d.key d.kind)

/-- Store an edge between stored nodes. -/
def linkEdge (p : Partition) (e : Edge) : Except StoreFault Partition := do
  p.checkEndpoint e .first
  p.checkEndpoint e .second
  return p.putEdge e

/-- Carry out an operation. -/
def apply (p : Partition) : Operation → Except StoreFault Partition
  | .updateNode _ n => .ok (p.mergeNode n)
  | .storeNode _ n => .ok (p.putNode n)
  | .removeNode _ key kind => .ok (p.removeNode key kind)
  | .storeEdge _ e => p.linkEdge e
  | .removeEdge _ key kind => .ok (p.eraseEdge key kind)

end Partition

namespace Store

/-- Carry out an operation in place. -/
def apply (s : Store) (op : Operation) : Except StoreFault Store := do
  let p ← (s.partitionOrEmpty op.partition).apply op
  return ⟨s.partitions.insert op.partition p⟩

/-- Carry out operations in place, up to the first one that is refused. -/
def run (s : Store) (ops : List Operation) : Except StoreFault Store := ops.foldlM apply s

/-- Carry out an operation on the working copy of its partition. -/
def applyToCopy (s : Store) (copies : NameMap Partition) (op : Operation) :
    Except StoreFault (NameMap Partition) := do
  let p ← ((copies.get? op.partition).getD (s.partitionOrEmpty op.partition)).apply op
  return copies.insert op.partition p

/-- The working copies after all operations. -/
def workingCopies (s : Store) (ops : List Operation) : Except StoreFault (NameMap Partition) :=
  ops.foldlM s.applyToCopy ∅

/-- Carry out all operations, or refuse for the reason of the first one that cannot be. -/
def commit (s : Store) (ops : List Operation) : Except StoreFault Store := do
  let copies ← s.workingCopies ops
  return ⟨s.partitions.union copies⟩

end Store

end PropertyGraph
