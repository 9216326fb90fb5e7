import PropertyGraph.Store.Basic
import PropertyGraph.Store.TraversalSpec

/-!
# Traversal

A traversal follows the edges at a node that a spec selects and lists what it
reaches: edge kinds ascending, edges in the order of storage.

- `Partition.follow`: one edge, away from the start node. The edge is turned, if
  need be, so that its first end lies at the start node.
- `Partition.traverse`: all edges of a partition.
- `Store.traverse`: nodes reached and edges followed, as two lists of one length.
-/

namespace PropertyGraph

/-- Turn an edge so that the given side becomes its first end. -/
def Edge.orient (e : Edge) (side : EndSide) (start far : EdgeEnd) : Edge :=
  match side with
  | .first => e
  | .second => (e.setEnd .first start).setEnd .second far

/-- Whether a spec selects an edge that is followed from one end to the other. -/
def TraversalSpec.selects (spec : TraversalSpec) (start far : EdgeEnd) (r : NodeRef) : Bool :=
  start.isAt r && spec.allowsStart start.role && spec.allowsEnd far.role far.kind

/-- The ends of an edge with the given side first. -/
def Edge.ends? (e : Edge) (side : EndSide) : Option (EdgeEnd × EdgeEnd) :=
  match e.endpoint side, e.endpoint side.other with
  | .ok start, .ok far => some (start, far)
  | _, _ => none

namespace Partition

/-- Follow an edge from one of the given sides: the first one that the spec selects. -/
def followFrom (p : Partition) (e : Edge) (r : NodeRef) (spec : TraversalSpec) :
    List EndSide → Option (Node × Edge)
  | [] => none
  | side :: sides =>
    match e.ends? side with
    | none => none
    | some (start, far) =>
      if spec.selects start far r then
        (p.node? far.key far.kind).map fun n => (n, e.orient side start far)
      else p.followFrom e r spec sides

/-- Follow an edge away from a node: the node reached, and the edge turned so that its
first end lies at the start. -/
def follow (p : Partition) (e : Edge) (r : NodeRef) (spec : TraversalSpec) :
    Option (Node × Edge) :=
  p.followFrom e r spec EndSide.all

/-- What the edges at a node lead to. -/
def traverse (p : Partition) (r : NodeRef) (spec : TraversalSpec) : List (Node × Edge) :=
  (p.edges.entries.filter fun t => spec.allowsEdgeKind t.1).flatMap fun t =>
    t.2.rows.filterMap fun row => p.follow row.2 r spec

end Partition

/-- The nodes reached and the edges followed from a node. Without `allData` only keys and
kinds are listed. -/
def Store.traverse (s : Store) (partition key kind spec : String) (allData : Bool) :
    Except StoreFault (List Node × List Edge) := do
  let spec ← TraversalSpec.parse spec
  let found ← s.readPartition partition (·.traverse ⟨key, kind⟩ spec)
  let rows := found.getD []
  if allData then
    return (rows.map (·.1), rows.map (·.2))
  else
    return (rows.map (·.1.project namingAttributes), rows.map (·.2.project namingAttributes))

end PropertyGraph
