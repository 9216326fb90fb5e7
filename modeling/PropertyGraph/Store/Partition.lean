import PropertyGraph.Graph.Entity
import PropertyGraph.Store.Table
import PropertyGraph.Total

/-!
# Partitions

A partition holds nodes and edges, each by kind and, within a kind, in a table by
key. A kind that was used once keeps its table when the last entity is removed.

- `Partition.node?`, `Partition.edge?`: the views by key and kind.
- `Partition.putNode`, `Partition.mergeNode`, `Partition.putEdge`,
  `Partition.eraseEdge`: one entity at a time.
- `Partition.removeNode`: **removal of a node** takes every edge attached to it
  along, and through cascading ends the nodes at the far side, and so on. It ends
  because each removed node leaves one node less.
-/

namespace PropertyGraph

/-- What identifies a node within a partition. -/
structure NodeRef where
  key : String
  kind : String
  deriving DecidableEq

/-- Nodes and edges by kind and key. -/
structure Partition where
  nodes : NameMap (Table Node)
  edges : NameMap (Table Edge)

namespace Partition

/-- The partition without nodes and edges. -/
def empty : Partition := ⟨∅, ∅⟩

instance : EmptyCollection Partition := ⟨empty⟩
instance : Inhabited Partition := ⟨∅⟩

/-- The node with a key and a kind. -/
def node? (p : Partition) (key kind : String) : Option Node :=
  (p.nodes.get? kind).bind (·.get? key)

/-- The edge with a key and a kind. -/
def edge? (p : Partition) (key kind : String) : Option Edge :=
  (p.edges.get? kind).bind (·.get? key)

/-- The table of a node kind; empty if the kind was never used. -/
def nodeTable (p : Partition) (kind : String) : Table Node := (p.nodes.get? kind).getD ∅

/-- The table of an edge kind; empty if the kind was never used. -/
def edgeTable (p : Partition) (kind : String) : Table Edge := (p.edges.get? kind).getD ∅

/-- How many nodes there are. -/
def nodeCount (p : Partition) : Nat := total (p.nodes.values.map Table.size)

/-- Store a node under its key and kind. -/
def putNode (p : Partition) (n : Node) : Partition :=
  { p with nodes := p.nodes.insert n.kind ((p.nodeTable n.kind).put n.key n) }

/-- Lay the attributes of a node over those of the stored node with its key and kind,
or store it if there is none. -/
def mergeNode (p : Partition) (n : Node) : Partition :=
  let merged := match (p.nodeTable n.kind).get? n.key with
    | some stored => stored.merge n
    | none => n
  { p with nodes := p.nodes.insert n.kind ((p.nodeTable n.kind).put n.key merged) }

/-- Store an edge under its key and kind. -/
def putEdge (p : Partition) (e : Edge) : Partition :=
  { p with edges := p.edges.insert e.kind ((p.edgeTable e.kind).put e.key e) }

/-- Forget an edge. -/
def eraseEdge (p : Partition) (key kind : String) : Partition :=
  { p with edges := p.edges.modify kind (·.erase key) }

end Partition

/-! ## Removal of nodes -/

/-- Whether an end of an edge lies at a node. -/
def EdgeEnd.isAt (d : EdgeEnd) (r : NodeRef) : Bool := d.key = r.key && d.kind = r.kind

/-- The node an end lies at. -/
def EdgeEnd.node (d : EdgeEnd) : NodeRef := ⟨d.key, d.kind⟩

namespace Edge

/-- If an end lies at the node: the node at the far side, if removal cascades to it. -/
def attachedAt? (e : Edge) (r : NodeRef) (side : EndSide) : Option (Option NodeRef) :=
  match e.endpoint side with
  | .error _ => none
  | .ok here =>
    if here.isAt r then
      some <|
        match e.endpoint side.other with
        | .error _ => none
        | .ok far => if here.cascading then some far.node else none
    else none

/-- If the edge is attached to the node: the node removal cascades to, if any. The
first end counts if both lie at the node. -/
def attached? (e : Edge) (r : NodeRef) : Option (Option NodeRef) :=
  EndSide.all.findSome? (e.attachedAt? r)

end Edge

namespace Partition

/-- The keys of the edges of a table that are attached to a node. -/
def attachedKeys (r : NodeRef) (t : Table Edge) : List String :=
  (t.rows.filter fun e => (e.2.attached? r).isSome).map (·.1)

/-- The table without the edges that are attached to a node. -/
def withoutAttached (r : NodeRef) (t : Table Edge) : Table Edge := t.eraseAll (attachedKeys r t)

/-- The nodes to which removal cascades from a node, by edge kind and order of storage. -/
def cascade (p : Partition) (r : NodeRef) : List NodeRef :=
  p.edges.values.flatMap fun t => t.rows.filterMap fun e => (e.2.attached? r).join

/-- Take a node out, and every edge attached to it. -/
def detach (p : Partition) (r : NodeRef) : Partition where
  nodes := p.nodes.modify r.kind (·.erase r.key)
  edges := p.edges.map (withoutAttached r)

/-- Forgetting a key in one of several tables adds no row. -/
theorem total_size_erase_le {α : Type} (l : Bindings (Table α)) (key kind : String) :
    total ((l.map fun e => (e.1, if e.1 = kind then e.2.erase key else e.2)).map fun e =>
      e.2.size) ≤ total (l.map fun e => e.2.size) := by
  induction l with
  | nil => exact Nat.le_refl _
  | cons e rest ih =>
    simp only [List.map_cons, total_cons]
    refine Nat.add_le_add ?_ ih
    split
    · exact Table.size_erase_le e.2 key
    · exact Nat.le_refl _

/-- Forgetting a stored key in one of several tables lowers the number of rows. -/
theorem total_size_erase_lt {α : Type} {l : Bindings (Table α)} {key kind : String} {t : Table α}
    {v : α} (ht : Bindings.get? kind l = some t) (hv : t.get? key = some v) :
    total ((l.map fun e => (e.1, if e.1 = kind then e.2.erase key else e.2)).map fun e =>
      e.2.size) < total (l.map fun e => e.2.size) := by
  induction l with
  | nil => cases ht
  | cons e rest ih =>
    obtain ⟨n, w⟩ := e
    simp only [List.map_cons, total_cons]
    rw [Bindings.get?_cons] at ht
    by_cases h : n = kind
    · rw [if_pos h] at ht ⊢
      cases ht
      exact Nat.add_lt_add_of_lt_of_le (Table.size_erase_lt hv) (total_size_erase_le rest key kind)
    · rw [if_neg h] at ht ⊢
      exact Nat.add_lt_add_left (ih ht) _

/-- Taking a stored node out leaves fewer nodes. -/
theorem nodeCount_detach_lt {p : Partition} {r : NodeRef}
    (h : (p.node? r.key r.kind).isSome = true) : (p.detach r).nodeCount < p.nodeCount := by
  obtain ⟨v, hv⟩ := Option.isSome_iff_exists.1 h
  obtain ⟨t, ht, hv⟩ := Option.bind_eq_some_iff.1 hv
  have := total_size_erase_lt (l := p.nodes.entries) ht hv
  simpa [nodeCount, NameMap.values, detach, NameMap.modify, List.map_map, Function.comp_def]
    using this

/-- Remove nodes one after another; what a removal cascades to comes before the rest. -/
def removeNodes (p : Partition) : List NodeRef → Partition
  | [] => p
  | r :: rest =>
    -- a node that is gone already, as on a cycle, has nothing left to cascade to
    if (p.node? r.key r.kind).isSome then (p.detach r).removeNodes (p.cascade r ++ rest)
    else p.removeNodes rest
termination_by refs => (p.nodeCount, refs.length)
decreasing_by
  · next h => exact Prod.Lex.left _ _ (nodeCount_detach_lt h)
  · exact Prod.Lex.right _ (Nat.lt_succ_self _)

/-- Remove a node with all edges attached to it, and what its removal cascades to. -/
def removeNode (p : Partition) (key kind : String) : Partition := p.removeNodes [⟨key, kind⟩]

end Partition

end PropertyGraph
