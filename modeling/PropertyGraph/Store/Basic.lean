import PropertyGraph.Store.Naming
import PropertyGraph.Store.Partition

/-!
# The in-memory store

A store holds partitions by name. Every read names a partition and refuses names
that no partition can have; a partition that was never written to has nothing.

- `Store.partition?`: the view of a store.
- `Store.nodeKeys`, `Store.fetchNode`, `Store.fetchNodePart`, `Store.fetchEdge`:
  reads of one partition.
- `Store.nodeCount`, `Store.nodeKinds`, `Store.edgeCount`, `Store.edgeKinds`:
  summaries over all partitions. A kind without entities is not listed.
- `Store.readPartition_of_valid`, …: reads of a partition with a usable name succeed.
- `Store.nodeKinds_ascending`, `Store.mem_distinct_iff`, `Store.mem_usedKinds`: the order
  and the members of the kinds in use.
-/

namespace PropertyGraph

/-- Partitions by name. -/
structure Store where
  partitions : NameMap Partition

namespace Store

/-- The store that was never written to. -/
def empty : Store := ⟨∅⟩

instance : EmptyCollection Store := ⟨empty⟩
instance : Inhabited Store := ⟨∅⟩

/-- The partition with a name. -/
def partition? (s : Store) (name : String) : Option Partition := s.partitions.get? name

/-- The partition with a name; empty if it was never written to. -/
def partitionOrEmpty (s : Store) (name : String) : Partition := (s.partition? name).getD ∅

/-- How many partitions were written to. -/
def partitionCount (s : Store) : Nat := s.partitions.size

/-- Read something from a partition, if there is one of a usable name. -/
def readPartition {α : Type} (s : Store) (name : String) (f : Partition → α) :
    Except StoreFault (Option α) :=
  match checkPartition name with
  | .error e => .error e
  | .ok () => .ok ((s.partition? name).map f)

/-- The keys of a node kind in the order of insertion; none if the kind was never used. -/
def nodeKeys (s : Store) (partition kind : String) : Except StoreFault (Option (List String)) :=
  (s.readPartition partition fun p => (p.nodes.get? kind).map Table.keys).map Option.join

/-- A node with all its attributes. -/
def fetchNode (s : Store) (partition key kind : String) : Except StoreFault (Option Node) :=
  (s.readPartition partition (·.node? key kind)).map Option.join

/-- A node with some of its attributes. -/
def fetchNodePart (s : Store) (partition key kind : String) (names : List String) :
    Except StoreFault (Option Node) :=
  (s.readPartition partition fun p => (p.node? key kind).map (·.project names)).map Option.join

/-- An edge with all its attributes. -/
def fetchEdge (s : Store) (partition key kind : String) : Except StoreFault (Option Edge) :=
  (s.readPartition partition (·.edge? key kind)).map Option.join

/-- How many nodes of a kind there are in all partitions. -/
def nodeCount (s : Store) (kind : String) : Nat :=
  total (s.partitions.values.map fun p => (p.nodeTable kind).size)

/-- How many edges of a kind there are in all partitions. -/
def edgeCount (s : Store) (kind : String) : Nat :=
  total (s.partitions.values.map fun p => (p.edgeTable kind).size)

/-- The names under which tables hold at least one row. -/
def usedKinds {α : Type} (tables : NameMap (Table α)) : List String :=
  (tables.entries.filter fun e => !e.2.isEmpty).map (·.1)

/-- Names in ascending order, each once. -/
def distinct (names : List String) : List String :=
  (NameMap.ofList (names.map fun n => (n, ()))).names

/-- The node kinds in use in any partition, ascending. -/
def nodeKinds (s : Store) : List String :=
  distinct (s.partitions.values.flatMap fun p => usedKinds p.nodes)

/-- The edge kinds in use in any partition, ascending. -/
def edgeKinds (s : Store) : List String :=
  distinct (s.partitions.values.flatMap fun p => usedKinds p.edges)

/-! ## Reads of a partition with a usable name -/

variable {partition : String}

theorem readPartition_of_valid {α : Type} (s : Store) (hp : isPartitionName partition = true)
    (f : Partition → α) : s.readPartition partition f = .ok ((s.partition? partition).map f) := by
  rw [readPartition, checkPartition, if_pos hp]

/-- What a read can find is not in a partition that was never written to, just as it is not in an
empty one. -/
theorem readPartition_join {α : Type} {f : Partition → Option α} (s : Store) (partition : String)
    (hempty : f ∅ = none) :
    (s.readPartition partition f).map Option.join =
      (checkPartition partition).map fun _ => f (s.partitionOrEmpty partition) := by
  rw [readPartition, partitionOrEmpty]
  cases checkPartition partition with
  | error e => rfl
  | ok _ =>
    cases s.partition? partition with
    | none => exact congrArg Except.ok hempty.symm
    | some p => rfl

/-- A partition that was never written to has no tables. -/
theorem nodeKeys_of_valid (s : Store) (hp : isPartitionName partition = true) (kind : String) :
    s.nodeKeys partition kind =
      .ok (((s.partitionOrEmpty partition).nodes.get? kind).map Table.keys) := by
  rw [nodeKeys, readPartition_of_valid s hp, partitionOrEmpty]
  cases s.partition? partition <;> rfl

theorem fetchNode_of_valid (s : Store) (hp : isPartitionName partition = true)
    (key kind : String) :
    s.fetchNode partition key kind = .ok ((s.partitionOrEmpty partition).node? key kind) := by
  rw [fetchNode, readPartition_of_valid s hp, partitionOrEmpty]
  cases s.partition? partition <;> rfl

/-! ## The kinds in use -/

theorem mem_distinct_iff {name : String} {names : List String} :
    name ∈ distinct names ↔ name ∈ names := by
  rw [distinct, NameMap.ofList, NameMap.mem_names_insertAll, List.map_map]
  simp [NameMap.mem_names_iff]

theorem nodeKinds_ascending (s : Store) : s.nodeKinds.Pairwise (· < ·) := NameMap.names_ascending _

theorem mem_usedKinds {α : Type} {tables : NameMap (Table α)} {kind key : String} {t : Table α}
    {a : α} (ht : tables.get? kind = some t) (ha : t.get? key = some a) :
    kind ∈ usedKinds tables := by
  refine List.mem_map.2 ⟨(kind, t), List.mem_filter.2 ⟨NameMap.mem_entries_iff.2 ht, ?_⟩, rfl⟩
  have hentry : (key, a) ∈ t.entries.entries := NameMap.mem_entries_iff.2 ha
  simpa [Table.isEmpty, NameMap.isEmpty] using List.ne_nil_of_mem hentry

end Store

end PropertyGraph
