import PropertyGraph.Proofs.Reachability

/-!
# Every store is in order

A store says several things twice: a table lists its keys beside its entries, and an entity
carries the key and the kind it is filed under. This module shows that the two never
disagree, and that all names in a store are usable ones.

- `checkPartition_eq_ok_iff`, `checkNames_eq_ok_iff`: what the checks of operations promise.
- `Named`, `Partition.AllNamed`, `Store.AllNamed`: all names are usable. As the
  well-formedness of partitions, this is kept by each operation that passed its check.
- `Table.InOrder`, `Store.InOrder`: **what an orderly store is**, table by table.
- `Store.commit_updateNode`: an update of a stored node leaves it where it was.
- `Session.run_inOrder`: **the main statement**.
-/

namespace PropertyGraph

/-! ## What checks promise -/

theorem isPartitionName_iff {s : String} :
    isPartitionName s = true ↔ s ≠ "" ∧ ∀ c ∈ s.toList, isAlphanumeric c = true := by
  simp [isPartitionName]

theorem isKindName_iff {s : String} :
    isKindName s = true ↔ s ≠ "" ∧
      ∀ c ∈ s.toList, isAlphanumeric c = true ∨ c = '_' ∨ c = '-' ∨ c = '.' := by
  simp [isKindName, isKindChar, or_assoc]

/-- A character that kinds cannot have is not in the name of a kind. -/
theorem isKindName_notMem {s : String} {c : Char} (hc : isKindChar c = false)
    (h : isKindName s = true) : c ∉ s.toList := by
  intro hmem
  have hchar : isKindChar c = true := by
    simpa [isKindChar, or_assoc] using (isKindName_iff.1 h).2 c hmem
  rw [hchar] at hc
  cases hc

theorem checkPartition_eq_ok_iff {name : String} :
    checkPartition name = .ok () ↔ isPartitionName name = true := by
  unfold checkPartition
  split <;> simp [*]

theorem checkNames_eq_ok_iff {entity : EntityType} {key kind : String} :
    checkNames entity key kind = .ok () ↔ key ≠ "" ∧ isKindName kind = true := by
  unfold checkNames
  split
  · simp [*]
  · split <;> simp [*]

theorem Edge.names_of_check {e : Edge} (h : e.check = .ok ()) :
    e.key ≠ "" ∧ isKindName e.kind = true := by
  obtain ⟨_, hnames, -⟩ := bind_eq_ok_iff.1 h
  exact checkNames_eq_ok_iff.1 hnames

/-- Whatever the operation, the check ends with the partition. -/
theorem Operation.isPartitionName_of_check {op : Operation} (h : op.check = .ok ()) :
    isPartitionName op.partition = true := by
  have hp : ∃ u : Unit, checkPartition op.partition = .ok u := by
    cases op <;>
      · obtain ⟨_, -, hp⟩ := bind_eq_ok_iff.1 h
        exact ⟨_, hp⟩
  obtain ⟨_, hp⟩ := hp
  exact checkPartition_eq_ok_iff.1 hp

/-! ## Usable names -/

section Tables

variable {α : Type} {tables tables' : NameMap (Table α)}

/-- Kinds are usable, and so are the keys that something is stored under. A kind counts also
when its table is empty. -/
structure Named (tables : NameMap (Table α)) : Prop where
  kind : ∀ {k : String} {t : Table α}, tables.get? k = some t → isKindName k = true
  key : ∀ {x k : String} {a : α}, lookUp tables x k = some a → x ≠ ""

theorem named_empty : Named (∅ : NameMap (Table α)) where
  kind h := by cases h
  key h := by cases h

theorem Named.put (h : Named tables) {x k : String} (hx : x ≠ "") (hk : isKindName k = true)
    (a : α) : Named (tables.insert k (((tables.get? k).getD ∅).put x a)) where
  kind {k' t} ht := by
    rw [NameMap.get?_insert] at ht
    split at ht
    · next heq => exact heq ▸ hk
    · exact h.kind ht
  key {x' k' b} hb := by
    rw [lookUp_insert_put] at hb
    split at hb
    · next heq => exact heq.1 ▸ hx
    · exact h.key hb

/-- Taking entities away keeps names usable. -/
theorem Named.of_sub (h : Named tables)
    (hkind : ∀ k, (tables'.get? k).isSome → (tables.get? k).isSome)
    (hkey : ∀ x k a, lookUp tables' x k = some a → lookUp tables x k = some a) :
    Named tables' where
  kind {k t} ht := by
    obtain ⟨t₀, ht₀⟩ := Option.isSome_iff_exists.1 (hkind k (by simp [ht]))
    exact h.kind ht₀
  key {x k a} ha := h.key (hkey x k a ha)

theorem Named.erase (h : Named tables) (x k : String) :
    Named (tables.modify k (·.erase x)) := by
  refine h.of_sub (fun k' => by simp) fun x' k' a ha => ?_
  rw [lookUp_modify_erase] at ha
  split at ha
  · cases ha
  · exact ha

end Tables

namespace Partition

variable {p q : Partition}

/-- The names of nodes and edges are usable. -/
structure AllNamed (p : Partition) : Prop where
  nodes : Named p.nodes
  edges : Named p.edges

theorem allNamed_empty : (∅ : Partition).AllNamed := ⟨named_empty, named_empty⟩

theorem AllNamed.detach (h : p.AllNamed) (r : NodeRef) : (p.detach r).AllNamed where
  nodes := h.nodes.erase r.key r.kind
  edges := by
    refine h.edges.of_sub (fun k => by simp [Partition.detach]) fun x k e he => ?_
    obtain ⟨t', ht', he⟩ := lookUp_eq_some_iff.1 he
    obtain ⟨t, ht, rfl⟩ := Option.map_eq_some_iff.1 ((NameMap.get?_map p.edges _ k).symm.trans ht')
    rw [withoutAttached, Table.get?_eraseAll] at he
    split at he
    · cases he
    · exact lookUp_eq_some_iff.2 ⟨t, ht, he⟩

theorem AllNamed.removeNodes (h : p.AllNamed) (refs : List NodeRef) :
    (p.removeNodes refs).AllNamed := by
  -- along the worklist, as for well-formedness
  induction p, refs using Partition.removeNodes.induct with
  | case1 p =>
    rw [Partition.removeNodes]
    exact h
  | case2 p r rest hs ih =>
    rw [Partition.removeNodes, if_pos hs]
    exact ih (h.detach r)
  | case3 p r rest hs ih =>
    rw [Partition.removeNodes, if_neg hs]
    exact ih h

/-- **One checked operation keeps names usable.** -/
theorem AllNamed.apply (h : p.AllNamed) {op : Operation} (hop : op.check = .ok ())
    (hq : p.apply op = .ok q) : q.AllNamed := by
  cases op with
  | updateNode _ n =>
    obtain ⟨_, hn, -⟩ := bind_eq_ok_iff.1 hop
    obtain ⟨hkey, hkind⟩ := checkNames_eq_ok_iff.1 hn
    cases hq
    rw [mergeNode_eq]
    exact ⟨h.nodes.put hkey hkind _, h.edges⟩
  | storeNode _ n =>
    obtain ⟨_, hn, -⟩ := bind_eq_ok_iff.1 hop
    obtain ⟨hkey, hkind⟩ := checkNames_eq_ok_iff.1 hn
    cases hq
    exact ⟨h.nodes.put hkey hkind n, h.edges⟩
  | removeNode _ key kind =>
    cases hq
    exact h.removeNodes [⟨key, kind⟩]
  | storeEdge _ e =>
    obtain ⟨_, he, -⟩ := bind_eq_ok_iff.1 hop
    obtain ⟨hkey, hkind⟩ := e.names_of_check he
    obtain ⟨-, rfl⟩ := linkEdge_eq_ok_iff.1 hq
    exact ⟨h.nodes, h.edges.put hkey hkind e⟩
  | removeEdge _ key kind =>
    cases hq
    exact ⟨h.nodes, h.edges.erase key kind⟩

end Partition

namespace Store

/-- The names of partitions are usable, and so are all names in them. -/
def AllNamed (s : Store) : Prop :=
  ∀ name p, s.partition? name = some p → isPartitionName name = true ∧ p.AllNamed

theorem allNamed_empty : (∅ : Store).AllNamed := by
  intro name p hp
  cases hp

theorem AllNamed.partitionOrEmpty {s : Store} (h : s.AllNamed) (name : String) :
    (s.partitionOrEmpty name).AllNamed := by
  unfold Store.partitionOrEmpty
  cases hp : s.partition? name with
  | none => exact Partition.allNamed_empty
  | some p => exact (h name p hp).2

theorem AllNamed.apply {s t : Store} (h : s.AllNamed) {op : Operation} (hop : op.check = .ok ())
    (ht : s.apply op = .ok t) : t.AllNamed := by
  intro name p hp
  by_cases hn : name = op.partition
  · subst hn
    refine ⟨op.isPartitionName_of_check hop, ?_⟩
    have hq := (h.partitionOrEmpty op.partition).apply hop (partitionOrEmpty_apply ht)
    rwa [Store.partitionOrEmpty, hp] at hq
  · rw [partition?_apply ht hn] at hp
    exact h name p hp

theorem AllNamed.run {s t : Store} (h : s.AllNamed) {ops : List Operation}
    (hops : ∀ op ∈ ops, op.check = .ok ()) (ht : s.run ops = .ok t) : t.AllNamed := by
  induction ops generalizing s with
  | nil =>
    cases ht
    exact h
  | cons op rest ih =>
    obtain ⟨hop, hrest⟩ := List.forall_mem_cons.1 hops
    obtain ⟨mid, hmid, ht⟩ := bind_eq_ok_iff.1 ht
    exact ih (h.apply hop hmid) hrest ht

/-- A stored node is in a partition with a usable name, under a usable kind and a key that is not
empty. -/
theorem AllNamed.names_of_node {s : Store} (h : s.AllNamed) {partition key kind : String} {n : Node}
    (hn : (s.partitionOrEmpty partition).node? key kind = some n) :
    isPartitionName partition = true ∧ isKindName kind = true ∧ key ≠ "" := by
  unfold Store.partitionOrEmpty at hn
  cases hp : s.partition? partition with
  | none =>
    rw [hp] at hn
    cases hn
  | some p =>
    rw [hp] at hn
    obtain ⟨hname, hall⟩ := h partition p hp
    obtain ⟨t, ht, -⟩ := lookUp_eq_some_iff.1 hn
    exact ⟨hname, hall.nodes.kind ht, hall.nodes.key hn⟩

theorem Reachable.allNamed {s : Store} (h : s.Reachable) : s.AllNamed :=
  h.induction allNamed_empty fun hs hops hok => hs.run hops (commit_eq_run _ _ ▸ hok)

end Store

/-! ## Orderly stores -/

/-- The table of a kind is in order: the listed keys are those of the entries, each once;
every entity has the key and the kind it is filed under as its own; and these names are
usable. -/
structure Table.InOrder {α : Type} (key kind : α → String) (k : String) (t : Table α) :
    Prop where
  nodup : t.keys.Nodup
  listed : ∀ x, x ∈ t.keys ↔ x ∈ t.entries.names
  own : ∀ x a, t.get? x = some a → key a = x ∧ kind a = k
  keys : ∀ x ∈ t.keys, x ≠ ""
  nonempty : k ≠ ""
  chars : ∀ c ∈ k.toList, isAlphanumeric c = true ∨ c = '_' ∨ c = '-' ∨ c = '.'

theorem Filed.inOrder {α : Type} {key kind : α → String} {tables : NameMap (Table α)}
    (h : Filed key kind tables) (hn : Named tables) {k : String} {t : Table α}
    (ht : tables.get? k = some t) : t.InOrder key kind k := by
  obtain ⟨hnodup, hlisted⟩ := h.consistent ht
  obtain ⟨hne, hchars⟩ := isKindName_iff.1 (hn.kind ht)
  refine ⟨hnodup, fun x => (hlisted x).trans NameMap.mem_names_iff.symm, fun x a ha => ?_,
    fun x hx => ?_, hne, hchars⟩
  · exact h.own (lookUp_eq_some_iff.2 ⟨t, ht, ha⟩)
  · obtain ⟨a, ha⟩ := Option.isSome_iff_exists.1 ((hlisted x).1 hx)
    exact hn.key (lookUp_eq_some_iff.2 ⟨t, ht, ha⟩)

/-- A store is in order if its partitions have usable names and all tables are in order. -/
structure Store.InOrder (s : Store) : Prop where
  partition : ∀ name p, s.partition? name = some p →
    name ≠ "" ∧ ∀ c ∈ name.toList, isAlphanumeric c = true
  nodes : ∀ name p k t, s.partition? name = some p → p.nodes.get? k = some t →
    t.InOrder Node.key Node.kind k
  edges : ∀ name p k t, s.partition? name = some p → p.edges.get? k = some t →
    t.InOrder Edge.key Edge.kind k

theorem Store.Reachable.inOrder {s : Store} (h : s.Reachable) : s.InOrder := by
  have hformed := h.wellFormed
  refine ⟨fun name p hp => ?_, fun name p k t hp ht => ?_, fun name p k t hp ht => ?_⟩
  · exact isPartitionName_iff.1 (h.allNamed name p hp).1
  · exact (hformed.of_partition? hp).nodes.inOrder (h.allNamed name p hp).2.nodes ht
  · exact (hformed.of_partition? hp).edges.inOrder (h.allNamed name p hp).2.edges ht

/-! ## Updates of stored nodes -/

/-- Merging a node into a stored one leaves every table with the keys it had. -/
theorem Partition.keys_mergeNode {p : Partition} {n stored : Node}
    (h : p.node? n.key n.kind = some stored) (k : String) :
    ((p.mergeNode n).nodeTable k).keys = (p.nodeTable k).keys := by
  have hstored : ((p.nodeTable n.kind).get? n.key).isSome := by
    rw [nodeTable, get?_getD_table]
    exact Option.isSome_iff_exists.2 ⟨stored, h⟩
  rw [mergeNode_eq, nodeTable, NameMap.get?_insert]
  by_cases hk : n.kind = k
  · subst hk
    rw [if_pos rfl, Option.getD_some, Table.keys_put, if_pos hstored]
  · rw [if_neg hk]
    rfl

/-- **An update of a stored node leaves it where it was**, with the attributes of the update
laid over its own, and leaves all other nodes alone. -/
theorem Store.commit_updateNode {s : Store} {partition : String} {n stored : Node}
    (h : (s.partitionOrEmpty partition).node? n.key n.kind = some stored) :
    ∃ t, s.commit [.updateNode partition n] = .ok t ∧
      (t.partitionOrEmpty partition).node? n.key n.kind = some (stored.merge n) ∧
      (∀ x k, ¬ (n.key = x ∧ n.kind = k) → (t.partitionOrEmpty partition).node? x k =
        (s.partitionOrEmpty partition).node? x k) ∧
      ∀ k, ((t.partitionOrEmpty partition).nodeTable k).keys =
        ((s.partitionOrEmpty partition).nodeTable k).keys := by
  have hstep : s.apply (.updateNode partition n) =
      .ok ⟨s.partitions.insert partition ((s.partitionOrEmpty partition).mergeNode n)⟩ := rfl
  have hpart : (s.partitionOrEmpty partition).mergeNode n =
      Store.partitionOrEmpty
        ⟨s.partitions.insert partition ((s.partitionOrEmpty partition).mergeNode n)⟩ partition :=
    Except.ok.inj (partitionOrEmpty_apply hstep)
  refine ⟨_, (s.commit_eq_run _).trans (bind_eq_ok_iff.2 ⟨_, hstep, rfl⟩), ?_⟩
  rw [← hpart]
  refine ⟨?_, fun x k hne => ?_, Partition.keys_mergeNode h⟩
  · rw [Partition.node?_mergeNode, if_pos ⟨rfl, rfl⟩, Partition.merged, h]
  · rw [Partition.node?_mergeNode, if_neg hne]

/-! ## The main statement -/

/-- **Every store is in order**, whatever clients do with however many transactions: tables
list the keys of their entries, each once, every entity is filed under its own key and kind,
and all names are usable. An update of a stored node, however it spells the key and the kind,
keeps the node in its place, under the key and the kind that it had, and touches no other. -/
theorem Session.run_inOrder (steps : List SessionStep) :
    let s := (start.run steps).store
    s.InOrder ∧
    ∀ (partition : String) (n stored : Node),
      (s.partitionOrEmpty partition).node? n.key n.kind = some stored →
      ∃ t, s.commit [.updateNode partition n] = .ok t ∧
        (t.partitionOrEmpty partition).node? n.key n.kind = some (stored.merge n) ∧
        (stored.merge n).key = stored.key ∧ (stored.merge n).kind = stored.kind ∧
        (∀ x k, ¬ (n.key = x ∧ n.kind = k) → (t.partitionOrEmpty partition).node? x k =
          (s.partitionOrEmpty partition).node? x k) ∧
        ∀ k, ((t.partitionOrEmpty partition).nodeTable k).keys =
          ((s.partitionOrEmpty partition).nodeTable k).keys := by
  intro s
  have hs : s.Reachable := ⟨steps, rfl⟩
  refine ⟨hs.inOrder, fun partition n stored hstored => ?_⟩
  obtain ⟨t, hcommit, hnode, hothers, hkeys⟩ := Store.commit_updateNode hstored
  obtain ⟨hk, hi⟩ := (hs.wellFormed partition).nodes.own hstored
  exact ⟨t, hcommit, hnode, Node.key_merge hk.symm, Node.kind_merge hi.symm, hothers, hkeys⟩

/-- A node whose key is a string. -/
def lettered : Node := (Node.ofKey "1" "Person").set "name" (.string "A")

/-- An update that spells the same key as a number. -/
def numbered : Node := (Node.ofKey "1" "Person").set keyName (.number (.int 1))

/-- A schedule that stores two nodes. -/
def letteredSchedule : List SessionStep :=
  [.begin "t", .stage "t" (.storeNode "main" lettered),
    .stage "t" (.storeNode "main" (.ofKey "2" "Person")), .commit "t"]

/-- Updated by `numbered`, the node `lettered` stays first, under the key it had. -/
theorem Session.run_inOrder_numbered :
    let s := (start.run letteredSchedule).store
    (s.partitionOrEmpty "main").node? numbered.key numbered.kind = some lettered ∧
    (∃ t, s.commit [.updateNode "main" numbered] = .ok t ∧
      (t.partitionOrEmpty "main").node? numbered.key numbered.kind =
        some (lettered.merge numbered) ∧
      (lettered.merge numbered).key = lettered.key ∧
      (lettered.merge numbered).kind = lettered.kind ∧
      (∀ x k, ¬ (numbered.key = x ∧ numbered.kind = k) →
        (t.partitionOrEmpty "main").node? x k = (s.partitionOrEmpty "main").node? x k) ∧
      ∀ k, ((t.partitionOrEmpty "main").nodeTable k).keys =
        ((s.partitionOrEmpty "main").nodeTable k).keys) ∧
    ((s.partitionOrEmpty "main").nodeTable "Person").keys = ["1", "2"] := by
  have hkey : numbered.key = "1" := by decide +kernel
  have hstored : ((start.run letteredSchedule).store.partitionOrEmpty "main").node?
      numbered.key numbered.kind = some lettered := by
    rw [hkey]
    rfl
  exact ⟨hstored, (run_inOrder letteredSchedule).2 "main" numbered lettered hstored, rfl⟩

end PropertyGraph
