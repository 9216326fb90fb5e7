import PropertyGraph.Proofs.Removals

/-!
# Deletions in any order

A request that deletes removes its nodes one after another and erases its edges after that. A
removal takes other nodes and edges along, so the next one finds less than the first did. This
module says what the whole request leaves, in terms of the partition that it found; the order of
its items does not occur there.

- `Partition.run_deleteNodes`: deleting nodes one after another is one removal of all of them.
- `Partition.WellFormed.deletion_run`: **what a batch that deletes leaves**.
- `Partition.WellFormed.run_delete_congr`: batches with the same items leave the same.
- `Endpoint.mutate_delete_perm`: **the main statement**.
-/

namespace PropertyGraph

/-! ## Partitions -/

namespace Partition

variable {p mid q : Partition} {roots : List NodeRef} {erased : List Edge} {name : String}
  {b b' : Batch}

/-- Deleting nodes is one removal. -/
theorem run_deleteNodes (p : Partition) (name : String) (nodes : List Node) :
    p.run (nodes.map (Verb.delete.onNode name)) = .ok (p.removeNodes (nodes.map Node.ref)) := by
  induction nodes generalizing p with
  | nil => rw [List.map_nil, List.map_nil, run_nil, removeNodes]
  | cons n rest ih =>
    show (p.removeNodes [n.ref]).run (rest.map (Verb.delete.onNode name)) = _
    rw [ih, ← removeNodes_append]
    rfl

theorem edge?_eraseEdge_eq_some_iff {x k key kind : String} {e : Edge} :
    (q.eraseEdge x k).edge? key kind = some e ↔
      q.edge? key kind = some e ∧ ¬ (x = key ∧ k = kind) := by
  rw [edge?_eraseEdge]
  split
  · next hat => simp [hat]
  · next hat => simp [hat]

/-- Erasing one more edge. -/
theorem Deletion.eraseEdge (h : p.Deletion roots erased q) (hq : q.WellFormed) (e : Edge) :
    p.Deletion roots (erased ++ [e]) (q.eraseEdge e.key e.kind) where
  node := h.node
  edge := by
    intro key kind f
    rw [edge?_eraseEdge_eq_some_iff, h.edge, List.forall_mem_append, List.forall_mem_singleton,
      and_assoc, and_assoc]
  nodeOrder := h.nodeOrder
  edgeOrder := h.edgeOrder.trans (hq.edges.allConsistent.keepsOrder_erase e.key e.kind) fun _ _ _ hf =>
    (edge?_eraseEdge_eq_some_iff.1 hf).1

theorem Deletion.run_deleteEdges (h : p.Deletion roots erased mid) (hmid : mid.WellFormed)
    {edges : List Edge} (hq : mid.run (edges.map (Verb.delete.onEdge name)) = .ok q) :
    p.Deletion roots (erased ++ edges) q := by
  -- the edges that are erased already stand before those that are to come
  induction edges generalizing mid erased with
  | nil =>
    cases hq
    rw [List.append_nil]
    exact h
  | cons e rest ih =>
    have hrest : (mid.eraseEdge e.key e.kind).run (rest.map (Verb.delete.onEdge name)) = .ok q := hq
    have hstep := ih (h.eraseEdge hmid e) (hmid.eraseEdge e.key e.kind) hrest
    rwa [List.append_assoc, List.singleton_append] at hstep

/-- **What a batch that deletes leaves**: it takes the nodes that it names, the nodes to which
their removal cascades, the edges attached to any of these, and the edges that it names. -/
theorem WellFormed.deletion_run (h : p.WellFormed)
    (hq : p.run (b.operations .delete name) = .ok q) :
    p.Deletion (b.nodes.map Node.ref) b.edges q := by
  rw [Batch.operations, run_append, run_deleteNodes] at hq
  have hnodes : p.Deletion (b.nodes.map Node.ref) [] (p.removeNodes (b.nodes.map Node.ref)) :=
    h.sound.deletion_removeNodes _
  exact hnodes.run_deleteEdges (h.removeNodes _) hq

theorem exists_run_delete (p : Partition) (b : Batch) (name : String) :
    ∃ q, p.run (b.operations .delete name) = .ok q := by
  rw [Batch.operations, run_append, run_deleteNodes]
  exact run_removeEdges _ name b.edges

/-- **Batches with the same items leave the same**, however the items are ordered and however
often they are named. -/
theorem WellFormed.run_delete_congr (h : p.WellFormed) (hnodes : ∀ n, n ∈ b.nodes ↔ n ∈ b'.nodes)
    (hedges : ∀ e, e ∈ b.edges ↔ e ∈ b'.edges) :
    p.run (b.operations .delete name) = p.run (b'.operations .delete name) := by
  obtain ⟨q, hq⟩ := p.exists_run_delete b name
  obtain ⟨q', hq'⟩ := p.exists_run_delete b' name
  have hroots : ∀ r, r ∈ b.nodes.map Node.ref ↔ r ∈ b'.nodes.map Node.ref := by
    simp only [List.mem_map, hnodes, implies_true]
  rw [hq, hq', (h.deletion_run hq).unique (h.deletion_run hq') hroots hedges]

end Partition

/-! ## Stores -/

/-- The operations of a permuted batch are permuted. -/
theorem Batch.operations_perm {b b' : Batch} (hnodes : b.nodes.Perm b'.nodes)
    (hedges : b.edges.Perm b'.edges) (verb : Verb) (name : String) :
    (b.operations verb name).Perm (b'.operations verb name) :=
  (hnodes.map _).append (hedges.map _)

/-- To be deleted, entities need usable names and nothing else. -/
theorem Batch.accepted_delete {b : Batch} {name : String} (hp : isPartitionName name = true)
    (hnodes : ∀ n ∈ b.nodes, n.key ≠ "" ∧ isKindName n.kind = true)
    (hedges : ∀ e ∈ b.edges, e.key ≠ "" ∧ isKindName e.kind = true) :
    b.Accepted .delete name := by
  intro op hop
  rcases List.mem_append.1 hop with hop | hop
  · obtain ⟨n, hn, rfl⟩ := List.mem_map.1 hop
    exact bind_eq_ok_iff.2
      ⟨(), checkNames_eq_ok_iff.2 (hnodes n hn), checkPartition_eq_ok_iff.2 hp⟩
  · obtain ⟨e, he, rfl⟩ := List.mem_map.1 hop
    exact bind_eq_ok_iff.2
      ⟨(), checkNames_eq_ok_iff.2 (hedges e he), checkPartition_eq_ok_iff.2 hp⟩

namespace Store

variable {s : Store} {name : String} {b b' : Batch}

/-- Deleting always comes to an end without a refusal, and what it leaves of its partition is what
it leaves there on its own. -/
theorem exists_run_delete (s : Store) (b : Batch) (name : String) :
    ∃ t, s.run (b.operations .delete name) = .ok t ∧
      (s.partitionOrEmpty name).run (b.operations .delete name) =
        .ok (t.partitionOrEmpty name) := by
  obtain ⟨q, hq⟩ := (s.partitionOrEmpty name).exists_run_delete b name
  have hops := b.partition_of_mem_operations .delete name
  cases hrun : s.run (b.operations .delete name) with
  | ok t => exact ⟨t, rfl, partitionOrEmpty_run hops hrun⟩
  | error e =>
    have hmap := s.map_run hops
    rw [hrun, hq] at hmap
    cases hmap

/-- A store is left alike by batches that are permuted. -/
theorem WellFormed.run_delete_perm (hs : s.WellFormed) (hnodes : b.nodes.Perm b'.nodes)
    (hedges : b.edges.Perm b'.edges) :
    s.run (b.operations .delete name) = s.run (b'.operations .delete name) := by
  have hops := Batch.operations_perm hnodes hedges .delete name
  by_cases hne : b.operations .delete name = []
  · have hne' : b'.operations .delete name = [] := (hne ▸ hops).nil_eq.symm
    rw [hne, hne']
  · have hne' : b'.operations .delete name ≠ [] := fun hnil => hne (hnil ▸ hops).eq_nil
    obtain ⟨q, hq⟩ := (s.partitionOrEmpty name).exists_run_delete b name
    have hq' : (s.partitionOrEmpty name).run (b'.operations .delete name) = .ok q :=
      ((hs name).run_delete_congr (fun _ => hnodes.mem_iff) fun _ => hedges.mem_iff).symm.trans hq
    rw [run_of_partition (b.partition_of_mem_operations .delete name) hne hq,
      run_of_partition (b'.partition_of_mem_operations .delete name) hne' hq']

end Store

namespace Endpoint

variable {s : Store} {segments segments' : List String} {body body' : Bytes} {partition : String}
  {b b' : Batch}

/-- A request with an item that fails its check leaves the store alone. -/
theorem store_mutate_of_not_accepted {verb : Verb}
    (h : writeRequest segments body = .ok (partition, b)) (hnot : ¬ b.Accepted verb partition) :
    (mutate s verb segments body).store = s := by
  rcases mutate_of_request h s verb with ⟨t, hacc, -⟩ | ⟨-, -, hstore⟩
  · exact absurd hacc hnot
  · exact hstore

/-- **The order of a deletion does not count.** Take any reachable store and two requests to
delete from one partition, as an object or as lists, the second of which has the nodes and the
edges of the first in any other order. Both leave the same store, so that all reads are answered
alike and listings have one order. If the items pass their checks, both requests succeed, and
what is left of the partition is told by `Partition.Deletion`: the nodes are gone that are named
or to which the removal of these cascades along edges of the partition as it was; the edges are
gone that were attached to any of them or are named; and the rest is in the order that it had. -/
theorem mutate_delete_perm (hs : s.Reachable)
    (h : writeRequest segments body = .ok (partition, b))
    (h' : writeRequest segments' body' = .ok (partition, b'))
    (hnodes : b.nodes.Perm b'.nodes) (hedges : b.edges.Perm b'.edges) :
    let t := (mutate s .delete segments body).store
    (mutate s .delete segments' body').store = t ∧
      (b.Accepted .delete partition →
        (mutate s .delete segments body).answer = .ok .empty ∧
        (mutate s .delete segments' body').answer = .ok .empty ∧
        (s.partitionOrEmpty partition).Deletion (b.nodes.map Node.ref) b.edges
          (t.partitionOrEmpty partition)) := by
  have hops := Batch.operations_perm hnodes hedges .delete partition
  have haccepted : b.Accepted .delete partition ↔ b'.Accepted .delete partition :=
    ⟨fun hall op hop => hall op (hops.mem_iff.2 hop),
      fun hall op hop => hall op (hops.mem_iff.1 hop)⟩
  by_cases hacc : b.Accepted .delete partition
  · obtain ⟨t, hrun, hpartition⟩ := s.exists_run_delete b partition
    have hrun' : s.run (b'.operations .delete partition) = .ok t :=
      (hs.wellFormed.run_delete_perm hnodes hedges).symm.trans hrun
    obtain ⟨hanswer, hstore⟩ := writes_iff.1 ⟨partition, b, h, hacc, hrun⟩
    obtain ⟨hanswer', hstore'⟩ := writes_iff.1 ⟨partition, b', h', haccepted.1 hacc, hrun'⟩
    refine ⟨hstore'.trans hstore.symm, fun _ => ⟨hanswer, hanswer', ?_⟩⟩
    rw [hstore]
    exact (hs.wellFormed partition).deletion_run hpartition
  · -- the requests are refused, though not for the same item
    have hstore := store_mutate_of_not_accepted (s := s) h hacc
    have hstore' := store_mutate_of_not_accepted (s := s) h' (mt haccepted.2 hacc)
    exact ⟨hstore'.trans hstore.symm, fun hall => absurd hall hacc⟩

/-- Removal cascades both ways between `a` and `b` and from `b` to `c`; a loop lies at `d`. -/
def cities : List SessionStep :=
  [.begin "t",
    .stage "t" (.storeNode "p" (.ofKey "d" "City")),
    .stage "t" (.storeNode "p" (.ofKey "c" "City")),
    .stage "t" (.storeNode "p" (.ofKey "b" "City")),
    .stage "t" (.storeNode "p" (.ofKey "a" "City")),
    .stage "t" (.storeEdge "p" (.ofEnds "ab" "Road" ⟨"a", "City", "from", true⟩
      ⟨"b", "City", "to", true⟩)),
    .stage "t" (.storeEdge "p" (.ofEnds "bc" "Road" ⟨"b", "City", "from", true⟩
      ⟨"c", "City", "to", false⟩)),
    .stage "t" (.storeEdge "p" (.ofEnds "dd" "Road" ⟨"d", "City", "from", true⟩
      ⟨"d", "City", "to", false⟩)),
    .commit "t"]

/-- Two nodes and an edge are deleted. If the second node goes first, it takes along an edge over
which the removal of the first would have come to it; what is left is the same. -/
theorem mutate_delete_perm_cities :
    let s := (Session.start.run cities).store
    let body nodes :=
      Utf8.encode (encodeBatch ⟨nodes, [⟨(Node.ofKey "dd" "Road").attributes⟩]⟩).text
    let t := (mutate s .delete ["p"] (body [.ofKey "a" "City", .ofKey "c" "City"])).store
    (mutate s .delete ["p"] (body [.ofKey "c" "City", .ofKey "a" "City"])).store = t ∧
    (s.partitionOrEmpty "p").Stores ⟨"b", "City"⟩ ∧
    (t.partitionOrEmpty "p").node? "b" "City" = none := by
  intro s body t
  have hrequest : ∀ x y, writeRequest ["p"] (body [.ofKey x "City", .ofKey y "City"]) =
      .ok ("p", ⟨[.ofKey x "City", .ofKey y "City"], [⟨(Node.ofKey "dd" "Road").attributes⟩]⟩) := by
    intro x y
    refine writeRequest_encodeBatch "p" (List.forall_mem_cons.2 ⟨Node.sendable_ofKey x _ _, ?_⟩)
      (List.forall_mem_singleton.2 (Node.sendable_ofKey "dd" "Road" _))
    exact List.forall_mem_singleton.2 (Node.sendable_ofKey y _ _)
  have hs : s.Reachable := ⟨cities, rfl⟩
  obtain ⟨hsame, hdeleted⟩ := mutate_delete_perm hs (hrequest "a" "c") (hrequest "c" "a")
    (List.Perm.swap _ _ _) (List.Perm.refl _)
  have hacc : Batch.Accepted ⟨[.ofKey "a" "City", .ofKey "c" "City"],
      [⟨(Node.ofKey "dd" "Road").attributes⟩]⟩ .delete "p" := by
    have hcity : isKindName "City" = true := by decide +kernel
    have hroad : isKindName "Road" = true := by decide +kernel
    have hnames : ∀ n ∈ [Node.ofKey "a" "City", Node.ofKey "c" "City"],
        n.key ≠ "" ∧ isKindName n.kind = true :=
      List.forall_mem_cons.2 ⟨⟨by decide, hcity⟩, List.forall_mem_singleton.2 ⟨by decide, hcity⟩⟩
    exact Batch.accepted_delete (by decide +kernel) hnames
      (List.forall_mem_singleton.2 ⟨by decide, hroad⟩)
  obtain ⟨-, -, hleft⟩ := hdeleted hacc
  have hcascades : (s.partitionOrEmpty "p").Cascades ⟨"a", "City"⟩ ⟨"b", "City"⟩ :=
    ⟨"ab", "Road", _, rfl, .first, _, _, rfl, rfl, rfl, rfl, rfl⟩
  have hdoomed : (s.partitionOrEmpty "p").Doomed
      ([Node.ofKey "a" "City", Node.ofKey "c" "City"].map Node.ref) ⟨"b", "City"⟩ :=
    ⟨⟨"a", "City"⟩, List.mem_cons_self, .single hcascades⟩
  refine ⟨hsame, rfl, Option.eq_none_iff_forall_ne_some.2 fun n hn => ?_⟩
  exact (hleft.node (r := ⟨"b", "City"⟩).1 hn).2 hdoomed

end Endpoint

end PropertyGraph
