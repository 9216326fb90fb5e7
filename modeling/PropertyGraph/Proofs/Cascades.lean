import PropertyGraph.Proofs.Removals

/-!
# The exact meaning of a cascading removal

A node is removed by recursion: it is taken out with its edges, and then every node is removed
in turn to which its removal cascades, each from what the removals before it have left. Edges
may run in circles, so it is not obvious that this ends, or that it still finds every node that
an edge led to at the beginning.

- `Partition.Removes`: the recursion, told by what it does and not by how long it may take.
- `Partition.removes_iff`: **the recursion ends**, in one partition.
- `Partition.Sound.mem_of_reaches`: how far a removal can go at most.
- `Partition.removeNode_exact`: **the main statement**: just the nodes go that can be reached
  along cascading edges of the partition as it was, and just the edges attached to them.
-/

namespace PropertyGraph

namespace Partition

variable {p q : Partition} {r x : NodeRef} {refs : List NodeRef}

/-! ## The recursion -/

/-- Nodes are removed one after another. One that is not stored is passed over. One that is
stored is taken out with its edges, and the nodes to which its removal cascades are removed
before the next one. -/
inductive Removes : Partition → List NodeRef → Partition → Prop where
  | done {p : Partition} : Removes p [] p
  | absent {p q : Partition} {r : NodeRef} {rest : List NodeRef} (hr : ¬ p.Stores r)
      (hrest : Removes p rest q) : Removes p (r :: rest) q
  | stored {p mid q : Partition} {r : NodeRef} {rest : List NodeRef} (hr : p.Stores r)
      (hfar : Removes (p.detach r) (p.cascade r) mid) (hrest : Removes mid rest q) :
      Removes p (r :: rest) q

theorem removeNodes_cons_of_stores (h : p.Stores r) (rest : List NodeRef) :
    p.removeNodes (r :: rest) = (p.detach r).removeNodes (p.cascade r ++ rest) := by
  rw [removeNodes]
  exact if_pos h

theorem removeNodes_cons_of_not_stores (h : ¬ p.Stores r) (rest : List NodeRef) :
    p.removeNodes (r :: rest) = p.removeNodes rest := by
  rw [removeNodes]
  exact if_neg h

/-- Wherever the recursion ends, the worklist ends too. -/
theorem Removes.eq_removeNodes (h : p.Removes refs q) : q = p.removeNodes refs := by
  induction h with
  | done => rw [removeNodes]
  | absent hr _ ih => rw [removeNodes_cons_of_not_stores hr, ih]
  | stored hr _ _ ihfar ihrest =>
    rw [removeNodes_cons_of_stores hr, removeNodes_append, ← ihfar, ← ihrest]

/-- A removal of several nodes comes by the partition that the first of them leave. -/
theorem Removes.exists_mid {first second : List NodeRef} (h : p.Removes (first ++ second) q) :
    ∃ mid, p.Removes first mid ∧ mid.Removes second q := by
  induction first generalizing p with
  | nil => exact ⟨p, .done, h⟩
  | cons r rest ih =>
    cases h with
    | absent hr hrest =>
      obtain ⟨mid, hfirst, hsecond⟩ := ih hrest
      exact ⟨mid, .absent hr hfirst, hsecond⟩
    | stored hr hfar hrest =>
      obtain ⟨mid, hfirst, hsecond⟩ := ih hrest
      exact ⟨mid, .stored hr hfar hfirst, hsecond⟩

theorem removes_removeNodes (p : Partition) (refs : List NodeRef) :
    p.Removes refs (p.removeNodes refs) := by
  -- along the worklist, where the nodes to cascade to and the rest stand in one list
  induction p, refs using Partition.removeNodes.induct with
  | case1 p =>
    rw [removeNodes]
    exact .done
  | case2 p r rest hs ih =>
    rw [removeNodes_cons_of_stores hs]
    obtain ⟨mid, hfar, hrest⟩ := ih.exists_mid
    exact .stored hs hfar hrest
  | case3 p r rest hs ih =>
    rw [removeNodes_cons_of_not_stores hs]
    exact .absent hs ih

/-- **The recursion ends**, whatever circles there are, and it leaves one partition. -/
theorem removes_iff : p.Removes refs q ↔ q = p.removeNodes refs := by
  constructor
  · exact Removes.eq_removeNodes
  · rintro rfl
    exact p.removes_removeNodes refs

/-! ## The main statement -/

theorem doomed_singleton : p.Doomed [r] x ↔ Relation.ReflTransGen p.Cascades r x := by
  simp [Doomed]

/-- A removal goes no further than to nodes among which each removal stays. -/
theorem Sound.mem_of_reaches (h : p.Sound) (hclosed : ∀ y ∈ refs, ∀ z ∈ p.cascade y, z ∈ refs)
    (hr : r ∈ refs) (hpath : Relation.ReflTransGen p.Cascades r x) : x ∈ refs := by
  induction hpath with
  | refl => exact hr
  | @tail y z _ hyz ih =>
    by_cases hz : z = y
    · exact hz ▸ ih
    · exact hclosed y ih z ((h.mem_cascade_iff hz).2 hyz)

/-- **A cascading removal, exactly.** Take any partition whose tables are consistent and whose
edges lie between stored nodes, and any key and kind. The recursion that removes the node ends,
in one partition. A node is left in it, as it was, unless it can be reached from the removed one
along edges of the partition as it was, each followed away from an end whose flag is set. An edge
is left, as it was, unless one of its ends lies at such a node. What is left of a table stands in
the order that it had. If there is no such node, nothing changes. -/
theorem removeNode_exact (h : p.Sound) (key kind : String) :
    let r : NodeRef := ⟨key, kind⟩
    let q := p.removeNode key kind
    (∀ q', p.Removes [r] q' ↔ q' = q) ∧
    (∀ x n, q.node? x.key x.kind = some n ↔
      p.node? x.key x.kind = some n ∧ ¬ Relation.ReflTransGen p.Cascades r x) ∧
    (∀ x k e, q.edge? x k = some e ↔ p.edge? x k = some e ∧
      ∀ side d, e.endpoint side = .ok d → ¬ Relation.ReflTransGen p.Cascades r d.node) ∧
    KeepsOrder p.nodes q.nodes ∧ KeepsOrder p.edges q.edges ∧
    (¬ p.Stores r → q = p) := by
  intro r q
  have hleft : p.Deletion [r] [] q := h.deletion_removeNodes [r]
  refine ⟨fun q' => removes_iff, ?_, ?_, hleft.nodeOrder, hleft.edgeOrder, ?_⟩
  · intro x n
    rw [hleft.node, doomed_singleton]
  · intro x k e
    rw [hleft.edge]
    simp only [doomed_singleton, List.not_mem_nil, false_implies, implies_true, and_true]
  · intro hr
    exact removeNode_of_absent (Option.not_isSome_iff_eq_none.1 hr)

/-- Removal cascades in a circle between `a` and `b`, along a loop at `b`, and from `c` to `b`
but not back. -/
def circle : List SessionStep :=
  [.begin "t",
    .stage "t" (.storeNode "p" (.ofKey "a" "City")),
    .stage "t" (.storeNode "p" (.ofKey "b" "City")),
    .stage "t" (.storeNode "p" (.ofKey "c" "City")),
    .stage "t" (.storeEdge "p" (.ofEnds "ab" "Road" ⟨"a", "City", "from", true⟩
      ⟨"b", "City", "to", false⟩)),
    .stage "t" (.storeEdge "p" (.ofEnds "cb" "Road" ⟨"c", "City", "from", true⟩
      ⟨"b", "City", "to", false⟩)),
    .stage "t" (.storeEdge "p" (.ofEnds "cc" "Road" ⟨"c", "City", "from", true⟩
      ⟨"c", "City", "to", true⟩)),
    .stage "t" (.storeEdge "p" (.ofEnds "ba" "Rail" ⟨"a", "City", "to", false⟩
      ⟨"b", "City", "from", true⟩)),
    .stage "t" (.storeEdge "p" (.ofEnds "bb" "Rail" ⟨"b", "City", "from", false⟩
      ⟨"b", "City", "to", true⟩)),
    .commit "t"]

/-- The removal of `a` ends, takes `b` along and the road from `c`, and leaves `c` and its loop. -/
theorem removeNode_exact_circle :
    let p := (Session.start.run circle).store.partitionOrEmpty "p"
    let q := p.removeNode "a" "City"
    p.Sound ∧ (∀ q', p.Removes [⟨"a", "City"⟩] q' ↔ q' = q) ∧
    q.node? "b" "City" = none ∧ (q.edge? "cb" "Road").isNone ∧
    q.node? "c" "City" = some (.ofKey "c" "City") ∧ (q.edge? "cc" "Road").isSome := by
  intro p q
  have hsound : p.Sound :=
    (Store.Reachable.wellFormed ⟨circle, rfl⟩ "p").sound
  obtain ⟨hends, hnode, hedge, -⟩ := removeNode_exact hsound "a" "City"
  have hb : p.Cascades ⟨"a", "City"⟩ ⟨"b", "City"⟩ :=
    ⟨"ab", "Road", _, rfl, .first, _, _, rfl, rfl, rfl, rfl, rfl⟩
  have hclosed : ∀ y ∈ [(⟨"a", "City"⟩ : NodeRef), ⟨"b", "City"⟩], ∀ z ∈ p.cascade y,
      z ∈ [(⟨"a", "City"⟩ : NodeRef), ⟨"b", "City"⟩] := by
    have ha : p.cascade ⟨"a", "City"⟩ = [⟨"b", "City"⟩] := rfl
    have hb : p.cascade ⟨"b", "City"⟩ = [⟨"a", "City"⟩] := rfl
    refine List.forall_mem_cons.2 ⟨?_, List.forall_mem_singleton.2 ?_⟩
    · rw [ha]
      decide
    · rw [hb]
      decide
  have hc : ¬ Relation.ReflTransGen p.Cascades ⟨"a", "City"⟩ ⟨"c", "City"⟩ :=
    mt (hsound.mem_of_reaches hclosed List.mem_cons_self) (by decide)
  refine ⟨hsound, hends, ?_, ?_, ?_, ?_⟩
  · refine Option.eq_none_iff_forall_ne_some.2 fun n hn => ?_
    exact ((hnode ⟨"b", "City"⟩ n).1 hn).2 (.single hb)
  · rw [Option.isNone_iff_eq_none, Option.eq_none_iff_forall_ne_some]
    intro e he
    obtain ⟨he, hfar⟩ := (hedge "cb" "Road" e).1 he
    cases he
    exact hfar .second _ rfl (.single hb)
  · exact (hnode ⟨"c", "City"⟩ _).2 ⟨rfl, hc⟩
  · refine Option.isSome_iff_exists.2 ⟨_, (hedge "cc" "Road" _).2 ⟨rfl, fun side d hd => ?_⟩⟩
    -- both ends of the loop lie at the node
    cases side with
    | first =>
      cases hd
      exact hc
    | second =>
      cases hd
      exact hc

end Partition

end PropertyGraph
