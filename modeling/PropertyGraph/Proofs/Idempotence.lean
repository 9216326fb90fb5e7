import PropertyGraph.Proofs.Writes

/-!
# Writes are idempotent

A request that is sent once more changes nothing, even if its body names one entity many
times. Merges and replacements are read entity by entity: what a row of them makes of an entity
does not change when the row is gone through again. Removals find nothing left to remove.

- `Placement`, `placeAll`: entities put in their tables one after another, each depending on
  what it finds there. Nodes and edges share this, merged or not.
- `placeAll_placeAll`: **placing again changes nothing** if it does so entity by entity.
- `Partition.run_onNodes_eq`, `Partition.run_storeEdges_eq_ok_iff`: a batch that stores is a row
  of placements.
- `Partition.run_deleted`: after a batch that removes, none of its entities is left.
- `Endpoint.mutate_idempotent`: **the main statement**.
-/

namespace PropertyGraph

/-! ## Placing entities -/

section Placing

variable {α : Type}

/-- An entity to be put under a key in the table of a kind. What it is may depend on what is
there. -/
structure Placement (α : Type) where
  key : String
  kind : String
  /-- The entity, given the one that is there. -/
  change : Option α → α

namespace Placement

/-- Whether the placement is about a key in the table of a kind. -/
def isAt (u : Placement α) (key kind : String) : Bool := u.key = key && u.kind = kind

/-- What is under a key after the placement, given what was. -/
def after (a : Option α) (u : Placement α) : Option α := some (u.change a)

/-- Carry out a placement. -/
def place (tables : NameMap (Table α)) (u : Placement α) : NameMap (Table α) :=
  tables.insert u.kind
    (((tables.get? u.kind).getD ∅).put u.key (u.change (lookUp tables u.key u.kind)))

end Placement

/-- Carry out placements one after another. -/
def placeAll (tables : NameMap (Table α)) (us : List (Placement α)) : NameMap (Table α) :=
  us.foldl Placement.place tables

/-- The keys of a kind in their order; none if the kind was never used. -/
def kindKeys (tables : NameMap (Table α)) (kind : String) : Option (List String) :=
  (tables.get? kind).map Table.keys

/-- Tables are their two views: the keys by kind and the entities by key and kind. -/
theorem tables_ext {tables tables' : NameMap (Table α)}
    (hkeys : ∀ k, kindKeys tables k = kindKeys tables' k)
    (h : ∀ x k, lookUp tables x k = lookUp tables' x k) : tables = tables' := by
  refine NameMap.ext_get? fun k => ?_
  have hk : (tables.get? k).map Table.keys = (tables'.get? k).map Table.keys := hkeys k
  cases ht : tables.get? k with
  | none =>
    rw [ht] at hk
    exact (Option.map_eq_none_iff.1 hk.symm).symm
  | some t =>
    rw [ht] at hk
    obtain ⟨t', ht', heq⟩ := Option.map_eq_some_iff.1 hk.symm
    rw [ht']
    refine congrArg some (Table.ext_get? heq.symm fun x => ?_)
    have hx := h x k
    rwa [lookUp, lookUp, ht, ht'] at hx

theorem lookUp_place (tables : NameMap (Table α)) (u : Placement α) (x k : String) :
    lookUp (u.place tables) x k =
      if u.isAt x k then u.after (lookUp tables x k) else lookUp tables x k := by
  rw [Placement.place, lookUp_insert_put]
  by_cases h : u.key = x ∧ u.kind = k
  · obtain ⟨rfl, rfl⟩ := h
    simp [Placement.isAt, Placement.after]
  · rw [if_neg h, if_neg (by simpa [Placement.isAt] using h)]

/-- What is under a key after several placements: those that are about the key decide, in
their order. -/
theorem lookUp_placeAll (tables : NameMap (Table α)) (us : List (Placement α)) (x k : String) :
    lookUp (placeAll tables us) x k =
      (us.filter (·.isAt x k)).foldl Placement.after (lookUp tables x k) := by
  induction us generalizing tables with
  | nil => rfl
  | cons u rest ih =>
    show lookUp (placeAll (u.place tables) rest) x k = _
    rw [ih, lookUp_place, List.filter_cons]
    split <;> rfl

/-- What was placed is there, and stays there. -/
theorem isSome_lookUp_placeAll {tables : NameMap (Table α)} {us : List (Placement α)}
    {x k : String} (h : (lookUp tables x k).isSome ∨ ∃ u ∈ us, u.isAt x k = true) :
    (lookUp (placeAll tables us) x k).isSome := by
  induction us generalizing tables with
  | nil =>
    rcases h with h | ⟨u, hu, -⟩
    · exact h
    · cases hu
  | cons u rest ih =>
    show (lookUp (placeAll (u.place tables) rest) x k).isSome
    refine ih ?_
    rw [lookUp_place]
    rcases h with h | ⟨v, hv, hat⟩
    · left
      split
      · rfl
      · exact h
    · rcases List.mem_cons.1 hv with rfl | hv
      · left
        rw [if_pos hat]
        rfl
      · exact .inr ⟨v, hv, hat⟩

/-- Placing an entity where one is stored leaves all keys in their order. -/
theorem kindKeys_place {tables : NameMap (Table α)} {u : Placement α}
    (h : (lookUp tables u.key u.kind).isSome) (k : String) :
    kindKeys (u.place tables) k = kindKeys tables k := by
  obtain ⟨a, ha⟩ := Option.isSome_iff_exists.1 h
  obtain ⟨t, ht, hget⟩ := lookUp_eq_some_iff.1 ha
  rw [kindKeys, Placement.place, NameMap.get?_insert]
  split
  · next hk =>
    subst hk
    rw [kindKeys, ht, Option.getD_some, Option.map_some, Option.map_some, Table.keys_put, hget,
      Option.isSome_some, if_pos rfl]
  · rfl

theorem kindKeys_placeAll {tables : NameMap (Table α)} {us : List (Placement α)}
    (h : ∀ u ∈ us, (lookUp tables u.key u.kind).isSome) (k : String) :
    kindKeys (placeAll tables us) k = kindKeys tables k := by
  induction us generalizing tables with
  | nil => rfl
  | cons u rest ih =>
    obtain ⟨hu, hrest⟩ := List.forall_mem_cons.1 h
    have hplaced : ∀ v ∈ rest, (lookUp (u.place tables) v.key v.kind).isSome := by
      intro v hv
      rw [lookUp_place]
      split
      · rfl
      · exact hrest v hv
    exact (ih hplaced).trans (kindKeys_place hu k)

/-- Going through the placements again changes nothing, whatever was there before. -/
def Settles (us : List (Placement α)) : Prop :=
  ∀ a : Option α, us.foldl Placement.after (us.foldl Placement.after a) =
    us.foldl Placement.after a

/-- **Placing again changes nothing** if it changes nothing entity by entity: all keys are there
by now, so none is listed anew. -/
theorem placeAll_placeAll (tables : NameMap (Table α)) {us : List (Placement α)}
    (h : ∀ x k, Settles (us.filter (·.isAt x k))) :
    placeAll (placeAll tables us) us = placeAll tables us := by
  refine tables_ext (fun k => kindKeys_placeAll (fun u hu => ?_) k) fun x k => ?_
  · have hat : u.isAt u.key u.kind = true := by simp [Placement.isAt]
    exact isSome_lookUp_placeAll (.inr ⟨u, hu, hat⟩)
  · rw [lookUp_placeAll, lookUp_placeAll]
    exact h x k _

/-- Replacements settle: the last one counts. -/
theorem settles_of_const {us : List (Placement α)}
    (h : ∀ u ∈ us, ∃ v, ∀ a, u.change a = v) : Settles us := by
  rcases List.eq_nil_or_concat us with rfl | ⟨init, u, rfl⟩
  · exact fun _ => rfl
  · obtain ⟨v, hv⟩ := h u (by simp)
    intro a
    simp [Placement.after, hv]

end Placing

/-! ## Merges settle -/

/-- Lay the attributes of a node over those of the stored one, if there is one. -/
def Node.over (n : Node) : Option Node → Node
  | some stored => stored.merge n
  | none => n

/-- The value of the last node that has the attribute. -/
def lastValue (name : String) : List Node → Option Json
  | [] => none
  | n :: rest => (lastValue name rest).or (n.attributes.get? name)

/-- An attribute of a node that may be absent. -/
def valueOf (name : String) (n : Option Node) : Option Json := n.bind (·.attributes.get? name)

theorem valueOf_over (name : String) (n : Node) (a : Option Node) :
    valueOf name (some (n.over a)) = (n.attributes.get? name).or (valueOf name a) := by
  cases a with
  | none => simp [valueOf, Node.over]
  | some stored => simp [valueOf, Node.over, Node.merge]

/-- How a node is placed that is merged. -/
def Node.merging (n : Node) : Placement Node := ⟨n.key, n.kind, n.over⟩

/-- After merges an attribute is what the last node that has it says. -/
theorem valueOf_foldl_merging (name : String) (nodes : List Node) (a : Option Node) :
    valueOf name ((nodes.map Node.merging).foldl Placement.after a) =
      (lastValue name nodes).or (valueOf name a) := by
  induction nodes generalizing a with
  | nil => rfl
  | cons n rest ih =>
    show valueOf name ((rest.map Node.merging).foldl Placement.after (some (n.over a))) = _
    rw [ih, valueOf_over, lastValue, Option.or_assoc]

/-- Nodes are their attributes. -/
theorem node_ext {a b : Option Node} (hsome : a.isSome = b.isSome)
    (h : ∀ name, valueOf name a = valueOf name b) : a = b := by
  cases a with
  | none =>
    cases b with
    | none => rfl
    | some m => cases hsome
  | some n =>
    cases b with
    | none => cases hsome
    | some m =>
      obtain ⟨attributes⟩ := n
      obtain ⟨attributes'⟩ := m
      exact congrArg (fun a => some (Node.mk a)) (NameMap.ext_get? h)

/-- Merges settle: each attribute has its last value already. -/
theorem settles_merging (nodes : List Node) : Settles (nodes.map Node.merging) := by
  intro a
  refine node_ext ?_ fun name => ?_
  · -- with a node to merge there is one at the end, and without one nothing happens
    rcases List.eq_nil_or_concat nodes with rfl | ⟨init, n, rfl⟩
    · rfl
    · simp [Placement.after]
  · rw [valueOf_foldl_merging, valueOf_foldl_merging, ← Option.or_assoc, Option.or_self]

/-! ## Batches that store -/

/-- How a node is placed that replaces another. -/
def Node.replacing (n : Node) : Placement Node := ⟨n.key, n.kind, fun _ => n⟩

/-- How a node is placed by a request that stores nodes. -/
def Verb.placement (v : Verb) : Node → Placement Node :=
  if v = .put then Node.merging else Node.replacing

/-- How an edge is placed. -/
def Edge.replacing (e : Edge) : Placement Edge := ⟨e.key, e.kind, fun _ => e⟩

/-- The nodes of a request settle, also those that are about one key. -/
theorem settles_placements (verb : Verb) (nodes : List Node) (x k : String) :
    Settles ((nodes.map verb.placement).filter (·.isAt x k)) := by
  unfold Verb.placement
  split
  · rw [List.filter_map]
    exact settles_merging _
  · refine settles_of_const fun u hu => ?_
    obtain ⟨n, -, rfl⟩ := List.mem_map.1 (List.mem_filter.1 hu).1
    exact ⟨n, fun _ => rfl⟩

theorem settles_replacing (edges : List Edge) (x k : String) :
    Settles ((edges.map Edge.replacing).filter (·.isAt x k)) := by
  refine settles_of_const fun u hu => ?_
  obtain ⟨e, -, rfl⟩ := List.mem_map.1 (List.mem_filter.1 hu).1
  exact ⟨e, fun _ => rfl⟩

namespace Partition

variable {p q : Partition} {verb : Verb}

/-- Storing nodes, merged or not, is a row of placements. -/
theorem run_onNodes_eq (hverb : verb ≠ .delete) (p : Partition) (name : String)
    (nodes : List Node) :
    p.run (nodes.map (verb.onNode name)) =
      .ok { p with nodes := placeAll p.nodes (nodes.map verb.placement) } := by
  have hstep : ∀ (p : Partition) (n : Node), p.apply (verb.onNode name n) =
      .ok { p with nodes := (verb.placement n).place p.nodes } := by
    intro p n
    cases verb with
    | put =>
      show Except.ok (p.mergeNode n) = _
      rw [mergeNode_eq]
      rfl
    | post => rfl
    | delete => exact absurd rfl hverb
  induction nodes generalizing p with
  | nil => rfl
  | cons n rest ih =>
    rw [List.map_cons, run_cons, hstep]
    exact ih _

/-- Storing edges succeeds if all their ends lie at stored nodes, and is a row of placements. -/
theorem run_storeEdges_eq_ok_iff (name : String) (edges : List Edge) :
    p.run (edges.map (.storeEdge name)) = .ok q ↔
      (∀ e ∈ edges, ∀ side, ∃ d, e.endpoint side = .ok d ∧ (p.node? d.key d.kind).isSome) ∧
        q = { p with edges := placeAll p.edges (edges.map Edge.replacing) } := by
  induction edges generalizing p with
  | nil =>
    simp only [List.map_nil, run_nil, Except.ok.injEq]
    exact ⟨fun h => ⟨List.forall_mem_nil _, h.symm⟩, fun h => h.2.symm⟩
  | cons e rest ih =>
    have hstep : ∀ mid, p.apply (.storeEdge name e) = .ok mid ↔ p.linkEdge e = .ok mid :=
      fun _ => Iff.rfl
    rw [List.map_cons, run_cons, bind_eq_ok_iff, List.forall_mem_cons]
    constructor
    · rintro ⟨mid, hmid, hq⟩
      obtain ⟨hends, rfl⟩ := linkEdge_eq_ok_iff.1 ((hstep mid).1 hmid)
      obtain ⟨hrest, rfl⟩ := ih.1 hq
      exact ⟨⟨hends, hrest⟩, rfl⟩
    · rintro ⟨⟨hends, hrest⟩, rfl⟩
      exact ⟨p.putEdge e, linkEdge_eq_ok_iff.2 ⟨hends, rfl⟩, ih.2 ⟨hrest, rfl⟩⟩

/-- A batch that stores changes nothing when it is carried out once more. -/
theorem run_stored (hverb : verb ≠ .delete) {b : Batch} {name : String}
    (h : p.run (b.operations verb name) = .ok q) : q.run (b.operations verb name) = .ok q := by
  have hedge : verb.onEdge name = .storeEdge name := by
    cases verb with
    | put => rfl
    | post => rfl
    | delete => exact absurd rfl hverb
  rw [Batch.operations, hedge, run_append, run_onNodes_eq hverb, bind_eq_ok_iff] at h ⊢
  obtain ⟨mid, hmid, h⟩ := h
  cases hmid
  obtain ⟨hends, rfl⟩ := (run_storeEdges_eq_ok_iff name b.edges).1 h
  refine ⟨_, rfl, (run_storeEdges_eq_ok_iff name b.edges).2 ⟨?_, ?_⟩⟩
  · -- the nodes are the same, so the ends lie at stored nodes once more
    show ∀ e ∈ b.edges, ∀ side, ∃ d, e.endpoint side = .ok d ∧
      (lookUp (placeAll (placeAll p.nodes (b.nodes.map verb.placement))
        (b.nodes.map verb.placement)) d.key d.kind).isSome
    rw [placeAll_placeAll _ (settles_placements verb b.nodes)]
    exact hends
  · show _ = Partition.mk (placeAll (placeAll p.nodes _) _) (placeAll (placeAll p.edges _) _)
    rw [placeAll_placeAll _ (settles_placements verb b.nodes),
      placeAll_placeAll _ (settles_replacing b.edges)]

/-! ## Batches that remove -/

theorem node?_removeNodes_eq_none {refs : List NodeRef} {key kind : String}
    (h : p.node? key kind = none) : (p.removeNodes refs).node? key kind = none := by
  cases hn : (p.removeNodes refs).node? key kind with
  | none => rfl
  | some n =>
    rw [node?_of_removeNodes hn] at h
    cases h

/-- A node that was to be removed is gone. -/
theorem node?_removeNode_self (p : Partition) (key kind : String) :
    (p.removeNode key kind).node? key kind = none := by
  rw [removeNode, removeNodes]
  split
  · refine node?_removeNodes_eq_none ?_
    rw [node?_detach, if_pos ⟨rfl, rfl⟩]
  · next h =>
    rw [removeNodes]
    simpa using h

/-- Removing a node that is not stored changes nothing. -/
theorem removeNode_of_absent {key kind : String} (h : p.node? key kind = none) :
    p.removeNode key kind = p := by
  rw [removeNode, removeNodes, if_neg (by simp [h]), removeNodes]

/-- Removing an edge that is not stored changes nothing. -/
theorem eraseEdge_of_absent {key kind : String} (h : p.edge? key kind = none) :
    p.eraseEdge key kind = p := by
  have hedges : p.edges.modify kind (·.erase key) = p.edges := by
    refine NameMap.ext_get? fun k => ?_
    rw [NameMap.get?_modify]
    cases ht : p.edges.get? k with
    | none => rfl
    | some t =>
      by_cases hk : k = kind
      · subst hk
        rw [edge?, ht] at h
        rw [Option.map_some, if_pos rfl, Table.erase_of_get?_eq_none h]
      · rw [Option.map_some, if_neg hk]
  rw [eraseEdge, hedges]

/-- None of the entities of a batch is stored. -/
structure Lacks (p : Partition) (b : Batch) : Prop where
  nodes : ∀ n ∈ b.nodes, p.node? n.key n.kind = none
  edges : ∀ e ∈ b.edges, p.edge? e.key e.kind = none

/-- After a batch that removes nodes they are gone, and no other node is new. -/
theorem node?_run_removed {name : String} {nodes : List Node}
    (h : p.run (nodes.map (Verb.delete.onNode name)) = .ok q) :
    (∀ n ∈ nodes, q.node? n.key n.kind = none) ∧
      ∀ key kind, p.node? key kind = none → q.node? key kind = none := by
  induction nodes generalizing p with
  | nil =>
    cases h
    exact ⟨List.forall_mem_nil _, fun _ _ h => h⟩
  | cons n rest ih =>
    have h : (p.removeNode n.key n.kind).run (rest.map (Verb.delete.onNode name)) = .ok q := h
    obtain ⟨hrest, hnone⟩ := ih h
    refine ⟨List.forall_mem_cons.2 ⟨hnone _ _ (p.node?_removeNode_self _ _), hrest⟩, ?_⟩
    exact fun key kind hp => hnone key kind (node?_removeNodes_eq_none hp)

/-- After a batch that removes edges they are gone, no other edge is new, and the nodes are as
they were. -/
theorem edge?_run_removed {name : String} {edges : List Edge}
    (h : p.run (edges.map (Verb.delete.onEdge name)) = .ok q) :
    (∀ e ∈ edges, q.edge? e.key e.kind = none) ∧
      (∀ key kind, p.edge? key kind = none → q.edge? key kind = none) ∧ q.nodes = p.nodes := by
  induction edges generalizing p with
  | nil =>
    cases h
    exact ⟨List.forall_mem_nil _, fun _ _ h => h, rfl⟩
  | cons e rest ih =>
    have h : (p.eraseEdge e.key e.kind).run (rest.map (Verb.delete.onEdge name)) = .ok q := h
    obtain ⟨hrest, hnone, hnodes⟩ := ih h
    have herased : ∀ key kind, p.edge? key kind = none ∨ e.key = key ∧ e.kind = kind →
        (p.eraseEdge e.key e.kind).edge? key kind = none := by
      intro key kind hor
      rw [edge?_eraseEdge]
      split
      · rfl
      · next hne => exact hor.resolve_right hne
    refine ⟨List.forall_mem_cons.2 ⟨hnone _ _ (herased _ _ (.inr ⟨rfl, rfl⟩)), hrest⟩, ?_, hnodes⟩
    exact fun key kind hp => hnone key kind (herased key kind (.inl hp))

/-- Once a batch was removed none of its entities is left. -/
theorem lacks_of_run {b : Batch} {name : String}
    (h : p.run (b.operations .delete name) = .ok q) : q.Lacks b := by
  rw [Batch.operations, run_append] at h
  obtain ⟨mid, hmid, h⟩ := bind_eq_ok_iff.1 h
  obtain ⟨hedges, -, hnodes⟩ := edge?_run_removed h
  refine ⟨fun n hn => ?_, hedges⟩
  rw [node?, hnodes]
  exact (node?_run_removed hmid).1 n hn

/-- Removing what is not there changes nothing. -/
theorem run_of_lacks {b : Batch} {name : String} (h : q.Lacks b) :
    q.run (b.operations .delete name) = .ok q := by
  refine foldlM_of_fixed fun op hop => ?_
  rcases List.mem_append.1 hop with hop | hop
  · obtain ⟨n, hn, rfl⟩ := List.mem_map.1 hop
    exact congrArg Except.ok (removeNode_of_absent (h.nodes n hn))
  · obtain ⟨e, he, rfl⟩ := List.mem_map.1 hop
    exact congrArg Except.ok (eraseEdge_of_absent (h.edges e he))

/-- **A batch that was carried out changes nothing when it is carried out once more.** -/
theorem run_twice {b : Batch} {name : String} (h : p.run (b.operations verb name) = .ok q) :
    q.run (b.operations verb name) = .ok q := by
  by_cases hverb : verb = .delete
  · subst hverb
    exact run_of_lacks (lacks_of_run h)
  · exact run_stored hverb h

end Partition

/-! ## The main statement -/

namespace Store

variable {s t : Store}

/-- Operations on one partition, at least one of them, put the partition that they give in its
place. -/
theorem run_of_partition {name : String} {ops : List Operation} {q : Partition}
    (h : ∀ op ∈ ops, op.partition = name) (hne : ops ≠ [])
    (hq : (s.partitionOrEmpty name).run ops = .ok q) :
    s.run ops = .ok ⟨s.partitions.insert name q⟩ := by
  induction ops generalizing s with
  | nil => exact absurd rfl hne
  | cons op rest ih =>
    obtain ⟨hop, hrest⟩ := List.forall_mem_cons.1 h
    subst hop
    rw [Partition.run_cons] at hq
    obtain ⟨mid, hmid, hq⟩ := bind_eq_ok_iff.1 hq
    have hstep : s.apply op = .ok ⟨s.partitions.insert op.partition mid⟩ :=
      apply_eq_ok_iff.2 ⟨mid, hmid, rfl⟩
    have hpart : Store.partitionOrEmpty ⟨s.partitions.insert op.partition mid⟩ op.partition = mid :=
      (Except.ok.inj (hmid.symm.trans (partitionOrEmpty_apply hstep))).symm
    rw [run_cons, hstep]
    show Store.run _ rest = _
    by_cases hlast : rest = []
    · subst hlast
      cases hq
      rfl
    · rw [ih hrest hlast (by rw [hpart]; exact hq), NameMap.insert_insert]

theorem run_twice {b : Batch} {verb : Verb} {name : String}
    (h : s.run (b.operations verb name) = .ok t) : t.run (b.operations verb name) = .ok t := by
  have hops := b.partition_of_mem_operations verb name
  by_cases hne : b.operations verb name = []
  · rw [hne] at h ⊢
    rfl
  · have hq : (s.partitionOrEmpty name).run (b.operations verb name) =
        .ok (t.partitionOrEmpty name) := partitionOrEmpty_run hops h
    have ht : t = ⟨s.partitions.insert name (t.partitionOrEmpty name)⟩ :=
      Except.ok.inj (h.symm.trans (run_of_partition hops hne hq))
    have hagain : t.run (b.operations verb name) =
        .ok ⟨t.partitions.insert name (t.partitionOrEmpty name)⟩ :=
      run_of_partition hops hne (Partition.run_twice hq)
    -- the partition that is put in its place again is the one that is there
    generalize t.partitionOrEmpty name = q at ht hagain
    subst ht
    rw [hagain, NameMap.insert_insert]

end Store

namespace Endpoint

/-- **Writes are idempotent.** Take any store and any request to write that succeeds, whatever
its verb, its path and its body. The same request sent once more succeeds as well, and it leaves
the very store that it found, so that all reads are answered as before. -/
theorem mutate_idempotent {s : Store} {verb : Verb} {segments : List String} {body : Bytes}
    {a : Answer} (h : (mutate s verb segments body).answer = .ok a) :
    let t := (mutate s verb segments body).store
    (mutate t verb segments body).answer = .ok a ∧ (mutate t verb segments body).store = t := by
  intro t
  obtain ⟨rfl, partition, batch, hrequest, hacc, hrun⟩ := writes_of_mutate h
  exact writes_iff.1 ⟨partition, batch, hrequest, hacc, Store.run_twice hrun⟩

/-- The attributes of both nodes can be sent. -/
theorem spellings_attributes : ∀ n ∈ [lettered, numbered],
    n.attributes.Within entityDepth ∧ n.attributes.FloatFree := by
  have hone : (Json.Number.int 1).Fits := by
    show -(Nat.pow 2 63 : Int) ≤ 1 ∧ (1 : Int) < (Nat.pow 2 64 : Int)
    decide
  have hwithin : (Node.ofKey "1" "Person").attributes.Within entityDepth :=
    (Attributes.within_empty.insert keyName (.string "1")).insert kindName (.string "Person")
  have hfree : (Node.ofKey "1" "Person").attributes.FloatFree :=
    (Attributes.floatFree_empty.insert keyName (.string "1")).insert kindName (.string "Person")
  refine List.forall_mem_cons.2
    ⟨⟨hwithin.insert "name" (.string "A"), hfree.insert "name" (.string "A")⟩, ?_⟩
  exact List.forall_mem_singleton.2
    ⟨hwithin.insert keyName (.number hone), hfree.insert keyName (.int 1)⟩

/-- An update that names one node twice, once with its key as a string and once with its key as
a number, can be sent once more. -/
theorem mutate_idempotent_spellings :
    let body := Utf8.encode (encodeList [lettered.attributes, numbered.attributes]).text
    let t := (mutate (∅ : Store) .put ["main", "n"] body).store
    (mutate (∅ : Store) .put ["main", "n"] body).answer = .ok .empty ∧
    (t.partitionOrEmpty "main").Stores ⟨"1", "Person"⟩ ∧
    (mutate t .put ["main", "n"] body).answer = .ok .empty ∧
    (mutate t .put ["main", "n"] body).store = t := by
  have hp : isPartitionName "main" = true := by decide +kernel
  have hkey : numbered.key = "1" := by decide +kernel
  have hkind : numbered.kind = "Person" := rfl
  have hnames : ∀ n ∈ [lettered, numbered], n.key ≠ "" ∧ isKindName n.kind = true := by
    refine List.forall_mem_cons.2 ⟨⟨by decide, by decide +kernel⟩, ?_⟩
    refine List.forall_mem_singleton.2 ?_
    rw [hkey, hkind]
    exact ⟨by decide, by decide +kernel⟩
  obtain ⟨hanswer, hstore⟩ := mutate_encodeList ∅ .put hp [lettered, numbered] hnames
    spellings_attributes rfl
  rw [List.map_cons, List.map_singleton] at hanswer hstore
  refine ⟨hanswer, ?_, mutate_idempotent hanswer⟩
  rw [hstore]
  show (Partition.node? (Partition.mergeNode _ numbered) "1" "Person").isSome
  rw [Partition.node?_mergeNode, if_pos ⟨hkey, hkind⟩]
  rfl

end Endpoint

end PropertyGraph
