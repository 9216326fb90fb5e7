import PropertyGraph.Proofs.Listings
import PropertyGraph.Proofs.Representation
import PropertyGraph.Proofs.Writes

/-!
# A listing can be stored back

What is listed for a kind of nodes can be sent back as it is. Every node is then replaced by
itself, in its place, so the store that comes out is the store that was there.

- `Partition.Within`, `Store.Within`: all attributes of stored nodes could stand in a body.
- `Store.Requested`: the stores that requests bring about; `Requested.within`: **they hold
  nothing deeper than a body can bring in**.
- `Store.run_stored_nodes`: storing stored nodes changes nothing.
- `Endpoint.relisting_identity`: **the main statement**.
-/

namespace PropertyGraph

/-! ## What requests can store -/

/-- What an operation brings in could stand in a body. -/
def Operation.Within : Operation → Prop
  | .updateNode _ n => n.attributes.Within entityDepth
  | .storeNode _ n => n.attributes.Within entityDepth
  | .removeNode .. => True
  | .storeEdge .. => True
  | .removeEdge .. => True

namespace Partition

variable {p q : Partition}

/-- The attributes of all stored nodes could stand in a body. -/
def Within (p : Partition) : Prop :=
  ∀ key kind n, p.node? key kind = some n → n.attributes.Within entityDepth

theorem within_empty : (∅ : Partition).Within := by
  intro key kind n hn
  cases hn

theorem Within.merged (h : p.Within) {n : Node} (hn : n.attributes.Within entityDepth) :
    (p.merged n).attributes.Within entityDepth := by
  unfold Partition.merged
  cases hs : p.node? n.key n.kind with
  | none => exact hn
  | some stored => exact (h _ _ stored hs).union hn

/-- One operation brings in no more than it holds itself. -/
theorem Within.apply (h : p.Within) {op : Operation} (hop : op.Within) (hq : p.apply op = .ok q) :
    q.Within := by
  intro key kind m hm
  cases op with
  | updateNode _ n =>
    cases hq
    rw [node?_mergeNode] at hm
    split at hm
    · cases hm
      exact h.merged hop
    · exact h key kind m hm
  | storeNode _ n =>
    cases hq
    rw [node?_putNode] at hm
    split at hm
    · cases hm
      exact hop
    · exact h key kind m hm
  | removeNode _ x k =>
    cases hq
    exact h key kind m (node?_of_removeNodes hm)
  | storeEdge _ e =>
    obtain ⟨-, rfl⟩ := linkEdge_eq_ok_iff.1 hq
    exact h key kind m hm
  | removeEdge _ x k =>
    cases hq
    exact h key kind m hm

end Partition

namespace Store

variable {s t : Store}

/-- The attributes of all stored nodes could stand in a body. -/
def Within (s : Store) : Prop := ∀ name, (s.partitionOrEmpty name).Within

theorem within_empty : (∅ : Store).Within := fun _ => Partition.within_empty

theorem Within.apply (h : s.Within) {op : Operation} (hop : op.Within) (ht : s.apply op = .ok t) :
    t.Within := by
  intro name
  by_cases hn : name = op.partition
  · subst hn
    exact (h op.partition).apply hop (partitionOrEmpty_apply ht)
  · rw [partitionOrEmpty, partition?_apply ht hn]
    exact h name

theorem Within.run (h : s.Within) {ops : List Operation} (hops : ∀ op ∈ ops, op.Within)
    (ht : s.run ops = .ok t) : t.Within := by
  induction ops generalizing s with
  | nil =>
    cases ht
    exact h
  | cons op rest ih =>
    obtain ⟨hop, hrest⟩ := List.forall_mem_cons.1 hops
    obtain ⟨mid, hmid, ht⟩ := bind_eq_ok_iff.1 ht
    exact ih (h.apply hop hmid) hrest ht

end Store

/-- What a batch carries out it has read from a body. -/
theorem Batch.within_operations {b : Batch} (h : ∀ n ∈ b.nodes, n.attributes.Within entityDepth)
    (verb : Verb) (partition : String) : ∀ op ∈ b.operations verb partition, op.Within := by
  intro op hop
  rcases List.mem_append.1 hop with hop | hop
  · obtain ⟨n, hn, rfl⟩ := List.mem_map.1 hop
    cases verb with
    | put => exact h n hn
    | post => exact h n hn
    | delete => trivial
  · obtain ⟨e, -, rfl⟩ := List.mem_map.1 hop
    cases verb <;> trivial

/-- Whatever a write is answered, what it leaves could still stand in bodies. -/
theorem Store.Within.mutate {s : Store} (h : s.Within) (verb : Verb) (segments : List String)
    (body : Bytes) : (Endpoint.mutate s verb segments body).store.Within := by
  rcases Endpoint.mutate_cases s verb segments body with ⟨t, hwrites, -, hstore⟩ | ⟨-, hstore⟩
  · obtain ⟨partition, batch, hrequest, -, hrun⟩ := hwrites
    obtain ⟨x, -, hrequest⟩ := bind_eq_ok_iff.1 hrequest
    obtain ⟨⟨p, target⟩, -, hrequest⟩ := bind_eq_ok_iff.1 hrequest
    obtain ⟨b, hdecode, hrequest⟩ := bind_eq_ok_iff.1 hrequest
    cases hrequest
    have hbody : decodeBody target body = .ok batch := by
      cases hb : decodeBody target body with
      | error f =>
        rw [Endpoint.decode, hb] at hdecode
        cases hdecode
      | ok b' =>
        rw [Endpoint.decode, hb] at hdecode
        cases hdecode
        rfl
    rw [hstore]
    exact h.run (batch.within_operations (decodeBody_within hbody).1 verb partition) hrun
  · rw [hstore]
    exact h

/-- The stores that requests bring about, whatever they are and however they are answered,
begun on the empty one. -/
inductive Store.Requested : Store → Prop where
  | empty : Requested ∅
  | mutate {s : Store} (h : Requested s) (verb : Verb) (segments : List String) (body : Bytes) :
      Requested (Endpoint.mutate s verb segments body).store

namespace Store

variable {s : Store}

theorem Requested.reachable (h : s.Requested) : s.Reachable := by
  induction h with
  | empty => exact ⟨[], rfl⟩
  | mutate _ verb segments body ih => exact ih.mutate verb segments body

theorem Requested.within (h : s.Requested) : s.Within := by
  induction h with
  | empty => exact within_empty
  | mutate _ verb segments body ih => exact ih.mutate verb segments body

/-! ## Storing stored nodes -/

/-- Storing a node that is stored already changes nothing. -/
theorem apply_storeNode_of_stored {name : String} {n : Node}
    (h : (s.partitionOrEmpty name).node? n.key n.kind = some n) :
    s.apply (.storeNode name n) = .ok s := by
  obtain ⟨table, htable, hget⟩ := lookUp_eq_some_iff.1 h
  have hput : (s.partitionOrEmpty name).putNode n = s.partitionOrEmpty name := by
    have hentry : (s.partitionOrEmpty name).nodeTable n.kind = table := by
      rw [Partition.nodeTable, htable, Option.getD_some]
    rw [Partition.putNode, hentry, Table.put_of_get? hget, NameMap.insert_of_get? htable]
  have hpart : s.partitions.get? name = some (s.partitionOrEmpty name) := by
    cases hp : s.partitions.get? name with
    | some p => rw [partitionOrEmpty, partition?, hp, Option.getD_some]
    | none =>
      rw [partitionOrEmpty, partition?, hp] at htable
      cases htable
  refine apply_eq_ok_iff.2 ⟨_, congrArg Except.ok hput, ?_⟩
  rw [Operation.partition, NameMap.insert_of_get? hpart]

/-- Storing stored nodes, however many, changes nothing. -/
theorem run_stored_nodes {name : String} {nodes : List Node}
    (h : ∀ n ∈ nodes, (s.partitionOrEmpty name).node? n.key n.kind = some n) :
    s.run (nodes.map (.storeNode name)) = .ok s :=
  foldlM_of_fixed (List.forall_mem_map.2 fun n hn => apply_storeNode_of_stored (h n hn))

/-- The names of stored nodes are usable. -/
theorem Requested.names_of_stored (h : s.Requested) {name key kind : String} {n : Node}
    (hn : (s.partitionOrEmpty name).node? key kind = some n) :
    n.key ≠ "" ∧ isKindName n.kind = true := by
  have hnamed := (h.reachable.allNamed.partitionOrEmpty name).nodes
  obtain ⟨hkey, hkind⟩ := (h.reachable.wellFormed name).nodes.own hn
  obtain ⟨table, htable, -⟩ := lookUp_eq_some_iff.1 hn
  rw [hkey, hkind]
  exact ⟨hnamed.key hn, hnamed.kind htable⟩

end Store

namespace Endpoint

variable {s : Store} {partition kind : String}

/-- **A listing can be stored back.** Take any store that requests bring about, and a kind of
nodes of a partition whose attributes have no numbers but integers. If the nodes of the kind
can be listed without a window, then the text of the list, sent as the body of a request to
store nodes in the partition, is accepted, and the store is as it was. -/
theorem relisting_identity (hs : s.Requested) {q : Query} (hq : Unwindowed q)
    (hfree : ∀ key n, (s.partitionOrEmpty partition).node? key kind = some n →
      n.attributes.FloatFree)
    {a : Answer} (hget : get s [partition, "n", kind] q = .ok a) :
    ∃ body population, a = .document body population ∧
      (mutate s .post [partition, "n"] (Utf8.encode body.text)).answer = .ok .empty ∧
      (mutate s .post [partition, "n"] (Utf8.encode body.text)).store = s := by
  have hformed := hs.reachable.wellFormed
  have hp : isPartitionName partition = true := isPartitionName_of_get (some kind) hget
  rw [get_kindList, window_of_unwindowed hq] at hget
  obtain ⟨nodes, hlist⟩ :=
    (hformed partition).exists_listing (List.pairwise_singleton (· < ·) kind)
  obtain ⟨nodes, population, hlist, rfl⟩ :=
    (lists_of_listing hlist _ _ _ (listKind_eq hp hlist .all)).2 a hget
  refine ⟨_, _, rfl, ?_⟩
  -- the listed nodes are stored ones of the kind
  have hstored : ∀ n ∈ nodes, ∃ key, (s.partitionOrEmpty partition).node? key kind = some n := by
    intro n hn
    obtain ⟨r, hr, hnode⟩ := hlist.exists_of_mem hn
    obtain rfl : r.kind = kind := List.mem_singleton.1 ((hlist.complete r).1 hr).2
    exact ⟨r.key, hnode⟩
  have hown : ∀ n ∈ nodes, (s.partitionOrEmpty partition).node? n.key n.kind = some n := by
    intro n hn
    obtain ⟨key, hkey⟩ := hstored n hn
    obtain ⟨hk, hi⟩ := (hformed partition).nodes.own hkey
    rw [hk, hi]
    exact hkey
  refine mutate_encodeList s .post hp nodes (fun n hn => ?_) (fun n hn => ?_)
    (Store.run_stored_nodes hown)
  · obtain ⟨key, hkey⟩ := hstored n hn
    exact hs.names_of_stored hkey
  · obtain ⟨key, hkey⟩ := hstored n hn
    exact ⟨hs.within partition key kind n hkey, hfree key n hkey⟩

/-- A node whose key is a number, with values whose text needs care. -/
def memo : Node :=
  ((Node.ofKey "" "Memo").set keyName (.number (.int (-7)))).set "lines"
    (.array [.string "\"a\\b\n", .object [("deep", .array [])]])

theorem memo_names : memo.key = "-7" ∧ memo.kind = "Memo" := ⟨by decide +kernel, rfl⟩

theorem memo_attributes : memo.attributes.Within entityDepth ∧ memo.attributes.FloatFree := by
  have hnumber : (Json.Number.int (-7)).Fits := by
    show -(Nat.pow 2 63 : Int) ≤ -7 ∧ (-7 : Int) < (Nat.pow 2 64 : Int)
    decide
  have hwithin : Json.Within entityDepth
      (.array [.string "\"a\\b\n", .object [("deep", .array [])]]) := by
    refine .array (List.forall_mem_cons.2 ⟨.string _, List.forall_mem_singleton.2 ?_⟩)
    exact .object (List.pairwise_singleton _ _)
      (List.forall_mem_singleton.2 (.array (List.forall_mem_nil _)))
  have hfree : Json.FloatFree (.array [.string "\"a\\b\n", .object [("deep", .array [])]]) := by
    refine .array (List.forall_mem_cons.2 ⟨.string _, List.forall_mem_singleton.2 ?_⟩)
    exact .object (List.forall_mem_singleton.2 (.array (List.forall_mem_nil _)))
  constructor
  · exact (((Attributes.within_empty.insert keyName (.string "")).insert kindName
      (.string "Memo")).insert keyName (.number hnumber)).insert "lines" hwithin
  · exact (((Attributes.floatFree_empty.insert keyName (.string "")).insert kindName
      (.string "Memo")).insert keyName (.int (-7))).insert "lines" hfree

/-- Two nodes of a kind, neither in the order of their numbers nor in that of their keys. -/
def memos : List Node := [memo, .ofKey "-10" "Memo"]

theorem memos_names : ∀ n ∈ memos, n.key ≠ "" ∧ isKindName n.kind = true := by
  obtain ⟨hkey, hkind⟩ := memo_names
  have hname : isKindName "Memo" = true := by decide +kernel
  refine List.forall_mem_cons.2 ⟨?_, List.forall_mem_singleton.2 ⟨by decide, hname⟩⟩
  rw [hkey, hkind]
  exact ⟨by decide, hname⟩

theorem memos_attributes :
    ∀ n ∈ memos, n.attributes.Within entityDepth ∧ n.attributes.FloatFree :=
  List.forall_mem_cons.2
    ⟨memo_attributes, List.forall_mem_singleton.2 (Node.sendable_ofKey "-10" "Memo" _)⟩

/-- The partition with the two memos. -/
def memoPartition : Partition := ((∅ : Partition).putNode memo).putNode (.ofKey "-10" "Memo")

/-- The store after a request for the two memos. -/
theorem memos_stored :
    (mutate (∅ : Store) .post ["main", "n"]
      (Utf8.encode (encodeList (memos.map (·.attributes))).text)).store =
      ⟨(∅ : NameMap Partition).insert "main" memoPartition⟩ :=
  (mutate_encodeList ∅ .post (by decide +kernel) memos memos_names memos_attributes rfl).2

theorem node?_memoPartition (key kind : String) :
    memoPartition.node? key kind =
      if "-10" = key ∧ "Memo" = kind then some (.ofKey "-10" "Memo")
      else if "-7" = key ∧ "Memo" = kind then some memo
      else none := by
  obtain ⟨hkey, hkind⟩ := memo_names
  rw [memoPartition, Partition.node?_putNode, Partition.node?_putNode, hkey, hkind]
  rfl

/-- The memos are listed in the order in which they were sent. -/
theorem memos_listing (h : memoPartition.WellFormed) : memoPartition.Listing ["Memo"] memos := by
  obtain ⟨nodes, hlist⟩ := h.exists_listing (List.pairwise_singleton (· < ·) "Memo")
  have hrefs : memoPartition.references ["Memo"] = [⟨"-7", "Memo"⟩, ⟨"-10", "Memo"⟩] := by
    decide +kernel
  have hstored := hlist.stored
  rw [hrefs] at hstored
  obtain ⟨n, rest, hn, hrest, rfl⟩ := List.forall₂_cons_left_iff.1 hstored
  obtain ⟨n', rest', hn', hrest', rfl⟩ := List.forall₂_cons_left_iff.1 hrest
  obtain rfl := List.forall₂_nil_left_iff.1 hrest'
  rw [node?_memoPartition] at hn hn'
  obtain rfl : memo = n := Option.some.inj hn
  obtain rfl : Node.ofKey "-10" "Memo" = n' := Option.some.inj hn'
  exact hlist

/-- Two nodes that were sent once are listed in this order, which is not that of their keys, and
can be sent again as listed. Neither moves. -/
theorem relisting_identity_memos :
    let body := Utf8.encode (encodeList (memos.map (·.attributes))).text
    let s := (mutate (∅ : Store) .post ["main", "n"] body).store
    s.nodeKeys "main" "Memo" = .ok (some ["-7", "-10"]) ∧
    get s ["main", "n", "Memo"] ∅ =
      .ok (.document (encodeList (memos.map (·.attributes))) (some 2)) ∧
    (mutate s .post ["main", "n"] body).answer = .ok .empty ∧
    (mutate s .post ["main", "n"] body).store = s := by
  intro body s
  have hreq : s.Requested := .mutate .empty _ _ _
  have hs : s = ⟨(∅ : NameMap Partition).insert "main" memoPartition⟩ := memos_stored
  have hpart : s.partitionOrEmpty "main" = memoPartition := by rw [hs]; rfl
  have hvalid : isPartitionName "main" = true := by decide +kernel
  have hq : Unwindowed ∅ := fun b => NameMap.get?_empty b.name
  have hlist : (s.partitionOrEmpty "main").Listing ["Memo"] memos :=
    hpart ▸ memos_listing (hpart ▸ hreq.reachable.wellFormed "main")
  have hfree : ∀ key n, (s.partitionOrEmpty "main").node? key "Memo" = some n →
      n.attributes.FloatFree := by
    intro key n hn
    rw [hpart, node?_memoPartition] at hn
    split at hn
    · cases hn
      exact (memos_attributes _ (List.mem_cons_of_mem _ List.mem_cons_self)).2
    · split at hn
      · cases hn
        exact (memos_attributes _ List.mem_cons_self).2
      · cases hn
  have hcount : s.nodeCount "Memo" = 2 := by rw [hs]; decide +kernel
  have hkeys : s.nodeKeys "main" "Memo" = .ok (some ["-7", "-10"]) := by
    rw [s.nodeKeys_of_valid hvalid, hpart]
    exact congrArg Except.ok (by decide +kernel)
  have hget : get s ["main", "n", "Memo"] ∅ =
      .ok (.document (encodeList (memos.map (·.attributes))) (some 2)) := by
    have hused : ((s.partitionOrEmpty "main").nodes.get? "Memo").isSome := by rw [hpart]; rfl
    rw [get_kindList, window_of_unwindowed hq]
    show listKind s "main" "Memo" .all = _
    rw [listKind_eq hvalid hlist, if_pos hused, listed_all, hcount]
  obtain ⟨_, _, hbody, hanswer, hstore⟩ := relisting_identity hreq hq hfree hget
  cases hbody
  exact ⟨hkeys, hget, hanswer, hstore⟩

end Endpoint

end PropertyGraph
