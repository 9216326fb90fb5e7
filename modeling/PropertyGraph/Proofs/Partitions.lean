import PropertyGraph.Proofs.Entities
import PropertyGraph.Store.Commit

/-!
# Partitions stay well formed

Every operation on a partition keeps it well formed: tables list what they store, every
entity stands under its own key and kind, and every edge lies between stored nodes.

- `node?_putNode`, …, `edge?_detach`: what each operation does to the two views of a
  partition, the nodes and the edges by key and kind.
- `AllConsistent`, `Filed`: the tables of one sort of entities are in order. Nodes and edges
  share this.
- `Partition.Sound`: what a removal relies on. `Sound.detach`: taking a node out keeps it.
- `Partition.WellFormed`: the invariant, and `WellFormed.apply`: **one operation keeps
  it**. Removal keeps it at every node it takes out, also while it cascades.
-/

namespace PropertyGraph

/-! ## Entities by kind and key -/

section Tables

variable {α : Type}

/-- The entity under a key in the table of a kind. -/
def lookUp (tables : NameMap (Table α)) (key kind : String) : Option α :=
  (tables.get? kind).bind (·.get? key)

theorem lookUp_eq_some_iff {tables : NameMap (Table α)} {key kind : String} {a : α} :
    lookUp tables key kind = some a ↔ ∃ t, tables.get? kind = some t ∧ t.get? key = some a :=
  Option.bind_eq_some_iff

/-- A kind that was never used has an empty table. -/
theorem get?_getD_table (tables : NameMap (Table α)) (key kind : String) :
    ((tables.get? kind).getD ∅).get? key = lookUp tables key kind := by
  unfold lookUp
  cases tables.get? kind <;> rfl

theorem lookUp_insert_put (tables : NameMap (Table α)) (key kind : String) (a : α)
    (x k : String) :
    lookUp (tables.insert kind (((tables.get? kind).getD ∅).put key a)) x k =
      if key = x ∧ kind = k then some a else lookUp tables x k := by
  rw [lookUp, NameMap.get?_insert]
  by_cases hk : kind = k
  · subst hk
    rw [if_pos rfl, Option.bind_some, Table.get?_put, get?_getD_table]
    simp
  · rw [if_neg hk, if_neg fun h => hk h.2]
    rfl

theorem lookUp_modify_erase (tables : NameMap (Table α)) (key kind : String) (x k : String) :
    lookUp (tables.modify kind (·.erase key)) x k =
      if key = x ∧ kind = k then none else lookUp tables x k := by
  unfold lookUp
  rw [NameMap.get?_modify]
  cases tables.get? k with
  | none => simp
  | some t =>
    rw [Option.map_some, Option.bind_some, Option.bind_some]
    by_cases hk : kind = k
    · subst hk
      simp
    · rw [if_neg (Ne.symm hk), if_neg fun h => hk h.2]

/-- Every table lists what it stores. -/
def AllConsistent (tables : NameMap (Table α)) : Prop :=
  ∀ k t, tables.get? k = some t → t.Consistent

/-- The tables of one sort of entities are in order: each lists what it stores, and every
entity stands under its own key and kind. -/
structure Filed (key kind : α → String) (tables : NameMap (Table α)) : Prop where
  consistent : ∀ {k : String} {t : Table α}, tables.get? k = some t → t.Consistent
  own : ∀ {x k : String} {a : α}, lookUp tables x k = some a → key a = x ∧ kind a = k

variable {key kind : α → String} {tables tables' : NameMap (Table α)}

theorem AllConsistent.table (h : AllConsistent tables) (k : String) :
    ((tables.get? k).getD ∅).Consistent := by
  cases ht : tables.get? k with
  | none => exact Table.consistent_empty
  | some t => exact h k t ht

/-- Tables that are changed one by one stay consistent if each of them does. -/
theorem AllConsistent.map_table (h : AllConsistent tables) {f : String → Table α → Table α}
    (hget : ∀ k, tables'.get? k = (tables.get? k).map (f k))
    (hcons : ∀ k t, t.Consistent → (f k t).Consistent) : AllConsistent tables' := by
  intro k t ht
  obtain ⟨t₀, ht₀, rfl⟩ := Option.map_eq_some_iff.1 (hget k ▸ ht)
  exact hcons k t₀ (h k t₀ ht₀)

theorem AllConsistent.erase (h : AllConsistent tables) (x k : String) :
    AllConsistent (tables.modify k (·.erase x)) := by
  refine h.map_table (f := fun k' t => if k' = k then t.erase x else t)
    (fun k' => NameMap.get?_modify tables k _ k') fun k' t ht => ?_
  split
  · exact ht.erase x
  · exact ht

theorem filed_empty : Filed key kind (∅ : NameMap (Table α)) where
  consistent h := by cases h
  own h := by cases h

theorem Filed.allConsistent (h : Filed key kind tables) : AllConsistent tables :=
  fun _ _ ht => h.consistent ht

theorem Filed.table (h : Filed key kind tables) (k : String) :
    ((tables.get? k).getD ∅).Consistent := h.allConsistent.table k

/-- Storing an entity under its own key and kind keeps the tables in order. -/
theorem Filed.put (h : Filed key kind tables) {a : α} {x k : String} (hx : key a = x)
    (hk : kind a = k) :
    Filed key kind (tables.insert k (((tables.get? k).getD ∅).put x a)) where
  consistent {k' t} ht := by
    rw [NameMap.get?_insert] at ht
    split at ht
    · cases ht
      exact (h.table k).put x a
    · exact h.consistent ht
  own {x' k' b} hb := by
    rw [lookUp_insert_put] at hb
    split at hb
    · next heq =>
      cases hb
      exact ⟨hx.trans heq.1, hk.trans heq.2⟩
    · exact h.own hb

/-- Changing every table keeps them in order if each stays consistent and gains nothing. -/
theorem Filed.map_table (h : Filed key kind tables) {f : String → Table α → Table α}
    (hget : ∀ k, tables'.get? k = (tables.get? k).map (f k))
    (hcons : ∀ k t, t.Consistent → (f k t).Consistent)
    (hsub : ∀ k t x a, t.Consistent → (f k t).get? x = some a → t.get? x = some a) :
    Filed key kind tables' where
  consistent {k t} ht := h.allConsistent.map_table hget hcons k t ht
  own {x k a} ha := by
    obtain ⟨t, ht, ha⟩ := lookUp_eq_some_iff.1 ha
    obtain ⟨t₀, ht₀, rfl⟩ := Option.map_eq_some_iff.1 (hget k ▸ ht)
    exact h.own (lookUp_eq_some_iff.2 ⟨t₀, ht₀, hsub k t₀ x a (h.consistent ht₀) ha⟩)

theorem Filed.erase (h : Filed key kind tables) (x k : String) :
    Filed key kind (tables.modify k (·.erase x)) := by
  refine h.map_table (f := fun k' t => if k' = k then t.erase x else t)
    (fun k' => NameMap.get?_modify tables k _ k') (fun k' t ht => ?_) (fun k' t y a _ ha => ?_)
  · split
    · exact ht.erase x
    · exact ht
  · split at ha
    · rw [Table.get?_erase] at ha
      split at ha
      · cases ha
      · exact ha
    · exact ha

end Tables

/-! ## Ends at a node -/

theorem EdgeEnd.isAt_iff {d : EdgeEnd} {r : NodeRef} :
    d.isAt r = true ↔ d.key = r.key ∧ d.kind = r.kind := by
  simp [EdgeEnd.isAt]

namespace Edge

theorem attachedAt?_eq_none_iff {e : Edge} {r : NodeRef} {side : EndSide} :
    e.attachedAt? r side = none ↔ ∀ d, e.endpoint side = .ok d → d.isAt r = false := by
  unfold attachedAt?
  cases h : e.endpoint side with
  | error => simp
  | ok here =>
    by_cases hat : here.isAt r
    · simp [hat]
    · simp [hat]

/-- An edge is attached to a node exactly if one of its ends lies there. -/
theorem attached?_eq_none_iff {e : Edge} {r : NodeRef} :
    e.attached? r = none ↔ ∀ side d, e.endpoint side = .ok d → d.isAt r = false := by
  rw [attached?, List.findSome?_eq_none_iff]
  constructor
  · intro h side
    exact attachedAt?_eq_none_iff.1 (h side (by cases side <;> simp [EndSide.all]))
  · intro h side _
    exact attachedAt?_eq_none_iff.2 (h side)

end Edge

namespace Partition

variable {p q : Partition}

/-- The partition stores a node under the key and the kind. -/
def Stores (p : Partition) (r : NodeRef) : Prop := (p.node? r.key r.kind).isSome

/-! ## What the operations do to the views -/

theorem edge?_eq_lookUp (p : Partition) (key kind : String) :
    p.edge? key kind = lookUp p.edges key kind := rfl

theorem node?_putNode (p : Partition) (n : Node) (key kind : String) :
    (p.putNode n).node? key kind =
      if n.key = key ∧ n.kind = kind then some n else p.node? key kind :=
  lookUp_insert_put p.nodes n.key n.kind n key kind

@[simp] theorem edge?_putNode (p : Partition) (n : Node) (key kind : String) :
    (p.putNode n).edge? key kind = p.edge? key kind := rfl

/-- What a node becomes when it is laid over the stored one with its key and kind. -/
def merged (p : Partition) (n : Node) : Node :=
  match p.node? n.key n.kind with
  | some stored => stored.merge n
  | none => n

theorem mergeNode_eq (p : Partition) (n : Node) :
    p.mergeNode n =
      { p with nodes := p.nodes.insert n.kind ((p.nodeTable n.kind).put n.key (p.merged n)) } := by
  have hget : (p.nodeTable n.kind).get? n.key = p.node? n.key n.kind :=
    get?_getD_table p.nodes n.key n.kind
  cases hs : p.node? n.key n.kind with
  | none => simp [mergeNode, merged, hget, hs]
  | some stored => simp [mergeNode, merged, hget, hs]

theorem node?_mergeNode (p : Partition) (n : Node) (key kind : String) :
    (p.mergeNode n).node? key kind =
      if n.key = key ∧ n.kind = kind then some (p.merged n) else p.node? key kind := by
  rw [mergeNode_eq]
  exact lookUp_insert_put p.nodes n.key n.kind (p.merged n) key kind

@[simp] theorem edge?_mergeNode (p : Partition) (n : Node) (key kind : String) :
    (p.mergeNode n).edge? key kind = p.edge? key kind := rfl

@[simp] theorem node?_putEdge (p : Partition) (e : Edge) (key kind : String) :
    (p.putEdge e).node? key kind = p.node? key kind := rfl

theorem edge?_putEdge (p : Partition) (e : Edge) (key kind : String) :
    (p.putEdge e).edge? key kind =
      if e.key = key ∧ e.kind = kind then some e else p.edge? key kind :=
  lookUp_insert_put p.edges e.key e.kind e key kind

@[simp] theorem node?_eraseEdge (p : Partition) (x k key kind : String) :
    (p.eraseEdge x k).node? key kind = p.node? key kind := rfl

theorem edge?_eraseEdge (p : Partition) (x k key kind : String) :
    (p.eraseEdge x k).edge? key kind =
      if x = key ∧ k = kind then none else p.edge? key kind :=
  lookUp_modify_erase p.edges x k key kind

theorem node?_detach (p : Partition) (r : NodeRef) (key kind : String) :
    (p.detach r).node? key kind =
      if r.key = key ∧ r.kind = kind then none else p.node? key kind :=
  lookUp_modify_erase p.nodes r.key r.kind key kind

/-- Of a consistent table exactly the edges that are attached to the node go. -/
theorem get?_withoutAttached {t : Table Edge} (h : t.Consistent) (r : NodeRef) (key : String) :
    (withoutAttached r t).get? key = (t.get? key).filter fun e => (e.attached? r).isNone := by
  -- keys are unique, so a key goes exactly if the edge under it is attached
  have hmem : key ∈ attachedKeys r t ↔ ∃ e, t.get? key = some e ∧ (e.attached? r).isSome := by
    simp only [attachedKeys, List.mem_map, List.mem_filter]
    constructor
    · rintro ⟨⟨x, e⟩, ⟨hx, he⟩, rfl⟩
      exact ⟨e, h.mem_rows_iff.1 hx, he⟩
    · rintro ⟨e, hx, he⟩
      exact ⟨(key, e), ⟨h.mem_rows_iff.2 hx, he⟩, rfl⟩
  rw [withoutAttached, Table.get?_eraseAll]
  cases ht : t.get? key with
  | none => simp
  | some e =>
    rw [ht] at hmem
    cases ha : e.attached? r with
    | none =>
      rw [if_neg fun hk => by simpa [ha] using hmem.1 hk]
      simp [Option.filter, ha]
    | some c =>
      rw [if_pos (hmem.2 ⟨e, rfl, by simp [ha]⟩)]
      simp [Option.filter, ha]

/-- Taking a node out takes along exactly the edges that are attached to it. -/
theorem edge?_detach (h : AllConsistent p.edges) (r : NodeRef) (key kind : String) :
    (p.detach r).edge? key kind =
      (p.edge? key kind).filter fun e => (e.attached? r).isNone := by
  rw [edge?_eq_lookUp, edge?_eq_lookUp, lookUp, lookUp, detach, NameMap.get?_map]
  cases ht : p.edges.get? kind with
  | none => rfl
  | some t => exact get?_withoutAttached (h kind t ht) r key

/-! ## The invariant -/

/-- The tables of a partition are consistent and its edges lie between stored nodes. Entities
may stand under any key and kind. -/
structure Sound (p : Partition) : Prop where
  nodes : AllConsistent p.nodes
  edges : AllConsistent p.edges
  linked : ∀ {key kind : String} {e : Edge}, p.edge? key kind = some e →
    ∀ side, ∃ d, e.endpoint side = .ok d ∧ (p.node? d.key d.kind).isSome

/-- A partition in order: its tables are, and every edge lies between stored nodes. -/
structure WellFormed (p : Partition) : Prop where
  nodes : Filed Node.key Node.kind p.nodes
  edges : Filed Edge.key Edge.kind p.edges
  linked : ∀ {key kind : String} {e : Edge}, p.edge? key kind = some e →
    ∀ side, ∃ d, e.endpoint side = .ok d ∧ (p.node? d.key d.kind).isSome

theorem WellFormed.sound (h : p.WellFormed) : p.Sound :=
  ⟨h.nodes.allConsistent, h.edges.allConsistent, h.linked⟩

theorem wellFormed_empty : (∅ : Partition).WellFormed where
  nodes := filed_empty
  edges := filed_empty
  linked h := by cases h

/-- Storing a node under its own key and kind cannot leave an edge dangling. -/
theorem WellFormed.insert_node (h : p.WellFormed) {n : Node} {key kind : String}
    (hk : n.key = key) (hi : n.kind = kind) :
    WellFormed { p with nodes := p.nodes.insert kind ((p.nodeTable kind).put key n) } where
  nodes := h.nodes.put hk hi
  edges := h.edges
  linked he side := by
    obtain ⟨d, hd, hn⟩ := h.linked he side
    refine ⟨d, hd, ?_⟩
    -- the node at the end is the stored one or the one that takes its place
    have := lookUp_insert_put p.nodes key kind n d.key d.kind
    show (lookUp (p.nodes.insert kind ((p.nodeTable kind).put key n)) d.key d.kind).isSome
    rw [nodeTable, this]
    split
    · rfl
    · exact hn

theorem WellFormed.putNode (h : p.WellFormed) (n : Node) : (p.putNode n).WellFormed :=
  h.insert_node rfl rfl

/-- However a node spells its key and kind, merging it into a stored one keeps the names
the stored one is filed under. -/
theorem WellFormed.naming_merged (h : p.WellFormed) (n : Node) :
    (p.merged n).key = n.key ∧ (p.merged n).kind = n.kind := by
  unfold merged
  cases hs : p.node? n.key n.kind with
  | none => exact ⟨rfl, rfl⟩
  | some stored =>
    obtain ⟨hk, hi⟩ := h.nodes.own hs
    exact ⟨(Node.key_merge hk.symm).trans hk, (Node.kind_merge hi.symm).trans hi⟩

theorem WellFormed.mergeNode (h : p.WellFormed) (n : Node) : (p.mergeNode n).WellFormed := by
  rw [mergeNode_eq]
  exact h.insert_node (h.naming_merged n).1 (h.naming_merged n).2

theorem WellFormed.eraseEdge (h : p.WellFormed) (key kind : String) :
    (p.eraseEdge key kind).WellFormed where
  nodes := h.nodes
  edges := h.edges.erase key kind
  linked he side := by
    rw [edge?_eraseEdge] at he
    split at he
    · cases he
    · exact h.linked he side

theorem checkEndpoint_eq_ok_iff {e : Edge} {side : EndSide} :
    p.checkEndpoint e side = .ok () ↔
      ∃ d, e.endpoint side = .ok d ∧ (p.node? d.key d.kind).isSome := by
  rw [checkEndpoint, bind_eq_ok_iff]
  refine exists_congr fun d => and_congr_right fun _ => ?_
  split
  · next h => simp [h]
  · next h => simp [h]

/-- An edge is stored exactly if both its ends lie at stored nodes. -/
theorem linkEdge_eq_ok_iff {e : Edge} :
    p.linkEdge e = .ok q ↔
      (∀ side, ∃ d, e.endpoint side = .ok d ∧ (p.node? d.key d.kind).isSome) ∧
        q = p.putEdge e := by
  rw [linkEdge]
  constructor
  · intro h
    obtain ⟨_, h₁, h⟩ := bind_eq_ok_iff.1 h
    obtain ⟨_, h₂, h⟩ := bind_eq_ok_iff.1 h
    cases h
    refine ⟨fun side => ?_, rfl⟩
    cases side with
    | first => exact checkEndpoint_eq_ok_iff.1 h₁
    | second => exact checkEndpoint_eq_ok_iff.1 h₂
  · rintro ⟨h, rfl⟩
    refine bind_eq_ok_iff.2 ⟨(), checkEndpoint_eq_ok_iff.2 (h .first), ?_⟩
    exact bind_eq_ok_iff.2 ⟨(), checkEndpoint_eq_ok_iff.2 (h .second), rfl⟩

theorem WellFormed.linkEdge (h : p.WellFormed) {e : Edge} (hq : p.linkEdge e = .ok q) :
    q.WellFormed := by
  obtain ⟨hends, rfl⟩ := linkEdge_eq_ok_iff.1 hq
  refine ⟨h.nodes, h.edges.put rfl rfl, fun {key kind f} hf side => ?_⟩
  rw [edge?_putEdge] at hf
  split at hf
  · cases hf
    exact hends side
  · exact h.linked hf side

/-- Taking a node out together with the edges attached to it leaves no edge dangling: an
edge that stays has both ends elsewhere. -/
theorem Sound.detach (h : p.Sound) (r : NodeRef) : (p.detach r).Sound where
  nodes := h.nodes.erase r.key r.kind
  edges := h.edges.map_table (f := fun _ => withoutAttached r)
    (fun k => NameMap.get?_map p.edges _ k) fun _ t ht => ht.eraseAll _
  linked {key kind e} he side := by
    rw [edge?_detach h.edges, Option.filter_eq_some_iff] at he
    obtain ⟨he, hfree⟩ := he
    obtain ⟨d, hd, hn⟩ := h.linked he side
    -- the edge stayed, so this end does not lie at the node that was taken out
    have hat : d.isAt r = false := Edge.attached?_eq_none_iff.1 (by simpa using hfree) side d hd
    refine ⟨d, hd, ?_⟩
    rw [node?_detach, if_neg]
    · exact hn
    · rintro ⟨hk, hi⟩
      rw [EdgeEnd.isAt_iff.2 ⟨hk.symm, hi.symm⟩] at hat
      cases hat

theorem WellFormed.detach (h : p.WellFormed) (r : NodeRef) : (p.detach r).WellFormed where
  nodes := h.nodes.erase r.key r.kind
  edges := by
    refine h.edges.map_table (f := fun _ => withoutAttached r)
      (fun k => NameMap.get?_map p.edges _ k) (fun _ t ht => ht.eraseAll _)
      (fun _ t x e _ he => ?_)
    rw [withoutAttached, Table.get?_eraseAll] at he
    split at he
    · cases he
    · exact he
  linked := (h.sound.detach r).linked

/-- Removal takes nodes away and adds none. -/
theorem node?_of_removeNodes {refs : List NodeRef} {key kind : String} {n : Node}
    (h : (p.removeNodes refs).node? key kind = some n) : p.node? key kind = some n := by
  induction p, refs using Partition.removeNodes.induct with
  | case1 p =>
    rw [removeNodes] at h
    exact h
  | case2 p r rest hs ih =>
    rw [removeNodes, if_pos hs] at h
    have hdetached := ih h
    rw [node?_detach] at hdetached
    split at hdetached
    · cases hdetached
    · exact hdetached
  | case3 p r rest hs ih =>
    rw [removeNodes, if_neg hs] at h
    exact ih h

/-- Removal keeps the invariant at every node it takes out, whatever it cascades to. -/
theorem WellFormed.removeNodes (h : p.WellFormed) (refs : List NodeRef) :
    (p.removeNodes refs).WellFormed := by
  -- along the worklist, which grows by the nodes that a removal cascades to
  induction p, refs using Partition.removeNodes.induct with
  | case1 p =>
    rw [Partition.removeNodes]
    exact h
  | case2 p r rest hs ih =>
    rw [Partition.removeNodes, if_pos hs]
    exact ih (h.detach r)
  | case3 p r rest hs ih =>
    rw [Partition.removeNodes, if_neg hs]
    exact ih h

/-- **One operation keeps a partition well formed.** -/
theorem WellFormed.apply (h : p.WellFormed) {op : Operation} (hq : p.apply op = .ok q) :
    q.WellFormed := by
  cases op with
  | updateNode _ n =>
    cases hq
    exact h.mergeNode n
  | storeNode _ n =>
    cases hq
    exact h.putNode n
  | removeNode _ key kind =>
    cases hq
    exact h.removeNodes [⟨key, kind⟩]
  | storeEdge _ e => exact h.linkEdge hq
  | removeEdge _ key kind =>
    cases hq
    exact h.eraseEdge key kind

end Partition

end PropertyGraph
