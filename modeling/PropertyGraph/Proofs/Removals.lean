import Mathlib.Data.List.Perm.Subperm
import Mathlib.Logic.Relation
import PropertyGraph.Proofs.Idempotence

/-!
# What a removal takes away

A removal works off a list of nodes that grows while edges are taken out under it, so an edge
along which it would cascade may be gone by the time its turn comes. This module says what is
left at the end from the partition as it was at the beginning, and that no such edge was needed.

- `KeepsOrder`: entities were taken out of tables, and the others stand in their order.
- `Edge.Cascades`, `Partition.Doomed`: **what goes**: the nodes that are named, and those that
  can be reached from them along edges, away from ends whose flags are set.
- `Partition.Sound.doomed_cons_iff`: one turn of the removal. The node itself goes, and
  what else is doomed is doomed still once it is out.
- `Partition.Deletion`: what is left of a partition. `Deletion.unique`: this is one partition.
- `Partition.removeNodes_append`: removals one after another are one removal of all the nodes.
- `Partition.Sound.deletion_removeNodes`: **a removal takes just the doomed nodes** and the
  edges attached to them.
-/

namespace PropertyGraph

/-! ## The order of what is left -/

/-- A table that lists some of the keys of another, in their order, lists those that it stores
something under. -/
theorem Table.Consistent.keys_eq_filter {α : Type} {t t' : Table α} (h : t.Consistent)
    (h' : t'.Consistent) (hsub : t'.keys.Sublist t.keys) :
    t'.keys = t.keys.filter fun x => (t'.get? x).isSome := by
  have hself : t'.keys.filter (fun x => (t'.get? x).isSome) = t'.keys :=
    List.filter_eq_self.2 fun x hx => (h'.listed x).1 hx
  have hfilter : t'.keys.Sublist (t.keys.filter fun x => (t'.get? x).isSome) :=
    hself ▸ hsub.filter _
  have hmem : (t.keys.filter fun x => (t'.get? x).isSome) ⊆ t'.keys := fun x hx =>
    (h'.listed x).2 (List.mem_filter.1 hx).2
  exact hfilter.eq_of_length_le (List.subperm_of_subset (h.nodup.filter _) hmem).length_le

theorem Table.Consistent.keys_eraseAll_sublist {α : Type} {t : Table α} (h : t.Consistent)
    (keys : List String) : (t.eraseAll keys).keys.Sublist t.keys := by
  induction keys generalizing t with
  | nil => exact List.Sublist.refl _
  | cons key rest ih =>
    have hfirst : (t.erase key).keys.Sublist t.keys := h.keys_erase key ▸ List.filter_sublist
    exact (ih (h.erase key)).trans hfirst

section Order

variable {α : Type} {tables tables' tables'' : NameMap (Table α)}

/-- Entities were taken out of tables: of each kind the keys that are left stand in the order
that they had. -/
def KeepsOrder (tables tables' : NameMap (Table α)) : Prop :=
  ∀ k, kindKeys tables' k =
    (kindKeys tables k).map fun keys => keys.filter fun x => (lookUp tables' x k).isSome

/-- Changing every table keeps the order if each stays consistent and lists no new keys. -/
theorem AllConsistent.keepsOrder (h : AllConsistent tables) {f : String → Table α → Table α}
    (hget : ∀ k, tables'.get? k = (tables.get? k).map (f k))
    (hcons : ∀ k t, t.Consistent → (f k t).Consistent)
    (hsub : ∀ k t, t.Consistent → (f k t).keys.Sublist t.keys) : KeepsOrder tables tables' := by
  intro k
  unfold kindKeys lookUp
  rw [hget k]
  cases ht : tables.get? k with
  | none => rfl
  | some t =>
    have hct : t.Consistent := h k t ht
    exact congrArg some (hct.keys_eq_filter (hcons k t hct) (hsub k t hct))

theorem AllConsistent.keepsOrder_self (h : AllConsistent tables) : KeepsOrder tables tables :=
  h.keepsOrder (f := fun _ t => t) (fun k => (Option.map_id' (x := tables.get? k)).symm)
    (fun _ _ ht => ht) fun _ t _ => List.Sublist.refl t.keys

theorem AllConsistent.keepsOrder_erase (h : AllConsistent tables) (x k : String) :
    KeepsOrder tables (tables.modify k (·.erase x)) := by
  refine h.keepsOrder (f := fun k' t => if k' = k then t.erase x else t)
    (fun k' => NameMap.get?_modify tables k _ k') (fun k' t ht => ?_) (fun k' t ht => ?_)
  · split
    · exact ht.erase x
    · exact ht
  · split
    · exact ht.keys_erase x ▸ List.filter_sublist
    · exact List.Sublist.refl t.keys

theorem KeepsOrder.trans (h : KeepsOrder tables tables') (h' : KeepsOrder tables' tables'')
    (hkept : ∀ x k a, lookUp tables'' x k = some a → lookUp tables' x k = some a) :
    KeepsOrder tables tables'' := by
  intro k
  rw [h' k, h k, Option.map_map]
  refine congrArg (fun f => (kindKeys tables k).map f) (funext fun keys => ?_)
  rw [Function.comp_apply, List.filter_filter]
  refine List.filter_congr fun x _ => ?_
  -- what is left in the end was left in between
  cases hx : lookUp tables'' x k with
  | none => rfl
  | some a =>
    rw [hkept x k a hx]
    rfl

/-- Two ways to take out the same entities leave the same tables. -/
theorem KeepsOrder.unique (h : KeepsOrder tables tables') (h' : KeepsOrder tables tables'')
    (hsame : ∀ x k, lookUp tables' x k = lookUp tables'' x k) : tables' = tables'' := by
  refine tables_ext (fun k => ?_) hsame
  rw [h k, h' k]
  simp only [hsame]

end Order

/-! ## What removal cascades to -/

/-- What identifies a node. -/
def Node.ref (n : Node) : NodeRef := ⟨n.key, n.kind⟩

theorem EndSide.eq_other_of_ne {s t : EndSide} (h : s ≠ t) : s = t.other := by
  cases s with
  | first =>
    cases t with
    | first => exact absurd rfl h
    | second => rfl
  | second =>
    cases t with
    | first => rfl
    | second => exact absurd rfl h

/-- Removal of a node cascades along the edge to another one: some end lies at the first node
and has its flag set, and the opposite end lies at the second. -/
def Edge.Cascades (e : Edge) (r x : NodeRef) : Prop :=
  ∃ side here far, e.endpoint side = .ok here ∧ e.endpoint side.other = .ok far ∧
    here.node = r ∧ here.cascading = true ∧ far.node = x

theorem EdgeEnd.isAt_iff_node {d : EdgeEnd} {r : NodeRef} : d.isAt r = true ↔ d.node = r := by
  rw [EdgeEnd.isAt_iff, EdgeEnd.node, NodeRef.mk.injEq]

namespace Edge

variable {e : Edge} {r x : NodeRef}

theorem attachedAt?_eq_some_iff {side : EndSide} :
    e.attachedAt? r side = some (some x) ↔ ∃ here far, e.endpoint side = .ok here ∧
      e.endpoint side.other = .ok far ∧ here.node = r ∧ here.cascading = true ∧ far.node = x := by
  unfold attachedAt?
  cases hhere : e.endpoint side with
  | error f => simp
  | ok here =>
    simp only [Except.ok.injEq, EdgeEnd.isAt_iff_node]
    by_cases hat : here.node = r
    · cases hfar : e.endpoint side.other with
      | error f => simp [hat]
      | ok far => cases hc : here.cascading <;> simp [hat, hc]
    · simp [hat]

/-- A removal that takes an edge out goes on where removal cascades to along it. -/
theorem cascades_of_attached (h : (e.attached? r).join = some x) : e.Cascades r x := by
  obtain ⟨side, -, hside⟩ := List.exists_of_findSome?_eq_some (Option.join_eq_some_iff.1 h)
  exact ⟨side, attachedAt?_eq_some_iff.1 hside⟩

/-- Only along a loop it may stop short, because the first end counts. -/
theorem Cascades.attached (h : e.Cascades r x) (hne : x ≠ r) : (e.attached? r).join = some x := by
  obtain ⟨side, here, far, hhere, hfar, hr, hc, hx⟩ := h
  have hside : e.attachedAt? r side = some (some x) :=
    attachedAt?_eq_some_iff.2 ⟨here, far, hhere, hfar, hr, hc, hx⟩
  have hother : e.attachedAt? r side.other = none := by
    refine attachedAt?_eq_none_iff.2 fun d hd => Bool.eq_false_iff.2 fun hat => hne ?_
    rw [← hx, ← EdgeEnd.isAt_iff_node.1 hat, Except.ok.inj (hfar.symm.trans hd)]
  rw [attached?, EndSide.all]
  cases side with
  | first => simp [hside]
  | second =>
    have hfirst : e.attachedAt? r .first = none := hother
    simp [hfirst, hside]

end Edge

namespace Partition

variable {p q q' : Partition} {r x y : NodeRef} {roots rest : List NodeRef} {erased : List Edge}

/-- Removal of a node cascades to another one along a stored edge. -/
def Cascades (p : Partition) (r x : NodeRef) : Prop :=
  ∃ key kind e, p.edge? key kind = some e ∧ e.Cascades r x

/-- The removal of some nodes takes a node along: it can be reached from one of them. -/
def Doomed (p : Partition) (roots : List NodeRef) (x : NodeRef) : Prop :=
  ∃ root ∈ roots, Relation.ReflTransGen p.Cascades root x

theorem Doomed.mono (h : p.Doomed roots x) {roots' : List NodeRef} (hsub : roots ⊆ roots') :
    p.Doomed roots' x := by
  obtain ⟨root, hroot, hpath⟩ := h
  exact ⟨root, hsub hroot, hpath⟩

theorem exists_edge?_of_mem_rows {t : Table Edge} {row : String × Edge} (ht : t ∈ p.edges.values)
    (hrow : row ∈ t.rows) : ∃ kind, p.edge? row.1 kind = some row.2 := by
  obtain ⟨⟨kind, t⟩, hentry, rfl⟩ := List.mem_map.1 ht
  have hget : p.edges.get? kind = some t := NameMap.mem_entries_iff.1 hentry
  exact ⟨kind, lookUp_eq_some_iff.2 ⟨t, hget, Table.get?_of_mem_rows hrow⟩⟩

/-- The nodes that a removal goes on with, the node itself aside. -/
theorem Sound.mem_cascade_iff (h : p.Sound) (hne : x ≠ r) :
    x ∈ p.cascade r ↔ p.Cascades r x := by
  rw [cascade, List.mem_flatMap]
  constructor
  · rintro ⟨t, ht, hx⟩
    obtain ⟨row, hrow, hx⟩ := List.mem_filterMap.1 hx
    obtain ⟨kind, he⟩ := exists_edge?_of_mem_rows ht hrow
    exact ⟨row.1, kind, row.2, he, Edge.cascades_of_attached hx⟩
  · rintro ⟨key, kind, e, he, hcascades⟩
    obtain ⟨t, ht, hget⟩ := lookUp_eq_some_iff.1 he
    refine ⟨t, List.mem_map.2 ⟨(kind, t), NameMap.mem_entries_iff.2 ht, rfl⟩, ?_⟩
    exact List.mem_filterMap.2
      ⟨(key, e), (h.edges kind t ht).mem_rows_iff.2 hget, hcascades.attached hne⟩

/-- An edge is left by the removal of a node if it has both ends elsewhere. -/
theorem Sound.edge?_detach_iff (h : p.Sound) {key kind : String} {e : Edge} :
    (p.detach r).edge? key kind = some e ↔
      p.edge? key kind = some e ∧ ∀ side d, e.endpoint side = .ok d → d.node ≠ r := by
  rw [edge?_detach h.edges, Option.filter_eq_some_iff, Option.isNone_iff_eq_none,
    Edge.attached?_eq_none_iff]
  simp only [Bool.eq_false_iff, ne_eq, EdgeEnd.isAt_iff_node]

/-- With a node out, removal cascades as before among the others. -/
theorem Sound.cascades_detach_iff (h : p.Sound) :
    (p.detach r).Cascades x y ↔ p.Cascades x y ∧ x ≠ r ∧ y ≠ r := by
  constructor
  · rintro ⟨key, kind, e, he, side, here, far, hhere, hfar, rfl, hc, rfl⟩
    obtain ⟨he, hends⟩ := h.edge?_detach_iff.1 he
    exact ⟨⟨key, kind, e, he, side, here, far, hhere, hfar, rfl, hc, rfl⟩,
      hends side here hhere, hends side.other far hfar⟩
  · rintro ⟨⟨key, kind, e, he, side, here, far, hhere, hfar, rfl, hc, rfl⟩, hx, hy⟩
    refine ⟨key, kind, e, h.edge?_detach_iff.2 ⟨he, fun s d hd => ?_⟩,
      side, here, far, hhere, hfar, rfl, hc, rfl⟩
    -- the end is the one that cascades or the opposite one
    by_cases hs : s = side
    · subst hs
      rwa [← Except.ok.inj (hhere.symm.trans hd)]
    · obtain rfl := EndSide.eq_other_of_ne hs
      rwa [← Except.ok.inj (hfar.symm.trans hd)]

/-- **One turn of a removal.** The node itself goes. Any other node that is doomed can be reached
from the nodes that the removal goes on with, without passing through the one that is out. -/
theorem Sound.doomed_cons_iff (h : p.Sound) :
    p.Doomed (r :: rest) x ↔ x = r ∨ (p.detach r).Doomed (p.cascade r ++ rest) x := by
  constructor
  · rintro ⟨root, hroot, hpath⟩
    -- along the path; whenever it comes back to the node it starts afresh
    induction hpath with
    | refl =>
      rcases List.mem_cons.1 hroot with rfl | hroot
      · exact .inl rfl
      · exact .inr ⟨root, List.mem_append_right _ hroot, .refl⟩
    | @tail y z _ hyz ih =>
      by_cases hz : z = r
      · exact .inl hz
      · rcases ih with rfl | ⟨root', hroot', hpath'⟩
        · exact .inr ⟨z, List.mem_append_left _ ((h.mem_cascade_iff hz).2 hyz), .refl⟩
        · by_cases hy : y = r
          · subst hy
            exact .inr ⟨z, List.mem_append_left _ ((h.mem_cascade_iff hz).2 hyz), .refl⟩
          · exact .inr ⟨root', hroot', hpath'.tail (h.cascades_detach_iff.2 ⟨hyz, hy, hz⟩)⟩
  · rintro (rfl | ⟨root, hroot, hpath⟩)
    · exact ⟨x, List.mem_cons_self, .refl⟩
    · have hpath : Relation.ReflTransGen p.Cascades root x :=
        Relation.ReflTransGen.mono (fun _ _ hyz => (h.cascades_detach_iff.1 hyz).1) _ _ hpath
      rcases List.mem_append.1 hroot with hroot | hroot
      · by_cases hne : root = r
        · exact ⟨r, List.mem_cons_self, hne ▸ hpath⟩
        · exact ⟨r, List.mem_cons_self, .head ((h.mem_cascade_iff hne).1 hroot) hpath⟩
      · exact ⟨root, List.mem_cons_of_mem _ hroot, hpath⟩

/-- An end of a stored edge lies at a stored node. -/
theorem Sound.stores_of_endpoint (h : p.Sound) {key kind : String} {e : Edge}
    (he : p.edge? key kind = some e) {side : EndSide} {d : EdgeEnd}
    (hd : e.endpoint side = .ok d) : p.Stores d.node := by
  obtain ⟨d', hd', hstored⟩ := h.linked he side
  rwa [Except.ok.inj (hd'.symm.trans hd)] at hstored

/-- From a node that is not stored removal cascades nowhere. -/
theorem Sound.doomed_cons_of_absent (h : p.Sound) (hr : ¬ p.Stores r) :
    p.Doomed (r :: rest) x ↔ x = r ∨ p.Doomed rest x := by
  constructor
  · rintro ⟨root, hroot, hpath⟩
    rcases List.mem_cons.1 hroot with rfl | hroot
    · rcases hpath.cases_head with heq | ⟨y, hstep, -⟩
      · exact .inl heq.symm
      · obtain ⟨key, kind, e, he, side, here, far, hhere, -, rfl, -⟩ := hstep
        exact absurd (h.stores_of_endpoint he hhere) hr
    · exact .inr ⟨root, hroot, hpath⟩
  · rintro (rfl | hdoomed)
    · exact ⟨x, List.mem_cons_self, .refl⟩
    · exact hdoomed.mono (List.subset_cons_self _ _)

/-! ## What is left -/

/-- What is left of a partition when nodes are removed and edges are erased. -/
structure Deletion (p : Partition) (roots : List NodeRef) (erased : List Edge) (q : Partition) :
    Prop where
  /-- Just the doomed nodes are gone; the others are as they were. -/
  node : ∀ {r n}, q.node? r.key r.kind = some n ↔
    p.node? r.key r.kind = some n ∧ ¬ p.Doomed roots r
  /-- Just the edges are gone that have an end at a doomed node or are erased. -/
  edge : ∀ {key kind e}, q.edge? key kind = some e ↔ p.edge? key kind = some e ∧
    (∀ side d, e.endpoint side = .ok d → ¬ p.Doomed roots d.node) ∧
    ∀ f ∈ erased, ¬ (f.key = key ∧ f.kind = kind)
  /-- The nodes that are left stand in the order that they had. -/
  nodeOrder : KeepsOrder p.nodes q.nodes
  /-- So do the edges. -/
  edgeOrder : KeepsOrder p.edges q.edges

/-- What is left is one partition, and depends on nothing but which nodes are removed and which
edges are erased. -/
theorem Deletion.unique {roots' : List NodeRef} {erased' : List Edge}
    (h : p.Deletion roots erased q) (h' : p.Deletion roots' erased' q')
    (hroots : ∀ r, r ∈ roots ↔ r ∈ roots') (herased : ∀ f, f ∈ erased ↔ f ∈ erased') :
    q = q' := by
  have hdoomed : ∀ x, p.Doomed roots x ↔ p.Doomed roots' x := fun x =>
    ⟨fun hx => hx.mono fun r hr => (hroots r).1 hr, fun hx => hx.mono fun r hr => (hroots r).2 hr⟩
  have hnodes : q.nodes = q'.nodes := by
    refine h.nodeOrder.unique h'.nodeOrder fun x k => Option.ext fun n => ?_
    have hn := (h.node (r := ⟨x, k⟩) (n := n)).trans (and_congr_right' (not_congr (hdoomed _)))
    exact hn.trans h'.node.symm
  have hedges : q.edges = q'.edges := by
    refine h.edgeOrder.unique h'.edgeOrder fun x k => Option.ext fun e => ?_
    have he : q.edge? x k = some e ↔ _ := h.edge
    simp only [hdoomed, herased] at he
    exact he.trans h'.edge.symm
  obtain ⟨nodes, edges⟩ := q
  obtain ⟨nodes', edges'⟩ := q'
  obtain rfl : nodes = nodes' := hnodes
  obtain rfl : edges = edges' := hedges
  rfl

theorem Sound.deletion_nil (h : p.Sound) : p.Deletion [] [] p where
  node := by simp [Doomed]
  edge := by simp [Doomed]
  nodeOrder := h.nodes.keepsOrder_self
  edgeOrder := h.edges.keepsOrder_self

/-- A node is left by the removal of one exactly if it is another one. -/
theorem node?_detach_eq_some_iff {n : Node} :
    (p.detach r).node? x.key x.kind = some n ↔ p.node? x.key x.kind = some n ∧ x ≠ r := by
  rw [node?_detach]
  by_cases hx : x = r
  · subst hx
    simp
  · have hnames : ¬ (r.key = x.key ∧ r.kind = x.kind) := fun ⟨hk, hi⟩ =>
      hx (NodeRef.mk.injEq .. ▸ ⟨hk.symm, hi.symm⟩)
    simp [hx, hnames]

/-- With the node out, what the rest of the removal leaves is what all of it leaves. -/
theorem Sound.deletion_cons (h : p.Sound)
    (hq : (p.detach r).Deletion (p.cascade r ++ rest) [] q) : p.Deletion (r :: rest) [] q where
  node := by
    intro x n
    rw [hq.node, node?_detach_eq_some_iff, h.doomed_cons_iff, not_or, and_assoc]
  edge := by
    intro key kind e
    rw [hq.edge, h.edge?_detach_iff]
    simp only [h.doomed_cons_iff, not_or, List.not_mem_nil, false_implies, implies_true, and_true]
    constructor
    · rintro ⟨⟨he, hends⟩, hdoomed⟩
      exact ⟨he, fun side d hd => ⟨hends side d hd, hdoomed side d hd⟩⟩
    · rintro ⟨he, hboth⟩
      exact ⟨⟨he, fun side d hd => (hboth side d hd).1⟩, fun side d hd => (hboth side d hd).2⟩
  nodeOrder :=
    (h.nodes.keepsOrder_erase r.key r.kind).trans hq.nodeOrder fun x k _ hn =>
      (hq.node (r := ⟨x, k⟩).1 hn).1
  edgeOrder := by
    have hdetach : KeepsOrder p.edges (p.detach r).edges :=
      h.edges.keepsOrder (f := fun _ => withoutAttached r) (fun k => NameMap.get?_map p.edges _ k)
        (fun _ t ht => ht.eraseAll _) fun _ t ht => ht.keys_eraseAll_sublist _
    exact hdetach.trans hq.edgeOrder fun x k e he => (hq.edge.1 he).1

theorem Sound.deletion_cons_of_absent (h : p.Sound) (hr : ¬ p.Stores r)
    (hq : p.Deletion rest [] q) : p.Deletion (r :: rest) [] q where
  node := by
    intro x n
    rw [hq.node, h.doomed_cons_of_absent hr, not_or]
    refine and_congr_right fun hn => (and_iff_right ?_).symm
    rintro rfl
    exact hr (Option.isSome_iff_exists.2 ⟨n, hn⟩)
  edge := by
    intro key kind e
    rw [hq.edge]
    refine and_congr_right fun he => and_congr_left fun _ => ?_
    refine forall₃_congr fun side d hd => ?_
    rw [h.doomed_cons_of_absent hr, not_or]
    refine (and_iff_right ?_).symm
    rintro rfl
    exact hr (h.stores_of_endpoint he hd)
  nodeOrder := hq.nodeOrder
  edgeOrder := hq.edgeOrder

/-- Removals one after another: what the first ones cascade to is gone before the others. -/
theorem removeNodes_append (p : Partition) (first second : List NodeRef) :
    p.removeNodes (first ++ second) = (p.removeNodes first).removeNodes second := by
  -- along the worklist of the first removals
  induction p, first using Partition.removeNodes.induct with
  | case1 p => rw [List.nil_append, removeNodes.eq_1]
  | case2 p r rest hs ih =>
    rw [List.cons_append, removeNodes, if_pos hs, removeNodes, if_pos hs, ← ih, List.append_assoc]
  | case3 p r rest hs ih =>
    rw [List.cons_append, removeNodes, if_neg hs, removeNodes, if_neg hs, ih]

/-- **A removal takes just the doomed nodes**, and with them the edges that have an end at one. -/
theorem Sound.deletion_removeNodes (h : p.Sound) (roots : List NodeRef) :
    p.Deletion roots [] (p.removeNodes roots) := by
  -- along the worklist; the partition gets smaller while what is doomed is told from it
  induction p, roots using Partition.removeNodes.induct with
  | case1 p =>
    rw [Partition.removeNodes]
    exact h.deletion_nil
  | case2 p r rest hs ih =>
    rw [Partition.removeNodes, if_pos hs]
    exact h.deletion_cons (ih (h.detach r))
  | case3 p r rest hs ih =>
    rw [Partition.removeNodes, if_neg hs]
    exact h.deletion_cons_of_absent hs (ih h)

end Partition

end PropertyGraph
