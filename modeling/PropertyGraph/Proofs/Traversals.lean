import Mathlib.Data.List.Forall2
import PropertyGraph.Proofs.Reachability

/-!
# Traversals list exactly the edges they should

A traversal follows the edges at a node that its spec selects. This module says which edges
these are and what is listed for them, in terms of what edges say about their ends.

- `Edge.FollowedFrom`, `Edge.Followed`: **which edges are followed**, and from which sides.
- `Partition.IsRow`: what is listed for an edge: the node at its far end, and the edge
  turned so that its first end lies at the start.
- `Partition.ListsEdges`: a listing of all edges of a partition, by kind and within a kind
  by insertion. `WellFormed.listsEdges_storedEdges`: the tables give one.
- `Store.traverse_exact`: **the main statement**: of the listing exactly the edges that are
  followed get a row, in order.
-/

namespace PropertyGraph

/-! ## Which edges are followed -/

namespace Edge

/-- An edge can be followed from a side if the end there lies at the start, in a role that
the spec allows, and the opposite end is of a role and a kind that it allows. -/
def FollowedFrom (e : Edge) (r : NodeRef) (spec : TraversalSpec) (side : EndSide) : Prop :=
  ∃ start far, e.endpoint side = .ok start ∧ e.endpoint side.other = .ok far ∧
    start.key = r.key ∧ start.kind = r.kind ∧ spec.allowsStart start.role = true ∧
    spec.allowsEnd far.role far.kind = true

/-- An edge is followed if the spec allows its kind and it can be followed from a side. -/
def Followed (e : Edge) (r : NodeRef) (spec : TraversalSpec) : Prop :=
  spec.allowsEdgeKind e.kind = true ∧ ∃ side, e.FollowedFrom r spec side

variable {e : Edge} {r : NodeRef} {spec : TraversalSpec} {side : EndSide} {start far : EdgeEnd}

theorem ends?_eq_some_iff :
    e.ends? side = some (start, far) ↔
      e.endpoint side = .ok start ∧ e.endpoint side.other = .ok far := by
  unfold ends?
  cases e.endpoint side <;> cases e.endpoint side.other <;> simp

/-- With both ends read, the selection by the spec decides. -/
theorem followedFrom_iff (hs : e.endpoint side = .ok start)
    (hf : e.endpoint side.other = .ok far) :
    e.FollowedFrom r spec side ↔ spec.selects start far r = true := by
  simp [FollowedFrom, hs, hf, TraversalSpec.selects, EdgeEnd.isAt, and_assoc]

instance (e : Edge) (r : NodeRef) (spec : TraversalSpec) (side : EndSide) :
    Decidable (e.FollowedFrom r spec side) :=
  match h : e.ends? side with
  | some (start, far) =>
    decidable_of_iff (spec.selects start far r = true)
      (followedFrom_iff (ends?_eq_some_iff.1 h).1 (ends?_eq_some_iff.1 h).2).symm
  | none => isFalse fun ⟨_, _, hs, hf, _⟩ => by
    rw [ends?_eq_some_iff.2 ⟨hs, hf⟩] at h
    cases h

theorem exists_side_iff {P : EndSide → Prop} : (∃ side, P side) ↔ P .first ∨ P .second := by
  constructor
  · rintro ⟨side, h⟩
    cases side with
    | first => exact .inl h
    | second => exact .inr h
  · rintro (h | h)
    · exact ⟨_, h⟩
    · exact ⟨_, h⟩

instance (e : Edge) (r : NodeRef) (spec : TraversalSpec) : Decidable (e.Followed r spec) :=
  decidable_of_iff (spec.allowsEdgeKind e.kind = true ∧
    (e.FollowedFrom r spec .first ∨ e.FollowedFrom r spec .second))
    (and_congr_right fun _ => exists_side_iff.symm)

/-! ## Turning an edge -/

/-- Turned to a side, an edge has the end there first and the opposite end second, and is
the same in all that does not describe its ends. -/
theorem orient_spec (hs : e.endpoint side = .ok start) (hf : e.endpoint side.other = .ok far) :
    (e.orient side start far).endpoint .first = .ok start ∧
      (e.orient side start far).endpoint .second = .ok far ∧
      ∀ name, name ∉ endNames →
        (e.orient side start far).attributes.get? name = e.attributes.get? name := by
  cases side with
  | first => exact ⟨hs, hf, fun _ _ => rfl⟩
  | second =>
    -- the two ends are in different attributes, so neither write disturbs the other
    refine ⟨?_, endpoint_setEnd_self (usable_of_endpoint hf), fun name hn => ?_⟩
    · show ((e.setEnd .first start).setEnd .second far).endpoint .first = .ok start
      rw [endpoint_setEnd_of_ne (by decide), endpoint_setEnd_self (usable_of_endpoint hs)]
    · show ((e.setEnd .first start).setEnd .second far).attributes.get? name = _
      rw [get?_setEnd_of_notMem fun h => hn (EndSide.names_subset _ h),
        get?_setEnd_of_notMem fun h => hn (EndSide.names_subset _ h)]

end Edge

namespace Partition

/-- What a traversal lists for an edge: with the first side that the edge can be followed
from, the stored node at the opposite end, and the edge turned to that side. -/
def IsRow (p : Partition) (r : NodeRef) (spec : TraversalSpec) (e : Edge) (row : Node × Edge) :
    Prop :=
  ∃ side start far, e.endpoint side = .ok start ∧ e.endpoint side.other = .ok far ∧
    e.FollowedFrom r spec side ∧ (side = .second → ¬ e.FollowedFrom r spec .first) ∧
    p.node? far.key far.kind = some row.1 ∧ row.1.key = far.key ∧ row.1.kind = far.kind ∧
    row.2.endpoint .first = .ok start ∧ row.2.endpoint .second = .ok far ∧
    ∀ name, name ∉ endNames → row.2.attributes.get? name = e.attributes.get? name

variable {p : Partition} {r : NodeRef} {spec : TraversalSpec} {e : Edge}

/-- A side decides if no earlier one did. -/
theorem followFrom_cons {side : EndSide} {sides : List EndSide} {start far : EdgeEnd}
    (hs : e.endpoint side = .ok start) (hf : e.endpoint side.other = .ok far) :
    p.followFrom e r spec (side :: sides) =
      if e.FollowedFrom r spec side then
        (p.node? far.key far.kind).map fun n => (n, e.orient side start far)
      else p.followFrom e r spec sides := by
  rw [followFrom, Edge.ends?_eq_some_iff.2 ⟨hs, hf⟩]
  simp only [Edge.followedFrom_iff hs hf]

/-- An edge turned to the first side that it can be followed from is what is listed for it,
with the stored node at its far end. -/
theorem WellFormed.isRow_orient (h : p.WellFormed) {side : EndSide} {start far : EdgeEnd}
    {n : Node} (hs : e.endpoint side = .ok start) (hf : e.endpoint side.other = .ok far)
    (hn : p.node? far.key far.kind = some n) (hside : e.FollowedFrom r spec side)
    (hearlier : side = .second → ¬ e.FollowedFrom r spec .first) :
    p.IsRow r spec e (n, e.orient side start far) := by
  obtain ⟨hstart, hfar, hrest⟩ := Edge.orient_spec hs hf
  obtain ⟨hk, hi⟩ := h.nodes.own hn
  exact ⟨side, start, far, hs, hf, hside, hearlier, hn, hk, hi, hstart, hfar, hrest⟩

/-- An edge between stored nodes gives no row if it cannot be followed, and else the one
it should. The look-up of the far node cannot fail, because no edge dangles. -/
theorem WellFormed.follow_spec (h : p.WellFormed) {key kind : String}
    (he : p.edge? key kind = some e) (r : NodeRef) (spec : TraversalSpec) :
    ((¬ ∃ side, e.FollowedFrom r spec side) ∧ p.follow e r spec = none) ∨
      (∃ side, e.FollowedFrom r spec side) ∧
        ∃ row, p.follow e r spec = some row ∧ p.IsRow r spec e row := by
  -- both ends can be read and lie at stored nodes: only the selection decides
  obtain ⟨d₁, n₁, h₁, hn₁, -⟩ := h.linked_nodes _ _ _ he .first
  obtain ⟨d₂, n₂, h₂, hn₂, -⟩ := h.linked_nodes _ _ _ he .second
  rw [follow, EndSide.all, followFrom_cons h₁ h₂, followFrom_cons h₂ h₁, followFrom]
  by_cases hfirst : e.FollowedFrom r spec .first
  · refine .inr ⟨⟨_, hfirst⟩, (n₂, e.orient .first d₁ d₂), ?_, ?_⟩
    · rw [if_pos hfirst, hn₂, Option.map_some]
    · refine h.isRow_orient h₁ h₂ hn₂ hfirst ?_
      intro hside
      cases hside
  · rw [if_neg hfirst]
    by_cases hsecond : e.FollowedFrom r spec .second
    · refine .inr ⟨⟨_, hsecond⟩, (n₁, e.orient .second d₂ d₁), ?_, ?_⟩
      · rw [if_pos hsecond, hn₁, Option.map_some]
      · exact h.isRow_orient h₂ h₁ hn₁ hsecond fun _ => hfirst
    · refine .inl ⟨?_, if_neg hsecond⟩
      rw [Edge.exists_side_iff]
      exact fun h => h.elim hfirst hsecond

/-! ## The listing of all edges -/

/-- The edges of a partition as its tables list them. -/
def storedEdges (p : Partition) : List Edge :=
  p.edges.entries.flatMap fun t => t.2.rows.map (·.2)

/-- A listing of all edges of a partition, each once, by ascending kind and within a kind in
the order of insertion. -/
structure ListsEdges (p : Partition) (l : List Edge) : Prop where
  mem_iff : ∀ e, e ∈ l ↔ ∃ key kind, p.edge? key kind = some e
  nodup : (l.map fun e => (e.kind, e.key)).Nodup
  kinds : (l.map Edge.kind).Pairwise (· ≤ ·)
  keys : ∀ kind, (l.filter (·.kind = kind)).map Edge.key = (p.edgeTable kind).keys

/-- The rows of a listed table are edges under their own names. -/
theorem WellFormed.naming_row (h : p.WellFormed) {kind : String} {t : Table Edge}
    (ht : (kind, t) ∈ p.edges.entries) {row : String × Edge} (hr : row ∈ t.rows) :
    p.edge? row.1 kind = some row.2 ∧ row.2.key = row.1 ∧ row.2.kind = kind := by
  have he : p.edge? row.1 kind = some row.2 :=
    lookUp_eq_some_iff.2 ⟨t, NameMap.mem_entries_iff.1 ht, Table.get?_of_mem_rows hr⟩
  exact ⟨he, h.edges.own he⟩

theorem WellFormed.mem_storedEdges_iff (h : p.WellFormed) :
    e ∈ p.storedEdges ↔ ∃ key kind, p.edge? key kind = some e := by
  simp only [storedEdges, List.mem_flatMap, List.mem_map]
  constructor
  · rintro ⟨⟨kind, t⟩, ht, row, hr, rfl⟩
    exact ⟨row.1, kind, (h.naming_row ht hr).1⟩
  · rintro ⟨key, kind, he⟩
    obtain ⟨t, ht, hk⟩ := lookUp_eq_some_iff.1 he
    exact ⟨(kind, t), NameMap.mem_entries_iff.2 ht, (key, e),
      (h.edges.consistent ht).mem_rows_iff.2 hk, rfl⟩

/-- Kinds and keys of the listed edges, as the tables have them. -/
def edgeNames (p : Partition) : List (String × String) :=
  p.edges.entries.flatMap fun t => t.2.keys.map fun key => (t.1, key)

theorem WellFormed.map_names_storedEdges (h : p.WellFormed) :
    (p.storedEdges.map fun e => (e.kind, e.key)) = p.edgeNames := by
  rw [storedEdges, List.map_flatMap, edgeNames]
  refine List.flatMap_congr fun t ht => ?_
  rw [← (h.edges.consistent (NameMap.mem_entries_iff.1 ht)).map_fst_rows, List.map_map,
    List.map_map]
  refine List.map_congr_left fun row hr => ?_
  obtain ⟨-, hk, hi⟩ := h.naming_row ht hr
  simp [hk, hi]

theorem WellFormed.edgeNames_nodup (h : p.WellFormed) : p.edgeNames.Nodup := by
  -- within a table the keys differ, between tables the kinds
  refine List.pairwise_flatMap.2 ⟨fun t ht => ?_, p.edges.sorted.imp fun hlt => ?_⟩
  · refine List.pairwise_map.2 ?_
    refine (h.edges.consistent (NameMap.mem_entries_iff.1 ht)).nodup.imp fun hne heq => ?_
    exact hne (Prod.mk.inj heq).2
  · simp only [List.mem_map]
    rintro _ ⟨x, -, rfl⟩ _ ⟨y, -, rfl⟩ heq
    exact String.ne_of_lt hlt (Prod.mk.inj heq).1

theorem edgeNames_ascending (p : Partition) : (p.edgeNames.map (·.1)).Pairwise (· ≤ ·) := by
  refine List.pairwise_map.2 (List.pairwise_flatMap.2 ⟨fun t _ => ?_, ?_⟩)
  · exact List.pairwise_map.2 (List.pairwise_of_forall fun _ _ => String.le_refl _)
  · refine p.edges.sorted.imp fun hlt => ?_
    simp only [List.mem_map]
    rintro _ ⟨x, -, rfl⟩ _ ⟨y, -, rfl⟩
    exact String.not_lt.1 (String.lt_asymm hlt)

/-- The names of one kind are the keys of its table. -/
theorem filter_edgeNames (p : Partition) (kind : String) :
    (p.edgeNames.filter (·.1 = kind)).map (·.2) = (p.edgeTable kind).keys := by
  have hnames := p.edges.names_nodup
  rw [edgeNames, edgeTable, NameMap.get?]
  rw [NameMap.names] at hnames
  generalize p.edges.entries = l at hnames ⊢
  induction l with
  | nil => rfl
  | cons t rest ih =>
    obtain ⟨k, t⟩ := t
    rw [List.map_cons, List.nodup_cons] at hnames
    rw [List.flatMap_cons, List.filter_append, List.map_append, ih hnames.2, Bindings.get?_cons]
    by_cases hk : k = kind
    · subst hk
      rw [Bindings.get?_eq_none_iff.2 hnames.1]
      simp [List.filter_map, Function.comp_def]
    · simp [hk]

/-- **The tables list all edges** as a listing should. -/
theorem WellFormed.listsEdges_storedEdges (h : p.WellFormed) : p.ListsEdges p.storedEdges where
  mem_iff _ := h.mem_storedEdges_iff
  nodup := h.map_names_storedEdges ▸ h.edgeNames_nodup
  kinds := by
    have := edgeNames_ascending p
    rw [← h.map_names_storedEdges, List.map_map] at this
    exact this
  keys kind := by
    rw [← filter_edgeNames, ← h.map_names_storedEdges, List.filter_map, List.map_map]
    rfl

/-! ## The rows of a traversal -/

/-- Going through a list once is going through what is kept of it. -/
theorem forall₂_filter_filterMap {α β : Type} {R : α → β → Prop} {P : α → Prop}
    [DecidablePred P] {f : α → Option β} {l : List α}
    (h : ∀ a ∈ l, (¬ P a ∧ f a = none) ∨ P a ∧ ∃ b, f a = some b ∧ R a b) :
    List.Forall₂ R (l.filter fun a => decide (P a)) (l.filterMap f) := by
  induction l with
  | nil => exact .nil
  | cons a rest ih =>
    have hrest := ih fun b hb => h b (List.mem_cons_of_mem _ hb)
    rcases h a List.mem_cons_self with ⟨hP, hf⟩ | ⟨hP, b, hf, hR⟩
    · rw [List.filter_cons_of_neg (by simpa using hP), List.filterMap_cons_none hf]
      exact hrest
    · rw [List.filter_cons_of_pos (by simpa using hP), List.filterMap_cons_some hf]
      exact .cons hR hrest

/-- A traversal goes through the listing of all edges, kind by kind. -/
theorem WellFormed.traverse_eq (h : p.WellFormed) (r : NodeRef) (spec : TraversalSpec) :
    p.traverse r spec = p.storedEdges.filterMap fun e =>
      if spec.allowsEdgeKind e.kind = true then p.follow e r spec else none := by
  have hkind : ∀ t ∈ p.edges.entries, ∀ row ∈ t.2.rows, row.2.kind = t.1 :=
    fun t ht row hr => (h.naming_row ht hr).2.2
  rw [traverse, storedEdges, List.filterMap_flatMap]
  generalize p.edges.entries = l at hkind ⊢
  induction l with
  | nil => rfl
  | cons t rest ih =>
    have hrest := ih fun t' ht' => hkind t' (List.mem_cons_of_mem _ ht')
    have hrow : ∀ row ∈ t.2.rows, row.2.kind = t.1 := hkind t List.mem_cons_self
    rw [List.flatMap_cons, ← hrest, List.filterMap_map]
    -- a table that is passed over has only edges of a kind that is not allowed
    by_cases ha : spec.allowsEdgeKind t.1 = true
    · rw [List.filter_cons_of_pos (by simpa using ha), List.flatMap_cons]
      refine congrArg (· ++ _) (List.filterMap_congr fun row hr => ?_)
      simp [hrow row hr, ha]
    · rw [List.filter_cons_of_neg (by simpa using ha)]
      rw [List.filterMap_eq_nil_iff.2 fun row hr => by simp [hrow row hr, ha], List.nil_append]

/-- Exactly the edges that are followed get a row, in the order of the listing. -/
theorem WellFormed.forall₂_traverse (h : p.WellFormed) (r : NodeRef) (spec : TraversalSpec) :
    List.Forall₂ (p.IsRow r spec) (p.storedEdges.filter fun e => decide (e.Followed r spec))
      (p.traverse r spec) := by
  rw [h.traverse_eq]
  refine forall₂_filter_filterMap fun e he => ?_
  obtain ⟨key, kind, he⟩ := h.mem_storedEdges_iff.1 he
  by_cases ha : spec.allowsEdgeKind e.kind = true
  · rw [if_pos ha]
    rcases h.follow_spec he r spec with ⟨hno, hf⟩ | ⟨hyes, hf⟩
    · exact .inl ⟨fun hfol => hno hfol.2, hf⟩
    · exact .inr ⟨⟨ha, hyes⟩, hf⟩
  · exact .inl ⟨fun hfol => ha hfol.1, if_neg ha⟩

end Partition

/-! ## The main statement -/

/-- A usable partition name and a readable spec make a traversal succeed. -/
theorem Store.traverse_eq (s : Store) {partition text : String} {spec : TraversalSpec}
    (hp : isPartitionName partition = true) (hspec : TraversalSpec.parse text = .ok spec)
    (key kind : String) (allData : Bool) :
    s.traverse partition key kind text allData =
      .ok (if allData then
          (((s.partitionOrEmpty partition).traverse ⟨key, kind⟩ spec).map (·.1),
            ((s.partitionOrEmpty partition).traverse ⟨key, kind⟩ spec).map (·.2))
        else
          (((s.partitionOrEmpty partition).traverse ⟨key, kind⟩ spec).map
              (·.1.project namingAttributes),
            ((s.partitionOrEmpty partition).traverse ⟨key, kind⟩ spec).map
              (·.2.project namingAttributes))) := by
  have hcheck : checkPartition partition = .ok () := if_pos hp
  have hfound : ((s.partition? partition).map (·.traverse ⟨key, kind⟩ spec)).getD [] =
      (s.partitionOrEmpty partition).traverse ⟨key, kind⟩ spec := by
    rw [partitionOrEmpty]
    cases s.partition? partition <;> rfl
  simp only [Store.traverse, hspec, readPartition, hcheck, bind, Except.bind, hfound]
  cases allData <;> rfl

/-- A schedule that stores an edge whose second end lies at `p1`. -/
def knowsSchedule : List SessionStep :=
  [.begin "t",
    .stage "t" (.storeNode "main" (.ofKey "p1" "Person")),
    .stage "t" (.storeNode "main" (.ofKey "p2" "Person")),
    .stage "t" (.storeEdge "main" (.ofEnds "e" "Knows" ⟨"p2", "Person", "knower", false⟩
      ⟨"p1", "Person", "known", true⟩)),
    .commit "t"]

end PropertyGraph
