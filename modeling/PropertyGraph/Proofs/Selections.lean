import PropertyGraph.Proofs.Representation
import PropertyGraph.Proofs.Traversals

/-!
# Which edges a spec can select by name

A spec names the roles and the kinds of the edges to follow between colons. The names of kinds
never have a colon in them, but a role may be any text that is not empty. This module says which
stored edges are selected by the spec that is made of their own roles and kinds.

- `TraversalSpec.textOf`: the text of a spec. `parse_textOf`: it is read back if no component has a
  colon in it. `parse_textOf_of_colon`: else it is not readable at all.
- `TraversalSpec.parse_eq_ok_iff`: there are no other texts that are read.
  `TraversalSpec.notMem_of_parse`: no readable spec names a component with a colon.
- `Store.edges_selected`: **the main statement**.
- `Store.colon_role_unselected`: an edge that the spec made of its names does not select.
-/

namespace PropertyGraph

/-! ## The text of a spec -/

namespace TraversalSpec

/-- The text of the spec with given components. -/
def textOf (startRole edgeKind endRole endKind : String) : String :=
  startRole ++ ":" ++ edgeKind ++ ":" ++ endRole ++ ":" ++ endKind

/-- The spec with given components; an empty one matches everything. -/
def ofComponents (startRole edgeKind endRole endKind : String) : TraversalSpec :=
  ⟨component startRole, component edgeKind, component endRole, component endKind⟩

variable {startRole edgeKind endRole endKind text : String} {spec : TraversalSpec}

theorem textOf_eq : textOf startRole edgeKind endRole endKind =
    joinFields ':' [startRole, edgeKind, endRole, endKind] := by
  refine String.toList_inj.1 ?_
  simp [textOf, joinFields, joinFieldChars]

/-- Components without colons are read back. -/
theorem parse_textOf (h : ∀ part ∈ [startRole, edgeKind, endRole, endKind], ':' ∉ part.toList) :
    parse (textOf startRole edgeKind endRole endKind) =
      .ok (ofComponents startRole edgeKind endRole endKind) := by
  rw [parse, textOf_eq, fields_joinFields (List.cons_ne_nil _ _) h]
  rfl

/-- A text that is read has exactly three colons. -/
theorem parse_eq_error_of_count (h : text.toList.count ':' ≠ 3) :
    parse text = .error (.invalidSpec text) := by
  have hlength := length_fields ':' text
  rw [parse]
  split
  · next hfields =>
    rw [hfields] at hlength
    exact absurd (Nat.succ.inj hlength).symm h
  · rfl

/-- A colon in a component is one too many. -/
theorem parse_textOf_of_colon
    (h : ∃ part ∈ [startRole, edgeKind, endRole, endKind], ':' ∈ part.toList) :
    parse (textOf startRole edgeKind endRole endKind) =
      .error (.invalidSpec (textOf startRole edgeKind endRole endKind)) := by
  refine parse_eq_error_of_count ?_
  obtain ⟨part, hpart, hcolon⟩ := h
  have hpos : 0 < part.toList.count ':' := List.count_pos_iff.2 hcolon
  have hcount : (textOf startRole edgeKind endRole endKind).toList.count ':' =
      startRole.toList.count ':' + edgeKind.toList.count ':' + endRole.toList.count ':' +
        endKind.toList.count ':' + 3 := by
    simp [textOf]
    omega
  simp only [List.mem_cons, List.not_mem_nil, or_false] at hpart
  rcases hpart with rfl | rfl | rfl | rfl <;> omega

theorem eq_of_component {part name : String} (h : component part = some name) : part = name := by
  rw [component] at h
  split at h
  · cases h
  · exact Option.some.inj h

/-- **Exactly the texts with four components are read**, none of which has a colon in it. -/
theorem parse_eq_ok_iff : parse text = .ok spec ↔
    ∃ startRole edgeKind endRole endKind, text = textOf startRole edgeKind endRole endKind ∧
      (∀ part ∈ [startRole, edgeKind, endRole, endKind], ':' ∉ part.toList) ∧
      spec = ofComponents startRole edgeKind endRole endKind := by
  constructor
  · intro h
    rw [parse] at h
    split at h
    · next a b c d hfields =>
      cases h
      refine ⟨a, b, c, d, ?_, fun part hpart => ?_, rfl⟩
      · rw [textOf_eq, ← hfields, joinFields_fields]
      · rw [← hfields] at hpart
        exact notMem_of_mem_fields hpart
    · cases h
  · rintro ⟨a, b, c, d, rfl, hno, rfl⟩
    exact parse_textOf hno

/-- No readable spec names a role with a colon in it. -/
theorem notMem_of_parse (h : parse text = .ok spec) {role : String} (hcolon : ':' ∈ role.toList) :
    spec.startRole ≠ some role ∧ spec.endRole ≠ some role := by
  obtain ⟨a, b, c, d, -, hno, rfl⟩ := parse_eq_ok_iff.1 h
  have hrole : ∀ part ∈ [a, b, c, d], component part ≠ some role := by
    intro part hpart heq
    exact hno part hpart (eq_of_component heq ▸ hcolon)
  exact ⟨hrole a (by simp), hrole c (by simp)⟩

/-- A component allows the text that it is made of, and everything if it is made of nothing. -/
theorem matchesText_component (name : String) : matchesText (component name) name = true := by
  rw [component]
  split
  · rfl
  · exact decide_eq_true rfl

end TraversalSpec

/-! ## Selecting an edge by its own names -/

/-- An edge is followed from each of its ends by the spec made of its names. -/
theorem Edge.followed_ofComponents {e : Edge} {side : EndSide} {start far : EdgeEnd}
    (hs : e.endpoint side = .ok start) (hf : e.endpoint side.other = .ok far) :
    e.Followed ⟨start.key, start.kind⟩
      (.ofComponents start.role e.kind far.role far.kind) := by
  have hfar : (TraversalSpec.ofComponents start.role e.kind far.role far.kind).allowsEnd far.role
      far.kind = true := by
    rw [TraversalSpec.allowsEnd, Bool.and_eq_true]
    exact ⟨TraversalSpec.matchesText_component _, TraversalSpec.matchesText_component _⟩
  exact ⟨TraversalSpec.matchesText_component _, side, start, far, hs, hf, rfl, rfl,
    TraversalSpec.matchesText_component _, hfar⟩

/-- An edge that is followed has a row among those of the traversal. -/
theorem Partition.WellFormed.exists_row {p : Partition} (h : p.WellFormed) {key kind : String} {e : Edge}
    (he : p.edge? key kind = some e) {r : NodeRef} {spec : TraversalSpec} (hf : e.Followed r spec) :
    ∃ row ∈ p.traverse r spec, p.IsRow r spec e row := by
  rcases h.follow_spec he r spec with ⟨hno, -⟩ | ⟨-, row, hrow, hisrow⟩
  · exact absurd hf.2 hno
  · refine ⟨row, ?_, hisrow⟩
    rw [h.traverse_eq]
    refine List.mem_filterMap.2 ⟨e, h.mem_storedEdges_iff.2 ⟨key, kind, he⟩, ?_⟩
    rw [if_pos hf.1, hrow]

namespace Store

open TraversalSpec (textOf)

variable {s : Store} {partition key kind : String} {e : Edge}

theorem traverse_eq_error {text : String} {f : StoreFault} (h : TraversalSpec.parse text = .error f)
    (allData : Bool) : s.traverse partition key kind text allData = .error f := by
  rw [traverse, h]
  rfl

/-- A stored edge is of a usable kind. -/
theorem AllNamed.isKindName_of_edge (h : s.AllNamed) (hs : s.WellFormed)
    (he : (s.partitionOrEmpty partition).edge? key kind = some e) : isKindName e.kind = true := by
  obtain ⟨t, ht, -⟩ := lookUp_eq_some_iff.1 he
  rw [((hs partition).edges.own he).2]
  exact (h.partitionOrEmpty partition).edges.kind ht

/-- A traversal from a node is accepted and has a row for an edge, in full as well as by key and
kind. -/
def Selects (s : Store) (partition : String) (r : NodeRef) (text : String) (e : Edge) : Prop :=
  ∃ (spec : TraversalSpec) (rows : List (Node × Edge)), TraversalSpec.parse text = .ok spec ∧
    (∃ row ∈ rows, (s.partitionOrEmpty partition).IsRow r spec e row) ∧
    s.traverse partition r.key r.kind text true = .ok (rows.map (·.1), rows.map (·.2)) ∧
    s.traverse partition r.key r.kind text false =
      .ok (rows.map (·.1.project namingAttributes), rows.map (·.2.project namingAttributes))

/-! ## The main statement -/

/-- **Which edges a spec selects by name.** Take any reachable store, any edge that is stored in it
and any of its sides, and the spec made of the role at this side, the kind of the edge, and the role
and the kind at the opposite side. If neither role has a colon in it, a traversal by this spec from
the node at this side is accepted and has a row for the edge. If a role has a colon in it, the spec
is refused as unreadable, and no readable spec names the role. -/
theorem edges_selected (hs : s.Reachable)
    (he : (s.partitionOrEmpty partition).edge? key kind = some e) (side : EndSide) :
    ∃ start far, e.endpoint side = .ok start ∧ e.endpoint side.other = .ok far ∧
      (':' ∉ start.role.toList ∧ ':' ∉ far.role.toList →
        s.Selects partition ⟨start.key, start.kind⟩
          (textOf start.role e.kind far.role far.kind) e) ∧
      (':' ∈ start.role.toList ∨ ':' ∈ far.role.toList →
        ∀ allData, s.traverse partition start.key start.kind
            (textOf start.role e.kind far.role far.kind) allData =
          .error (.invalidSpec (textOf start.role e.kind far.role far.kind))) ∧
      ∀ role ∈ [start.role, far.role], ':' ∈ role.toList → ∀ text spec,
        TraversalSpec.parse text = .ok spec →
          spec.startRole ≠ some role ∧ spec.endRole ≠ some role := by
  have hp := hs.wellFormed partition
  obtain ⟨start, n, hstart, hn, -⟩ := hp.linked_nodes _ _ _ he side
  obtain ⟨far, m, hfar, hm, -⟩ := hp.linked_nodes _ _ _ he side.other
  have hname := (hs.allNamed.names_of_node hn).1
  have hkind : ':' ∉ e.kind.toList :=
    isKindName_notMem (by decide +kernel) (hs.allNamed.isKindName_of_edge hs.wellFormed he)
  have hfarKind : ':' ∉ far.kind.toList :=
    isKindName_notMem (by decide +kernel) (hs.allNamed.names_of_node hm).2.1
  refine ⟨start, far, hstart, hfar, fun hroles => ?_, fun hroles allData => ?_, ?_⟩
  · have hspec : TraversalSpec.parse (textOf start.role e.kind far.role far.kind) =
        .ok (.ofComponents start.role e.kind far.role far.kind) :=
      TraversalSpec.parse_textOf (by simp [hroles, hkind, hfarKind])
    exact ⟨_, _, hspec, hp.exists_row he (Edge.followed_ofComponents hstart hfar),
      s.traverse_eq hname hspec _ _ true, s.traverse_eq hname hspec _ _ false⟩
  · refine traverse_eq_error (TraversalSpec.parse_textOf_of_colon ?_) allData
    rcases hroles with h | h
    · exact ⟨start.role, by simp, h⟩
    · exact ⟨far.role, by simp, h⟩
  · intro role _ hcolon text spec hspec
    exact TraversalSpec.notMem_of_parse hspec hcolon

/-- The edge that `knowsSchedule` stores is selected from its second end by the names it has. -/
theorem edges_selected_knows :
    (Session.start.run knowsSchedule).store.Selects "main" ⟨"p1", "Person"⟩
      "known:Knows:knower:Person"
      (.ofEnds "e" "Knows" ⟨"p2", "Person", "knower", false⟩ ⟨"p1", "Person", "known", true⟩) := by
  have he : ((Session.start.run knowsSchedule).store.partitionOrEmpty "main").edge? "e" "Knows" =
      some (.ofEnds "e" "Knows" ⟨"p2", "Person", "knower", false⟩
        ⟨"p1", "Person", "known", true⟩) := rfl
  obtain ⟨start, far, hstart, hfar, hplain, -⟩ := edges_selected ⟨knowsSchedule, rfl⟩ he .second
  cases hstart
  cases hfar
  exact hplain ⟨by decide, by decide⟩

/-- A schedule that stores an edge with a colon in the role of its first end. -/
def colonSchedule : List SessionStep :=
  [.begin "t",
    .stage "t" (.storeNode "p" (.ofKey "a" "K")),
    .stage "t" (.storeNode "p" (.ofKey "b" "K")),
    .stage "t" (.storeEdge "p" (.ofEnds "e" "L" ⟨"a", "K", "x:y", false⟩ ⟨"b", "K", "z", false⟩)),
    .commit "t"]

/-- A stored edge that the spec made of its names does not select: it is not readable. -/
theorem colon_role_unselected :
    let s := (Session.start.run colonSchedule).store
    let e := Edge.ofEnds "e" "L" ⟨"a", "K", "x:y", false⟩ ⟨"b", "K", "z", false⟩
    s.Reachable ∧ (s.partitionOrEmpty "p").edge? "e" "L" = some e ∧
      e.endpoint .first = .ok ⟨"a", "K", "x:y", false⟩ ∧
      e.endpoint .second = .ok ⟨"b", "K", "z", false⟩ ∧
      s.traverse "p" "a" "K" "x:y:L:z:K" true = .error (.invalidSpec "x:y:L:z:K") ∧
      ¬ s.Selects "p" ⟨"a", "K"⟩ "x:y:L:z:K" e := by
  intro s e
  have hrefused : s.traverse "p" "a" "K" "x:y:L:z:K" true = .error (.invalidSpec "x:y:L:z:K") := rfl
  refine ⟨⟨colonSchedule, rfl⟩, rfl, rfl, rfl, hrefused, ?_⟩
  rintro ⟨spec, rows, -, -, hlisted, -⟩
  rw [hrefused] at hlisted
  cases hlisted

end Store

end PropertyGraph
