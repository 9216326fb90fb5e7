import PropertyGraph.Proofs.Listings
import PropertyGraph.Proofs.Writes

/-!
# Which nodes have an address

A stored node is asked for by a path with its partition, its kind and its key between slashes.
The names of partitions and kinds never have a slash in them, but a key may be any text that is
not empty. This module says for which nodes such a path is answered with the node, and that for
all others there is no path at all.

- `splitPath_joinFields`, `notMem_of_mem_splitPath`: segments without slashes are found again in
  the path that is made of them, and there are no other segments.
- `nodePath`: the path of a node. `Store.AllNamed.splitPath_nodePath`: its segments, if the key
  has no slash.
- `Endpoint.entity_of_get`: an answer with one object is an entity that is stored.
- `Endpoint.nodePath_addresses`: **the main statement**.
- `Endpoint.slashed_unaddressable`: a node that no path leads to.
-/

namespace PropertyGraph

/-! ## Segments -/

theorem splitPath_joinFields {parts : List String} (hne : parts ≠ [])
    (h : ∀ part ∈ parts, part ≠ "" ∧ '/' ∉ part.toList) :
    splitPath (joinFields '/' parts) = parts := by
  rw [splitPath, fields_joinFields hne fun part hpart => (h part hpart).2]
  exact List.filter_eq_self.2 fun part hpart => decide_eq_true (h part hpart).1

theorem notMem_of_mem_splitPath {path segment : String} (h : segment ∈ splitPath path) :
    '/' ∉ segment.toList :=
  notMem_of_mem_fields (List.mem_filter.1 h).1

theorem isPartitionName_notMem {s : String} (h : isPartitionName s = true) : '/' ∉ s.toList := by
  intro hmem
  have hslash : isAlphanumeric '/' = false := by decide +kernel
  rw [(isPartitionName_iff.1 h).2 '/' hmem] at hslash
  cases hslash

/-- The path of a node. -/
def nodePath (partition kind key : String) : String := partition ++ "/n/" ++ kind ++ "/" ++ key

theorem nodePath_eq (partition kind key : String) :
    nodePath partition kind key = joinFields '/' [partition, "n", kind, key] := by
  refine String.toList_inj.1 ?_
  simp [nodePath, joinFields, joinFieldChars]

/-! ## The path of a stored node -/

namespace Store

variable {s : Store} {partition key kind : String} {n : Node}

/-- The segments of the path of a stored node whose key has no slash. -/
theorem AllNamed.splitPath_nodePath (h : s.AllNamed)
    (hn : (s.partitionOrEmpty partition).node? key kind = some n) (hkey : '/' ∉ key.toList) :
    splitPath (nodePath partition kind key) = [partition, "n", kind, key] := by
  obtain ⟨hp, hk, hne⟩ := h.names_of_node hn
  rw [nodePath_eq]
  refine splitPath_joinFields (List.cons_ne_nil _ _) ?_
  simp only [List.forall_mem_cons]
  refine ⟨⟨(isPartitionName_iff.1 hp).1, isPartitionName_notMem hp⟩, by decide +kernel, ?_⟩
  exact ⟨⟨(isKindName_iff.1 hk).1, isKindName_notMem (by decide +kernel) hk⟩, ⟨hne, hkey⟩, List.forall_mem_nil _⟩

end Store

/-! ## Answers with one object -/

theorem Attributes.toJson_injective {a b : Attributes} (h : a.toJson = b.toJson) : a = b := by
  have hentries : a.entries = b.entries := Json.object.inj h
  rw [← NameMap.ofList_entries a, ← NameMap.ofList_entries b, hentries]

namespace Endpoint

variable {s : Store} {partition key kind : String} {n : Node} {segments : List String}

/-- A document with a total is no single object. -/
theorem entity_of_get {q : Query} {a : Attributes}
    (h : get s segments q = .ok (.document a.toJson none)) :
    ∃ p entity k x, resolve segments .read = .ok (.entity p entity k x) ∧
      fetchEntity s p entity k x = .ok (.document a.toJson none) := by
  obtain ⟨x, hx, h⟩ := bind_eq_ok_iff.1 h
  have hx := shape_eq_ok_iff.1 hx
  cases x with
  | partition p => cases h
  | entityList p entity =>
    cases entity with
    | edge => cases h
    | node =>
      obtain ⟨w, -, h⟩ := bind_eq_ok_iff.1 h
      obtain ⟨sources, -, h⟩ := bind_eq_ok_iff.1 h
      split at h
      · cases h
      · obtain ⟨rows, -, h⟩ := bind_eq_ok_iff.1 h
        cases h
  | kindList p entity kind =>
    cases entity with
    | edge => cases h
    | node =>
      obtain ⟨w, -, h⟩ := bind_eq_ok_iff.1 h
      obtain ⟨keys, -, h⟩ := bind_eq_ok_iff.1 h
      cases keys with
      | none => cases h
      | some keys =>
        obtain ⟨rows, -, h⟩ := bind_eq_ok_iff.1 h
        cases h
  | entity p entity k x => exact ⟨p, entity, k, x, hx, h⟩
  | traversal p k x spec =>
    obtain ⟨start, -, h⟩ := bind_eq_ok_iff.1 h
    cases start with
    | none => cases h
    | some n =>
      obtain ⟨⟨nodes, edges⟩, -, h⟩ := bind_eq_ok_iff.1 h
      obtain ⟨⟨nodes, edges⟩, -, h⟩ := bind_eq_ok_iff.1 h
      cases h

/-- Whatever sort of entity is asked for, its key is the one that its attributes have. -/
theorem key_of_fetchEntity (hs : s.Reachable) {entity : EntityType} {a : Attributes}
    (h : fetchEntity s partition entity kind key = .ok (.document a.toJson none)) :
    a.stringForm keyName = key := by
  rw [fetchEntity_eq] at h
  split at h
  · split at h
    · next found hfound =>
      have hbody : found.toJson = a.toJson := (Answer.document.inj (Except.ok.inj h)).1
      rw [← Attributes.toJson_injective hbody]
      exact (hs.wellFormed partition).key_of_attributes? hfound
    · cases h
  · cases h

/-! ## The main statement -/

/-- **Which nodes have an address.** Take any reachable store and any node that is stored in it. If
its key has no slash, the path of the node has it as its entity, and a read of this path answers
with the node, whatever the parameters. If the key has a slash, no path at all has the node as its
entity, and no read of any path answers with the node. -/
theorem nodePath_addresses (hs : s.Reachable)
    (hn : (s.partitionOrEmpty partition).node? key kind = some n) :
    ('/' ∉ key.toList →
      resolve (splitPath (nodePath partition kind key)) .read =
          .ok (.entity partition .node kind key) ∧
        ∀ q, get s (splitPath (nodePath partition kind key)) q =
          .ok (.document n.attributes.toJson none)) ∧
    ('/' ∈ key.toList → ∀ path,
      resolve (splitPath path) .read ≠ .ok (.entity partition .node kind key) ∧
        ∀ q, get s (splitPath path) q ≠ .ok (.document n.attributes.toJson none)) := by
  have hnames := hs.allNamed.names_of_node hn
  constructor
  · intro hkey
    rw [hs.allNamed.splitPath_nodePath hn hkey]
    have hresolve : resolve [partition, "n", kind, key] .read =
        .ok (.entity partition .node kind key) := rfl
    refine ⟨hresolve, fun q => ?_⟩
    have hfound : (s.partitionOrEmpty partition).attributes? .node key kind =
        some n.attributes := congrArg (Option.map Node.attributes) hn
    rw [get, shape_eq_ok_iff.2 hresolve]
    show fetchEntity s partition .node kind key = _
    rw [fetchEntity_eq, if_pos hnames.1, hfound]
  · intro hkey path
    have hsegment : ∀ p entity k x, resolve (splitPath path) .read = .ok (.entity p entity k x) →
        '/' ∉ x.toList := by
      intro p entity k x hx
      obtain ⟨hsegments, -⟩ := segments_of_resolve hx
      have hmem : x ∈ splitPath path := by
        rw [← hsegments]
        simp [RequestShape.segments]
      exact notMem_of_mem_splitPath hmem
    refine ⟨fun hx => hsegment _ _ _ _ hx hkey, fun q h => ?_⟩
    obtain ⟨p, entity, k, x, hx, hfetch⟩ := entity_of_get h
    have hown : n.key = key := ((hs.wellFormed partition).nodes.own hn).1
    have hkeys : x = key := (key_of_fetchEntity hs hfetch).symm.trans hown
    exact hsegment _ _ _ _ hx (hkeys ▸ hkey)

/-- A node with a plain key and one whose key has a slash. -/
def slashedSchedule : List SessionStep :=
  [.begin "t", .stage "t" (.storeNode "p" (.ofKey "a" "K")),
    .stage "t" (.storeNode "p" (.ofKey "a/b" "K")), .commit "t"]

/-- The plain node is read at its path, the other one at no path. -/
theorem nodePath_addresses_slashed :
    let s := (Session.start.run slashedSchedule).store
    (s.partitionOrEmpty "p").node? "a" "K" = some (.ofKey "a" "K") ∧
    (s.partitionOrEmpty "p").node? "a/b" "K" = some (.ofKey "a/b" "K") ∧
    get s (splitPath "p/n/K/a") ∅ =
      .ok (.document (Node.ofKey "a" "K").attributes.toJson none) ∧
    ∀ path q, get s (splitPath path) q ≠
      .ok (.document (Node.ofKey "a/b" "K").attributes.toJson none) := by
  have hs : (Session.start.run slashedSchedule).store.Reachable := ⟨slashedSchedule, rfl⟩
  have hplain : ((Session.start.run slashedSchedule).store.partitionOrEmpty "p").node? "a" "K" =
      some (.ofKey "a" "K") := rfl
  have hslashed : ((Session.start.run slashedSchedule).store.partitionOrEmpty "p").node? "a/b" "K" =
      some (.ofKey "a/b" "K") := rfl
  have hpath : nodePath "p" "K" "a" = "p/n/K/a" := by decide
  have hread := ((nodePath_addresses hs hplain).1 (by decide)).2 ∅
  rw [hpath] at hread
  exact ⟨hplain, hslashed, hread, fun path =>
    ((nodePath_addresses hs hslashed).2 (by decide) path).2⟩

/-- The path of a stored node that asks for something else: to follow edges from another node. -/
theorem slashed_unaddressable :
    let s := (Session.start.run slashedSchedule).store
    let path := nodePath "p" "K" "a/b"
    s.Reachable ∧
    (s.partitionOrEmpty "p").node? "a/b" "K" = some (.ofKey "a/b" "K") ∧
    resolve (splitPath path) .read = .ok (.traversal "p" "K" "a" "b") ∧
    get s (splitPath path) ∅ = .error (.fetchFailure (.invalidSpec "b")) := by
  have hsegments : splitPath (nodePath "p" "K" "a/b") = ["p", "n", "K", "a", "b"] := by decide
  refine ⟨⟨slashedSchedule, rfl⟩, rfl, ?_, ?_⟩
  · rw [hsegments]
    rfl
  · rw [hsegments]
    rfl

end Endpoint

end PropertyGraph
