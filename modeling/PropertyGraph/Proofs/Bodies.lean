import Mathlib.Data.List.Forall2
import PropertyGraph.Proofs.Entities
import PropertyGraph.Proofs.JsonText
import PropertyGraph.Request.Endpoint

/-!
# Bodies of requests and answers

A list of entities that is answered can be sent back as a body. It is decoded to the entities
that were listed, provided that their attributes have no numbers but integers and no brackets
deeper than a body can hold them. Attributes that came in a body are never deeper.

- `Attributes.Within`, `Attributes.FloatFree`: both conditions, attribute by attribute.
- `mapM_eq_ok_iff`: when a pass over a list succeeds, and with which results.
- `decodeBody_within`: **what a body can bring in**.
- `decodeBody_encodeList`, `decodeBody_encodeBatch`: **a listing is decoded to what it lists**,
  and an object with nodes and edges to these.
- `Endpoint.writeRequest_encodeList`, `Endpoint.writeRequest_encodeBatch`: writes with such
  bodies.
-/

namespace PropertyGraph

namespace Attributes

/-- The attributes can be read where so many brackets may be open at once in each. -/
def Within (depth : Nat) (a : Attributes) : Prop :=
  ∀ name v, a.get? name = some v → Json.Within depth v

/-- The attributes have no numbers but integers. -/
def FloatFree (a : Attributes) : Prop := ∀ name v, a.get? name = some v → v.FloatFree

variable {a b : Attributes} {depth : Nat}

/-- Of two values for an attribute the one laid on top counts, so both conditions carry over. -/
theorem Within.union (ha : a.Within depth) (hb : b.Within depth) :
    Attributes.Within depth (NameMap.union a b) := by
  intro name v hv
  rw [NameMap.get?_union] at hv
  rcases Option.or_eq_some_iff.1 hv with hv | ⟨-, hv⟩
  · exact hb name v hv
  · exact ha name v hv

theorem within_empty : Attributes.Within depth ∅ := by
  intro name v hv
  cases hv

theorem Within.insert (ha : a.Within depth) (name : String) {v : Json} (hv : Json.Within depth v) :
    Attributes.Within depth (NameMap.insert a name v) := by
  intro x w hw
  rw [NameMap.get?_insert] at hw
  split at hw
  · cases hw
    exact hv
  · exact ha x w hw

theorem floatFree_empty : Attributes.FloatFree ∅ := by
  intro name v hv
  cases hv

theorem FloatFree.insert (ha : a.FloatFree) (name : String) {v : Json} (hv : v.FloatFree) :
    Attributes.FloatFree (NameMap.insert a name v) := by
  intro x w hw
  rw [NameMap.get?_insert] at hw
  split at hw
  · cases hw
    exact hv
  · exact ha x w hw

theorem Within.mono {d e : Nat} (ha : a.Within d) (hde : d ≤ e) : a.Within e :=
  fun name v hv => (ha name v hv).mono hde

/-- An object of such attributes is read back wherever an object is accepted. -/
theorem readsBack_toJson {expected : Json.Expected} (hallows : expected.allowsObject = true)
    (hwithin : a.Within depth) (hfree : a.FloatFree) :
    Json.ReadsBack expected (depth + 1) a.toJson := by
  refine Json.readsBack_object hallows a.sorted fun m hm => ?_
  have hget : a.get? m.1 = some m.2 := NameMap.mem_entries_iff.1 hm
  exact Json.readsBack_value (hwithin m.1 m.2 hget) (hfree m.1 m.2 hget)

end Attributes

/-- An entity with a key and a kind and nothing else can be sent. -/
theorem Node.sendable_ofKey (key kind : String) (depth : Nat) :
    (Node.ofKey key kind).attributes.Within depth ∧ (Node.ofKey key kind).attributes.FloatFree :=
  ⟨(Attributes.within_empty.insert keyName (.string key)).insert kindName (.string kind),
    (Attributes.floatFree_empty.insert keyName (.string key)).insert kindName (.string kind)⟩

/-- What an edge says of an end can be sent as well as the rest. -/
theorem Edge.sendable_setEnd {e : Edge} {depth : Nat}
    (h : e.attributes.Within depth ∧ e.attributes.FloatFree) (side : EndSide) (d : EdgeEnd) :
    (e.setEnd side d).attributes.Within depth ∧ (e.setEnd side d).attributes.FloatFree :=
  ⟨(((h.1.insert _ (.string d.key)).insert _ (.string d.kind)).insert _ (.string d.role)).insert _
      (.bool d.cascading),
    (((h.2.insert _ (.string d.key)).insert _ (.string d.kind)).insert _ (.string d.role)).insert _
      (.bool d.cascading)⟩

theorem Edge.sendable_ofEnds (key kind : String) (first second : EdgeEnd) (depth : Nat) :
    (Edge.ofEnds key kind first second).attributes.Within depth ∧
      (Edge.ofEnds key kind first second).attributes.FloatFree :=
  sendable_setEnd (sendable_setEnd (Node.sendable_ofKey key kind depth) .first first) .second second

/-- How many brackets may be open at once in the attributes that a body brings in: a list and
the object of the entity are around them. -/
def entityDepth : Nat := Json.depthLimit - 2

/-! ## What a body can bring in -/

section Passes

variable {α β ε : Type} {R : α → β → Prop} {f : α → Except ε β} {l : List α} {bs : List β}

/-- What holds of all that the items of a list are related to holds of a list related to it. -/
theorem forall_mem_of_forall₂ {P : β → Prop} (hR : ∀ a ∈ l, ∀ b, R a b → P b)
    (h : List.Forall₂ R l bs) : ∀ b ∈ bs, P b := by
  induction h with
  | nil => exact List.forall_mem_nil _
  | cons hb _ ih =>
    obtain ⟨ha, hrest⟩ := List.forall_mem_cons.1 hR
    exact List.forall_mem_cons.2 ⟨ha _ hb, ih hrest⟩

theorem exists_forall₂_iff : (∃ bs, List.Forall₂ R l bs) ↔ ∀ a ∈ l, ∃ b, R a b := by
  induction l with
  | nil => simp
  | cons a rest ih =>
    simp only [List.forall₂_cons_left_iff, List.forall_mem_cons, ← ih]
    constructor
    · rintro ⟨_, b, bs, hb, hbs, rfl⟩
      exact ⟨⟨b, hb⟩, bs, hbs⟩
    · rintro ⟨⟨b, hb⟩, bs, hbs⟩
      exact ⟨b :: bs, b, bs, hb, hbs, rfl⟩

/-- A pass over a list gives the results of its items, one after another. -/
theorem mapM_eq_ok_iff : l.mapM f = .ok bs ↔ List.Forall₂ (fun a b => f a = .ok b) l bs := by
  induction l generalizing bs with
  | nil =>
    rw [List.forall₂_nil_left_iff]
    exact ⟨fun h => (Except.ok.inj h).symm, fun h => congrArg Except.ok h.symm⟩
  | cons a rest ih =>
    simp only [List.mapM_cons, bind_eq_ok_iff, ih, List.forall₂_cons_left_iff]
    constructor
    · rintro ⟨b, hb, bs', hbs', heq⟩
      exact ⟨b, bs', hb, hbs', (Except.ok.inj heq).symm⟩
    · rintro ⟨b, bs', hb, hbs', rfl⟩
      exact ⟨b, hb, bs', hbs', rfl⟩

/-- A pass over a list succeeds exactly if it does at each item. -/
theorem exists_mapM_eq_ok_iff : (∃ bs, l.mapM f = .ok bs) ↔ ∀ a ∈ l, ∃ b, f a = .ok b := by
  simp only [mapM_eq_ok_iff, exists_forall₂_iff]

end Passes

namespace Json

variable {depth : Nat} {v : Json} {a : Attributes} {maps : List Attributes}

theorem toMap_eq_ok_iff :
    v.toMap = .ok a ↔ ∃ members, v = .object members ∧ NameMap.ofList members = a := by
  cases v <;> simp [toMap]

theorem toMaps_eq_ok_iff : v.toMaps = .ok maps ↔
    ∃ items, v = .array items ∧ List.Forall₂ (fun item a => item.toMap = .ok a) items maps := by
  cases v <;> simp [toMaps, mapM_eq_ok_iff]

/-- The members of an object are one bracket less deep than the object. -/
theorem within_toMap (hv : Within (depth + 1) v) (h : v.toMap = .ok a) : a.Within depth := by
  obtain ⟨members, rfl, rfl⟩ := toMap_eq_ok_iff.1 h
  cases hv with
  | object _ hmembers =>
    intro name w hw
    exact hmembers (name, w) (NameMap.mem_of_mem_ofList (NameMap.mem_entries_iff.2 hw))

theorem within_toMaps (hv : Within (depth + 2) v) (h : v.toMaps = .ok maps) :
    ∀ a ∈ maps, a.Within depth := by
  obtain ⟨items, rfl, hresults⟩ := toMaps_eq_ok_iff.1 h
  cases hv with
  | array hitems =>
    exact forall_mem_of_forall₂ (fun w hw a ha => within_toMap (hitems w hw) ha) hresults

end Json

theorem Envelope.within_list {depth : Nat} {v : Option Json} {maps : List Attributes}
    (hv : ∀ w, v = some w → Json.Within (depth + 2) w) (h : Envelope.list v = .ok maps) :
    ∀ a ∈ maps, a.Within depth := by
  unfold Envelope.list at h
  split at h
  · cases h
    exact List.forall_mem_nil _
  · cases h
    exact List.forall_mem_nil _
  · next w _ => exact Json.within_toMaps (hv w rfl) h

theorem within_of_decodeEntities {entity : EntityType} {body : Bytes} {b : Batch}
    (h : decodeEntities entity body = .ok b) :
    (∀ n ∈ b.nodes, n.attributes.Within entityDepth) ∧
      ∀ e ∈ b.edges, e.attributes.Within entityDepth := by
  rw [decodeEntities] at h
  split at h
  · cases h
  · next v hread =>
    split at h
    · cases h
    · next maps hmaps =>
      have hwithin : ∀ a ∈ maps, a.Within entityDepth :=
        Json.within_toMaps (Json.within_of_read hread) hmaps
      cases h
      cases entity with
      | node => exact ⟨List.forall_mem_map.2 hwithin, List.forall_mem_nil _⟩
      | edge => exact ⟨List.forall_mem_nil _, List.forall_mem_map.2 hwithin⟩

/-- The two lists of an object stand inside of one more bracket than a list that is the whole
body. -/
theorem within_of_envelope {members : Attributes} {b : Batch}
    (hmembers : members.Within (entityDepth + 1)) (h : Envelope.batch members = .ok b) :
    (∀ n ∈ b.nodes, n.attributes.Within entityDepth) ∧
      ∀ e ∈ b.edges, e.attributes.Within entityDepth := by
  obtain ⟨nodes, hnodes, h⟩ := bind_eq_ok_iff.1 h
  obtain ⟨edges, hedges, h⟩ := bind_eq_ok_iff.1 h
  obtain ⟨_, -, h⟩ := bind_eq_ok_iff.1 h
  cases h
  have hlist : ∀ {name : String} {maps : List Attributes},
      Envelope.list (members.get? name) = .ok maps → ∀ a ∈ maps, a.Within entityDepth := by
    intro name maps hlist a ha
    have hinner : a.Within (entityDepth - 1) :=
      Envelope.within_list (fun w hw => hmembers name w hw) hlist a ha
    exact hinner.mono (Nat.sub_le _ _)
  exact ⟨List.forall_mem_map.2 (hlist hnodes), List.forall_mem_map.2 (hlist hedges)⟩

/-- **What a body can bring in**: the attributes of its nodes and edges are never deeper than
a list of them could be. -/
theorem decodeBody_within {target : BodyTarget} {body : Bytes} {b : Batch}
    (h : decodeBody target body = .ok b) :
    (∀ n ∈ b.nodes, n.attributes.Within entityDepth) ∧
      ∀ e ∈ b.edges, e.attributes.Within entityDepth := by
  cases target with
  | entities entity => exact within_of_decodeEntities h
  | graph =>
    rw [decodeBody, decodeEnvelope] at h
    split at h
    · cases h
    · next v hread =>
      split at h
      · cases h
      · next members hmembers =>
        have hwithin := Json.within_toMap (Json.within_of_read hread) hmembers
        exact within_of_envelope hwithin (mapError_eq_ok_iff.1 h)

/-! ## Listings as bodies -/

theorem Node.map_mk_attributes (nodes : List Node) :
    (nodes.map (·.attributes)).map Node.mk = nodes := by
  rw [List.map_map]
  exact List.map_id nodes

theorem Edge.map_mk_attributes (edges : List Edge) :
    (edges.map (·.attributes)).map Edge.mk = edges := by
  rw [List.map_map]
  exact List.map_id edges

theorem toMaps_encodeList (maps : List Attributes) : (encodeList maps).toMaps = .ok maps := by
  have hmap : ∀ a ∈ maps, a.toJson.toMap = .ok a := fun a _ =>
    congrArg Except.ok (NameMap.ofList_entries a)
  exact mapM_eq_ok_iff.2 (List.forall₂_map_left_iff.2 (List.forall₂_same.2 hmap))

/-- **A listing is decoded to what it lists.** -/
theorem decodeBody_encodeList (entity : EntityType) (maps : List Attributes)
    (h : ∀ a ∈ maps, a.Within entityDepth ∧ a.FloatFree) :
    decodeBody (.entities entity) (Utf8.encode (encodeList maps).text) =
      .ok (.ofEntities entity maps) := by
  have hback : Json.ReadsBack .maps (entityDepth + 2) (encodeList maps) := by
    refine Json.readsBack_array rfl fun v hv => ?_
    obtain ⟨a, ha, rfl⟩ := List.mem_map.1 hv
    exact Attributes.readsBack_toJson rfl (h a ha).1 (h a ha).2
  rw [decodeBody, decodeEntities, Json.read_text hback]
  simp only [toMaps_encodeList]

/-- The object with the nodes and edges of a batch. -/
def encodeBatch (b : Batch) : Json :=
  .object [(Envelope.edgesName, encodeList (b.edges.map (·.attributes))),
    (Envelope.nodesName, encodeList (b.nodes.map (·.attributes)))]

/-- **An object with nodes and edges is decoded to what it holds.** The object takes one more
bracket than a list would. -/
theorem decodeBody_encodeBatch (b : Batch)
    (hnodes : ∀ n ∈ b.nodes, n.attributes.Within (entityDepth - 1) ∧ n.attributes.FloatFree)
    (hedges : ∀ e ∈ b.edges, e.attributes.Within (entityDepth - 1) ∧ e.attributes.FloatFree) :
    decodeBody .graph (Utf8.encode (encodeBatch b).text) = .ok b := by
  have hlist : ∀ maps : List Attributes,
      (∀ a ∈ maps, a.Within (entityDepth - 1) ∧ a.FloatFree) →
      Json.ReadsBack .value (entityDepth + 1) (encodeList maps) := by
    intro maps h
    refine Json.readsBack_array rfl fun v hv => ?_
    obtain ⟨a, ha, rfl⟩ := List.mem_map.1 hv
    exact Attributes.readsBack_toJson rfl (h a ha).1 (h a ha).2
  have hsorted : [(Envelope.edgesName, encodeList (b.edges.map (·.attributes))),
      (Envelope.nodesName, encodeList (b.nodes.map (·.attributes)))].Pairwise
        fun a b => a.1 < b.1 := by
    have hnames : Envelope.edgesName < Envelope.nodesName := by decide
    exact List.pairwise_pair.2 hnames
  have hback : Json.ReadsBack .map (entityDepth + 2) (encodeBatch b) := by
    refine Json.readsBack_object rfl hsorted fun m hm => ?_
    rcases List.mem_cons.1 hm with rfl | hm
    · exact hlist _ (List.forall_mem_map.2 hedges)
    · obtain rfl := List.mem_singleton.1 hm
      exact hlist _ (List.forall_mem_map.2 hnodes)
  have hmembers : NameMap.ofList [(Envelope.edgesName, encodeList (b.edges.map (·.attributes))),
      (Envelope.nodesName, encodeList (b.nodes.map (·.attributes)))] = ⟨_, hsorted⟩ :=
    NameMap.ofList_entries ⟨_, hsorted⟩
  have hbatch : Envelope.batch ⟨_, hsorted⟩ = .ok b := by
    have hof : ∀ maps, Envelope.list (some (encodeList maps)) = .ok maps := toMaps_encodeList
    refine bind_eq_ok_iff.2 ⟨_, hof _, bind_eq_ok_iff.2 ⟨_, hof _, ?_⟩⟩
    show Except.ok (⟨_, _⟩ : Batch) = .ok b
    rw [Node.map_mk_attributes, Edge.map_mk_attributes]
  rw [decodeBody, decodeEnvelope, Json.read_text hback]
  show (Envelope.batch (NameMap.ofList _)).mapError _ = _
  rw [hmembers, hbatch]
  rfl

namespace Endpoint

/-- A write whose body is an object with nodes and edges is about these. -/
theorem writeRequest_encodeBatch (partition : String) {b : Batch}
    (hnodes : ∀ n ∈ b.nodes, n.attributes.Within (entityDepth - 1) ∧ n.attributes.FloatFree)
    (hedges : ∀ e ∈ b.edges, e.attributes.Within (entityDepth - 1) ∧ e.attributes.FloatFree) :
    writeRequest [partition] (Utf8.encode (encodeBatch b).text) = .ok (partition, b) := by
  have hshape : shape [partition] .write = .ok (.partition partition) := rfl
  rw [writeRequest, hshape]
  show decode .graph _ >>= _ = _
  rw [decode, decodeBody_encodeBatch b hnodes hedges]
  rfl

/-- A write of nodes whose body is a listing is about the nodes that it lists. -/
theorem writeRequest_encodeList (partition : String) {nodes : List Node}
    (h : ∀ n ∈ nodes, n.attributes.Within entityDepth ∧ n.attributes.FloatFree) :
    writeRequest [partition, "n"]
        (Utf8.encode (encodeList (nodes.map (·.attributes))).text) =
      .ok (partition, ⟨nodes, []⟩) := by
  have hbody := decodeBody_encodeList .node (nodes.map (·.attributes)) fun a ha => by
    obtain ⟨n, hn, rfl⟩ := List.mem_map.1 ha
    exact h n hn
  have hnodes : Batch.ofEntities .node (nodes.map (·.attributes)) = ⟨nodes, []⟩ := by
    rw [Batch.ofEntities, Node.map_mk_attributes]
  have hshape : shape [partition, "n"] .write = .ok (.entityList partition .node) := rfl
  rw [writeRequest, hshape]
  show decode _ _ >>= _ = _
  rw [decode, hbody, hnodes]
  rfl

end Endpoint

end PropertyGraph
