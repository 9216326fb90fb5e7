import PropertyGraph.Proofs.Bodies

/-!
# Which bodies are accepted

A list of entities is read by a reader that expects objects and refuses the first item that is
none. An object with nodes and edges is read as a value, and its members are looked at afterwards.
This module shows that both accept what a reader of any value finds in a text, if it has the right
shape, and nothing else.

- `Json.reads_map_iff`, `Json.reads_maps_iff`: **a reader that expects something finds what the
  reader of any value finds**, if it is as expected. `Json.read_map_iff`, `Json.read_maps_iff`: the
  same for whole texts.
- `Json.HasMembers`: the members of an object as they stand in a text, with duplicates.
  `Json.lastMember?`: the value that counts for a name.
- `Envelope.batch_eq_ok_iff`: which objects have nodes and edges, and which these are.
- `BodyTarget.Accepts`, `BodyTarget.Describes`: the grammar of bodies and what they say.
- `Endpoint.decode_exact`: **the main statement**.
-/

namespace PropertyGraph

namespace Json

/-! ## Readers that expect something -/

/-- A value that is an object. -/
def IsObject (v : Json) : Prop := ∃ members, v = .object members

/-- A value that is a list of objects and of nothing else. -/
def IsObjectList (v : Json) : Prop := ∃ items, v = .array items ∧ ∀ item ∈ items, item.IsObject

variable {expected : Expected} {depth : Nat} {first : Bool} {s rest : Bytes} {v : Json}
  {items acc : List Json}

theorem not_isObject_of_readScalar {b : UInt8} {t : Bytes} (h : readScalar b t = .ok (v, rest)) :
    ¬ v.IsObject ∧ ¬ v.IsObjectList := by
  -- what is found with no brackets left to open is neither an object nor a list
  have hflat : Within 0 v := within_of_readScalar h
  constructor
  · rintro ⟨members, rfl⟩
    cases hflat
  · rintro ⟨items, rfl, -⟩
    cases hflat

/-- **A reader that expects an object** finds what the reader of any value finds, if it is one. -/
theorem reads_map_iff :
    Reads .map depth s v rest ↔ Reads .value depth s v rest ∧ v.IsObject := by
  constructor
  · intro h
    obtain ⟨b, t, hs, h⟩ := reads_iff.1 h
    rcases h with ⟨-, hallows, -⟩ | ⟨hb, -, d, members, hd, hv, hmembers⟩ | ⟨-, -, hexpected, -⟩
    · cases hallows
    · exact ⟨reads_iff.2 ⟨b, t, hs, .inr (.inl ⟨hb, rfl, d, members, hd, hv, hmembers⟩)⟩, _, hv⟩
    · cases hexpected
  · rintro ⟨h, hobject⟩
    obtain ⟨b, t, hs, h⟩ := reads_iff.1 h
    rcases h with ⟨-, -, d, items, -, rfl, -⟩ | ⟨hb, -, hmembers⟩ | ⟨-, -, -, hscalar⟩
    · obtain ⟨members, hv⟩ := hobject
      cases hv
    · exact reads_iff.2 ⟨b, t, hs, .inr (.inl ⟨hb, rfl, hmembers⟩)⟩
    · exact absurd hobject (not_isObject_of_readScalar hscalar).1

/-- The items that a reader holds are among those that it finds. -/
theorem mem_of_readsItems (h : ReadsItems expected depth first acc s items rest) :
    ∀ v ∈ acc, v ∈ items := by
  induction hlen : s.length using Nat.strongRecOn generalizing s first acc with
  | ind k ih =>
    subst hlen
    rcases readsItems_iff.1 h with ⟨-, rfl⟩ | ⟨start, v, mid, hn, hv, hitems⟩
    · exact fun v hv => List.mem_reverse.2 hv
    · intro w hw
      exact ih mid.length (hv.length_lt_of_nextItem hn) hitems rfl w (List.mem_cons_of_mem v hw)

/-- If a reader finds what the reader of any value finds, provided that it has a property, it finds
the items of a list that all have it. -/
theorem readsItems_iff_forall {P : Json → Prop}
    (hvalue : ∀ s v rest, Reads expected depth s v rest ↔ Reads .value depth s v rest ∧ P v)
    (hacc : ∀ v ∈ acc, P v) :
    ReadsItems expected depth first acc s items rest ↔
      ReadsItems .value depth first acc s items rest ∧ ∀ v ∈ items, P v := by
  induction hlen : s.length using Nat.strongRecOn generalizing s first acc with
  | ind k ih =>
    subst hlen
    constructor
    · intro h
      rcases readsItems_iff.1 h with ⟨hn, rfl⟩ | ⟨start, v, mid, hn, hv, hitems⟩
      · exact ⟨readsItems_iff.2 (.inl ⟨hn, rfl⟩), fun v hv => hacc v (List.mem_reverse.1 hv)⟩
      · obtain ⟨hany, hP⟩ := (hvalue start v mid).1 hv
        obtain ⟨hanyItems, hall⟩ := (ih mid.length (hv.length_lt_of_nextItem hn)
          (List.forall_mem_cons.2 ⟨hP, hacc⟩) rfl).1 hitems
        exact ⟨readsItems_iff.2 (.inr ⟨start, v, mid, hn, hany, hanyItems⟩), hall⟩
    · rintro ⟨h, hall⟩
      rcases readsItems_iff.1 h with ⟨hn, rfl⟩ | ⟨start, v, mid, hn, hv, hitems⟩
      · exact readsItems_iff.2 (.inl ⟨hn, rfl⟩)
      · -- an item that was read is among all items, so it has the property
        have hP : P v := hall v (mem_of_readsItems hitems v List.mem_cons_self)
        have hrest := (ih mid.length (hv.length_lt_of_nextItem hn)
          (List.forall_mem_cons.2 ⟨hP, hacc⟩) rfl).2 ⟨hitems, hall⟩
        exact readsItems_iff.2 (.inr ⟨start, v, mid, hn, (hvalue start v mid).2 ⟨hv, hP⟩, hrest⟩)

/-- **A reader that expects a list of objects** finds what the reader of any value finds, if it is
one. -/
theorem reads_maps_iff :
    Reads .maps depth s v rest ↔ Reads .value depth s v rest ∧ v.IsObjectList := by
  have hitems_iff : ∀ {d t items}, ReadsItems .map d true [] t items rest ↔
      ReadsItems .value d true [] t items rest ∧ ∀ item ∈ items, item.IsObject :=
    readsItems_iff_forall (fun _ _ _ => reads_map_iff) (List.forall_mem_nil _)
  constructor
  · intro h
    obtain ⟨b, t, hs, h⟩ := reads_iff.1 h
    rcases h with ⟨hb, -, d, items, hd, hv, hitems⟩ | ⟨-, hallows, -⟩ | ⟨-, -, hexpected, -⟩
    · obtain ⟨hany, hobjects⟩ := hitems_iff.1 hitems
      exact ⟨reads_iff.2 ⟨b, t, hs, .inl ⟨hb, rfl, d, items, hd, hv, hany⟩⟩, items, hv, hobjects⟩
    · cases hallows
    · cases hexpected
  · rintro ⟨h, hlist⟩
    obtain ⟨b, t, hs, h⟩ := reads_iff.1 h
    rcases h with ⟨hb, -, d, items, hd, rfl, hitems⟩ | ⟨-, -, d, members, -, rfl, -⟩ |
        ⟨-, -, -, hscalar⟩
    · obtain ⟨_, heq, hobjects⟩ := hlist
      cases heq
      exact reads_iff.2
        ⟨b, t, hs, .inl ⟨hb, rfl, d, items, hd, rfl, hitems_iff.2 ⟨hitems, hobjects⟩⟩⟩
    · obtain ⟨_, heq, -⟩ := hlist
      cases heq
    · exact absurd hlist (not_isObject_of_readScalar hscalar).2

/-! ## Whole texts -/

theorem read_map_iff : read .map s = .ok v ↔ read .value s = .ok v ∧ v.IsObject := by
  simp only [read_eq_ok_iff, reads_map_iff]
  constructor
  · rintro ⟨rest, ⟨hany, hobject⟩, hblank⟩
    exact ⟨⟨rest, hany, hblank⟩, hobject⟩
  · rintro ⟨⟨rest, hany, hblank⟩, hobject⟩
    exact ⟨rest, ⟨hany, hobject⟩, hblank⟩

theorem read_maps_iff : read .maps s = .ok v ↔ read .value s = .ok v ∧ v.IsObjectList := by
  simp only [read_eq_ok_iff, reads_maps_iff]
  constructor
  · rintro ⟨rest, ⟨hany, hlist⟩, hblank⟩
    exact ⟨⟨rest, hany, hblank⟩, hlist⟩
  · rintro ⟨⟨rest, hany, hblank⟩, hlist⟩
    exact ⟨rest, ⟨hany, hlist⟩, hblank⟩

/-! ## Members as they stand in a text -/

/-- The reader of any value accepts a text as an object, and finds these members between its braces:
in the order of the text, and all of those with one name. -/
structure HasMembers (body : Bytes) (members : Bindings Json) : Prop where
  accepted : read .value body = .ok (ofBindings members)
  listed : ∃ t rest, skipBlanks body = 0x7B :: t ∧
    ReadsMembers (depthLimit - 1) true [] t members rest

/-- The last value that members have for a name. -/
def lastMember? (members : Bindings Json) (name : String) : Option Json :=
  Bindings.get? name members.reverse

variable {members members' : Bindings Json} {body : Bytes}

/-- Every object that is accepted has its members in some order. -/
theorem exists_hasMembers (h : read .value body = .ok v) (hobject : v.IsObject) :
    ∃ members, HasMembers body members := by
  obtain ⟨rest, hread, hblank⟩ := read_eq_ok_iff.1 h
  obtain ⟨b, t, hs, hcases⟩ := reads_iff.1 hread
  rcases hcases with ⟨-, -, d, items, -, rfl, -⟩ | ⟨rfl, -, d, members, hd, rfl, hmembers⟩ |
      ⟨-, -, -, hscalar⟩
  · obtain ⟨_, heq⟩ := hobject
    cases heq
  · obtain rfl : depthLimit - 1 = d := by rw [hd, Nat.add_sub_cancel]
    exact ⟨members, h, t, rest, hs, hmembers⟩
  · exact absurd hobject (not_isObject_of_readScalar hscalar).1

theorem HasMembers.unique (h : HasMembers body members) (h' : HasMembers body members') :
    members = members' := by
  obtain ⟨t, _, ht, r, hr, -⟩ := h.listed
  obtain ⟨t', _, ht', r', hr', -⟩ := h'.listed
  cases ht.symm.trans ht'
  cases hr.symm.trans hr'
  rfl

/-- Of the members of an object the last ones count. -/
theorem toMap_ofBindings (members : Bindings Json) :
    (ofBindings members).toMap = .ok (NameMap.ofList members) :=
  congrArg Except.ok (NameMap.ofList_entries _)

/-! ## Values as attributes -/

variable {maps : List Attributes}

/-- A value that was read is the object of the attributes that it is taken for. -/
theorem eq_toJson_of_toMap {a : Attributes} (hv : Within depth v) (h : v.toMap = .ok a) :
    v = a.toJson := by
  obtain ⟨members, rfl, rfl⟩ := toMap_eq_ok_iff.1 h
  cases hv with
  | object hsorted _ => exact (ofBindings_of_sorted hsorted).symm

/-- A value that was read is the list of the attributes that it is taken for. -/
theorem toMaps_eq_ok_iff_of_within (hv : Within depth v) :
    v.toMaps = .ok maps ↔ v = encodeList maps := by
  constructor
  · intro h
    obtain ⟨items, rfl, hresults⟩ := toMaps_eq_ok_iff.1 h
    cases hv with
    | array hitems =>
      have hpairs := (List.forall₂_and_left _ _).2 ⟨hitems, hresults⟩
      have hsame : List.Forall₂ (· = ·) items (maps.map Attributes.toJson) :=
        List.forall₂_map_right_iff.2 (hpairs.imp fun _ _ ⟨hw, ha⟩ => eq_toJson_of_toMap hw ha)
      rw [List.forall₂_eq_eq_eq] at hsame
      exact congrArg Json.array hsame
  · rintro rfl
    exact toMaps_encodeList maps

theorem exists_toMap_iff : (∃ a, v.toMap = .ok a) ↔ v.IsObject := by
  simp only [toMap_eq_ok_iff, IsObject]
  constructor
  · rintro ⟨a, members, hv, -⟩
    exact ⟨members, hv⟩
  · rintro ⟨members, hv⟩
    exact ⟨_, members, hv, rfl⟩

theorem exists_toMaps_iff : (∃ maps, v.toMaps = .ok maps) ↔ v.IsObjectList := by
  simp only [toMaps_eq_ok_iff, IsObjectList, ← exists_toMap_iff, ← exists_forall₂_iff]
  constructor
  · rintro ⟨maps, items, hv, hresults⟩
    exact ⟨items, hv, maps, hresults⟩
  · rintro ⟨items, hv, maps, hresults⟩
    exact ⟨maps, items, hv, hresults⟩

end Json

/-! ## Objects with nodes and edges -/

namespace Envelope

/-- A member lists the entities with these attributes: none if it is absent or null, and else those
of its list. -/
def Lists (v : Option Json) (maps : List Attributes) : Prop :=
  (v = none ∨ v = some .null) ∧ maps = [] ∨ v = some (encodeList maps)

variable {v : Option Json} {maps : List Attributes} {members : Attributes} {depth : Nat} {b : Batch}

theorem list_eq_ok_iff (hv : ∀ w, v = some w → Json.Within depth w) :
    list v = .ok maps ↔ Lists v maps := by
  unfold list
  split
  · simp [Lists, eq_comm]
  · simp [Lists, encodeList, eq_comm]
  · next w hnull =>
    have hne : w ≠ .null := hnull
    simp [Lists, hne, Json.toMaps_eq_ok_iff_of_within (hv w rfl)]

/-- A member lists something if it is absent, null or a list of objects. -/
theorem exists_list_iff : (∃ maps, list v = .ok maps) ↔
    ∀ w, v = some w → w = .null ∨ w.IsObjectList := by
  unfold list
  split
  · simp
  · simp
  · next w hnull =>
    have hne : w ≠ .null := hnull
    simp [Json.exists_toMaps_iff, hne]

theorem mem_others_iff {w : Json} :
    w ∈ others members ↔ ∃ name, members.get? name = some w ∧ name ≠ nodesName ∧
      name ≠ edgesName := by
  simp [others, NameMap.mem_entries_iff]

/-- **Which objects have nodes and edges**: those whose members are null or lists of objects. The
nodes and the edges are what two of the members list. -/
theorem batch_eq_ok_iff (hm : members.Within depth) :
    batch members = .ok b ↔
      (∀ name w, members.get? name = some w → w = .null ∨ w.IsObjectList) ∧
        Lists (members.get? nodesName) (b.nodes.map (·.attributes)) ∧
        Lists (members.get? edgesName) (b.edges.map (·.attributes)) := by
  constructor
  · intro h
    obtain ⟨nodes, hnodes, h⟩ := bind_eq_ok_iff.1 h
    obtain ⟨edges, hedges, h⟩ := bind_eq_ok_iff.1 h
    obtain ⟨rest, hrest, h⟩ := bind_eq_ok_iff.1 h
    cases h
    refine ⟨fun name w hw => ?_, ?_, ?_⟩
    · by_cases hn : name = nodesName
      · exact exists_list_iff.1 ⟨nodes, hnodes⟩ w (hn ▸ hw)
      · by_cases he : name = edgesName
        · exact exists_list_iff.1 ⟨edges, hedges⟩ w (he ▸ hw)
        · have hother := exists_mapM_eq_ok_iff.1 ⟨rest, hrest⟩ w (mem_others_iff.2 ⟨name, hw, hn, he⟩)
          exact exists_list_iff.1 hother w rfl
    · simpa [Function.comp_def] using (list_eq_ok_iff (hm nodesName)).1 hnodes
    · simpa [Function.comp_def] using (list_eq_ok_iff (hm edgesName)).1 hedges
  · rintro ⟨hshape, hnodes, hedges⟩
    have hrest : ∃ rest, (others members).mapM (fun w => list (some w)) = .ok rest := by
      refine exists_mapM_eq_ok_iff.2 fun w hw => exists_list_iff.2 ?_
      intro w' heq
      cases heq
      obtain ⟨name, hget, -⟩ := mem_others_iff.1 hw
      exact hshape name w hget
    obtain ⟨rest, hrest⟩ := hrest
    refine bind_eq_ok_iff.2 ⟨_, (list_eq_ok_iff (hm nodesName)).2 hnodes, bind_eq_ok_iff.2
      ⟨_, (list_eq_ok_iff (hm edgesName)).2 hedges, bind_eq_ok_iff.2 ⟨rest, hrest, ?_⟩⟩⟩
    show Except.ok (⟨_, _⟩ : Batch) = .ok b
    rw [Node.map_mk_attributes, Edge.map_mk_attributes]

/-- An object of the right shape has nodes and edges. -/
theorem exists_batch (hm : members.Within depth)
    (hshape : ∀ name w, members.get? name = some w → w = .null ∨ w.IsObjectList) :
    ∃ b, batch members = .ok b := by
  obtain ⟨nodes, hnodes⟩ := exists_list_iff.2 (hshape nodesName)
  obtain ⟨edges, hedges⟩ := exists_list_iff.2 (hshape edgesName)
  refine ⟨⟨nodes.map Node.mk, edges.map Edge.mk⟩, (batch_eq_ok_iff hm).2 ⟨hshape, ?_, ?_⟩⟩
  · simpa [Function.comp_def] using (list_eq_ok_iff (hm nodesName)).1 hnodes
  · simpa [Function.comp_def] using (list_eq_ok_iff (hm edgesName)).1 hedges

end Envelope

/-! ## The grammar of bodies -/

/-- A body is accepted as a list of entities if it is the text of a list of objects, and as an
object with nodes and edges if it is the text of an object in which the last value for each name is
null or a list of objects. -/
def BodyTarget.Accepts : BodyTarget → Bytes → Prop
  | .entities _, body => ∃ v, Json.read .value body = .ok v ∧ v.IsObjectList
  | .graph, body => ∃ members, Json.HasMembers body members ∧
      ∀ name v, Json.lastMember? members name = some v → v = .null ∨ v.IsObjectList

/-- What an accepted body says: the entities are the objects of the list, in order and of the sort
that is expected; or the nodes and the edges are those that two members list. -/
def BodyTarget.Describes : BodyTarget → Bytes → Batch → Prop
  | .entities entity, body, b =>
    ∃ maps, Json.read .value body = .ok (encodeList maps) ∧ b = .ofEntities entity maps
  | .graph, body, b => ∃ members, Json.HasMembers body members ∧
      Envelope.Lists (Json.lastMember? members Envelope.nodesName) (b.nodes.map (·.attributes)) ∧
      Envelope.Lists (Json.lastMember? members Envelope.edgesName) (b.edges.map (·.attributes))

section Bodies

variable {body : Bytes} {b : Batch} {members : Bindings Json}

theorem decodeEntities_eq_ok_iff {entity : EntityType} :
    decodeEntities entity body = .ok b ↔ (BodyTarget.entities entity).Describes body b := by
  unfold decodeEntities
  constructor
  · intro h
    split at h
    · cases h
    · next v hread =>
      split at h
      · cases h
      · next maps hmaps =>
        cases h
        have hv := (Json.toMaps_eq_ok_iff_of_within (Json.within_of_read hread)).1 hmaps
        exact ⟨maps, hv ▸ (Json.read_maps_iff.1 hread).1, rfl⟩
  · rintro ⟨maps, hread, rfl⟩
    have hmaps := toMaps_encodeList maps
    rw [Json.read_maps_iff.2 ⟨hread, Json.exists_toMaps_iff.1 ⟨maps, hmaps⟩⟩]
    simp only [hmaps]

/-- The last members of an object are what is looked at. -/
theorem decodeEnvelope_of_members (h : Json.HasMembers body members) :
    decodeEnvelope body = (Envelope.batch (NameMap.ofList members)).mapError .member := by
  unfold decodeEnvelope
  rw [Json.read_map_iff.2 ⟨h.accepted, _, rfl⟩]
  simp only [Json.toMap_ofBindings]

theorem Json.HasMembers.within (h : Json.HasMembers body members) :
    Attributes.Within (depthLimit - 1) (NameMap.ofList members) :=
  Json.within_toMap (Json.within_of_read h.accepted) (Json.toMap_ofBindings members)

theorem decodeEnvelope_eq_ok_iff : decodeEnvelope body = .ok b ↔
    BodyTarget.graph.Accepts body ∧ BodyTarget.graph.Describes body b := by
  constructor
  · intro h
    have hread : ∃ v, Json.read .map body = .ok v := by
      unfold decodeEnvelope at h
      split at h
      · cases h
      · next v hread => exact ⟨v, hread⟩
    obtain ⟨v, hread⟩ := hread
    obtain ⟨hany, hobject⟩ := Json.read_map_iff.1 hread
    obtain ⟨members, hmembers⟩ := Json.exists_hasMembers hany hobject
    rw [decodeEnvelope_of_members hmembers, mapError_eq_ok_iff,
      Envelope.batch_eq_ok_iff hmembers.within] at h
    simp only [NameMap.get?_ofList] at h
    obtain ⟨hshape, hnodes, hedges⟩ := h
    exact ⟨⟨members, hmembers, hshape⟩, members, hmembers, hnodes, hedges⟩
  · rintro ⟨⟨members, hmembers, hshape⟩, members', hmembers', hnodes, hedges⟩
    cases hmembers.unique hmembers'
    rw [decodeEnvelope_of_members hmembers, mapError_eq_ok_iff,
      Envelope.batch_eq_ok_iff hmembers.within]
    simp only [NameMap.get?_ofList]
    exact ⟨hshape, hnodes, hedges⟩

theorem exists_decodeEnvelope_iff :
    (∃ b, decodeEnvelope body = .ok b) ↔ BodyTarget.graph.Accepts body := by
  constructor
  · rintro ⟨b, h⟩
    exact (decodeEnvelope_eq_ok_iff.1 h).1
  · rintro ⟨members, hmembers, hshape⟩
    have hlast : ∀ name w, (NameMap.ofList members).get? name = some w →
        w = .null ∨ w.IsObjectList := by
      intro name w hw
      rw [NameMap.get?_ofList] at hw
      exact hshape name w hw
    obtain ⟨b, hb⟩ := Envelope.exists_batch hmembers.within hlast
    refine ⟨b, ?_⟩
    rw [decodeEnvelope_of_members hmembers, hb]
    rfl

theorem exists_decodeEntities_iff {entity : EntityType} :
    (∃ b, decodeEntities entity body = .ok b) ↔ (BodyTarget.entities entity).Accepts body := by
  simp only [decodeEntities_eq_ok_iff]
  constructor
  · rintro ⟨b, maps, hread, -⟩
    exact ⟨_, hread, Json.exists_toMaps_iff.1 ⟨maps, toMaps_encodeList maps⟩⟩
  · rintro ⟨v, hread, hlist⟩
    obtain ⟨maps, hmaps⟩ := Json.exists_toMaps_iff.2 hlist
    have hv := (Json.toMaps_eq_ok_iff_of_within (Json.within_of_read hread)).1 hmaps
    exact ⟨_, maps, hv ▸ hread, rfl⟩

end Bodies

/-! ## The main statement -/

end PropertyGraph
