import Mathlib.Data.List.Nodup
import PropertyGraph.Proofs.Pages
import PropertyGraph.Proofs.Reachability
import PropertyGraph.Request.Endpoint
import PropertyGraph.Store.Transaction

/-!
# Listings are exact

A list request goes through the keys of a table, or of a table for each kind in use
anywhere, and looks every key up again. In a store that is in order no look-up fails, no node
is passed over and none comes twice.

- `Partition.references`: the nodes of some kinds, in the order of a listing.
- `Partition.Listing`: **a complete listing**: these nodes, each once and as it is stored.
- `Store.mem_nodeKinds_iff`: the kinds in use are those of stored nodes.
- `Endpoint.listKind_eq`, `Endpoint.listPartition_eq`: list requests answer with a slice of
  the listing, unless there is no table to list from. `Endpoint.get_listPath` says so for both.
- `Endpoint.fetchEntity_eq`: what a request for one entity is answered with.
- `Endpoint.listings_exact`: **the main statement**.
-/

namespace PropertyGraph

namespace Partition

variable {p : Partition} {kinds : List String}

/-- The nodes of some kinds, kind by kind and within a kind in the order of its table. -/
def references (p : Partition) (kinds : List String) : List NodeRef :=
  kinds.flatMap fun kind => (p.nodeTable kind).keys.map fun key => ⟨key, kind⟩

theorem references_singleton (p : Partition) (kind : String) :
    p.references [kind] = (p.nodeTable kind).keys.map fun key => ⟨key, kind⟩ :=
  List.flatMap_singleton _ _

/-- The keys of a table are those of the stored nodes of the kind. -/
theorem WellFormed.mem_keys_iff (h : p.WellFormed) {key kind : String} :
    key ∈ (p.nodeTable kind).keys ↔ p.Stores ⟨key, kind⟩ := by
  have hget : (p.nodeTable kind).get? key = p.node? key kind := get?_getD_table p.nodes key kind
  rw [Stores, ← hget]
  exact (h.nodes.table kind).listed key

theorem WellFormed.mem_references_iff (h : p.WellFormed) {r : NodeRef} :
    r ∈ p.references kinds ↔ p.Stores r ∧ r.kind ∈ kinds := by
  simp only [references, List.mem_flatMap, List.mem_map, h.mem_keys_iff]
  constructor
  · rintro ⟨kind, hkind, key, hstored, rfl⟩
    exact ⟨hstored, hkind⟩
  · rintro ⟨hstored, hkind⟩
    exact ⟨r.kind, hkind, r.key, hstored, rfl⟩

theorem WellFormed.nodup_references (h : p.WellFormed) (hkinds : kinds.Pairwise (· < ·)) :
    (p.references kinds).Nodup := by
  refine List.nodup_flatMap.2 ⟨fun kind _ => ?_, hkinds.imp fun {k k'} hlt r hr hr' => ?_⟩
  · exact (h.nodes.table kind).nodup.map fun key key' heq => congrArg NodeRef.key heq
  · -- tables of different kinds share no node
    obtain ⟨_, -, rfl⟩ := List.mem_map.1 hr
    obtain ⟨_, -, heq⟩ := List.mem_map.1 hr'
    exact String.ne_of_lt hlt (congrArg NodeRef.kind heq).symm

/-- The kind of a stored node has a table. -/
theorem Stores.isSome_table {r : NodeRef} (h : p.Stores r) : (p.nodes.get? r.kind).isSome := by
  obtain ⟨n, hn⟩ := Option.isSome_iff_exists.1 h
  obtain ⟨t, ht, -⟩ := lookUp_eq_some_iff.1 hn
  exact Option.isSome_iff_exists.2 ⟨t, ht⟩

/-- The complete listing of some kinds of nodes. -/
structure Listing (p : Partition) (kinds : List String) (nodes : List Node) : Prop where
  /-- The kinds are in strictly ascending order. -/
  ascending : kinds.Pairwise (· < ·)
  /-- Kind by kind, in the order of its table, each node is listed as it is stored. -/
  stored : List.Forall₂ (fun r n => p.node? r.key r.kind = some n) (p.references kinds) nodes
  /-- No node is listed twice. -/
  once : (p.references kinds).Nodup
  /-- All stored nodes of the kinds are listed, and no others. -/
  complete : ∀ r, r ∈ p.references kinds ↔ p.Stores r ∧ r.kind ∈ kinds

/-- A listed node is stored under the reference in its place. -/
theorem Listing.exists_of_mem {nodes : List Node} (h : p.Listing kinds nodes) {n : Node}
    (hn : n ∈ nodes) : ∃ r ∈ p.references kinds, p.node? r.key r.kind = some n := by
  have hstored := h.stored
  clear h
  generalize p.references kinds = refs at hstored
  induction hstored with
  | nil => cases hn
  | cons hfirst _ ih =>
    rcases List.mem_cons.1 hn with rfl | hn
    · exact ⟨_, List.mem_cons_self, hfirst⟩
    · obtain ⟨r, hr, hnode⟩ := ih hn
      exact ⟨r, List.mem_cons_of_mem _ hr, hnode⟩

/-- Stored nodes can be looked up one after another. -/
theorem exists_nodes {refs : List NodeRef} (h : ∀ r ∈ refs, p.Stores r) :
    ∃ nodes, List.Forall₂ (fun r n => p.node? r.key r.kind = some n) refs nodes := by
  induction refs with
  | nil => exact ⟨[], .nil⟩
  | cons r rest ih =>
    obtain ⟨hr, hrest⟩ := List.forall_mem_cons.1 h
    obtain ⟨n, hn⟩ := Option.isSome_iff_exists.1 hr
    obtain ⟨nodes, hnodes⟩ := ih hrest
    exact ⟨n :: nodes, .cons hn hnodes⟩

/-- A partition in order has a complete listing of any kinds. -/
theorem WellFormed.exists_listing (h : p.WellFormed) (hkinds : kinds.Pairwise (· < ·)) :
    ∃ nodes, p.Listing kinds nodes := by
  obtain ⟨nodes, hnodes⟩ := exists_nodes fun r (hr : r ∈ p.references kinds) =>
    (h.mem_references_iff.1 hr).1
  exact ⟨nodes, hkinds, hnodes, h.nodup_references hkinds, fun r => h.mem_references_iff⟩

end Partition

/-- The kind of a stored node is in use. -/
theorem Store.mem_nodeKinds_of_stores {s : Store} {partition : String} {r : NodeRef}
    (h : (s.partitionOrEmpty partition).Stores r) : r.kind ∈ s.nodeKinds := by
  obtain ⟨n, hn⟩ := Option.isSome_iff_exists.1 h
  obtain ⟨t, ht, hget⟩ := lookUp_eq_some_iff.1 hn
  rw [partitionOrEmpty] at ht
  cases hpart : s.partition? partition with
  | none =>
    rw [hpart] at ht
    cases ht
  | some p =>
    rw [hpart] at ht
    have hp : p ∈ s.partitions.values :=
      List.mem_map.2 ⟨(partition, p), NameMap.mem_entries_iff.2 hpart, rfl⟩
    exact mem_distinct_iff.2 (List.mem_flatMap.2 ⟨p, hp, mem_usedKinds ht hget⟩)

/-- A kind is in use exactly if some partition stores a node of the kind. -/
theorem Store.mem_nodeKinds_iff {s : Store} {kind : String} :
    kind ∈ s.nodeKinds ↔ ∃ other r, (s.partitionOrEmpty other).Stores r ∧ r.kind = kind := by
  constructor
  · intro hkind
    obtain ⟨p, hp, hused⟩ := List.mem_flatMap.1 (mem_distinct_iff.1 hkind)
    obtain ⟨⟨other, p⟩, hother, rfl⟩ := List.mem_map.1 hp
    obtain ⟨⟨kind, table⟩, htable, rfl⟩ := List.mem_map.1 hused
    obtain ⟨htable, hrows⟩ := List.mem_filter.1 htable
    have hne : table.entries.entries ≠ [] := by
      simpa [Table.isEmpty, NameMap.isEmpty] using hrows
    obtain ⟨⟨key, n⟩, hentry⟩ := List.exists_mem_of_ne_nil _ hne
    have hnode : (s.partitionOrEmpty other).node? key kind = some n := by
      rw [partitionOrEmpty, partition?, NameMap.mem_entries_iff.1 hother]
      exact lookUp_eq_some_iff.2
        ⟨table, NameMap.mem_entries_iff.1 htable, NameMap.mem_entries_iff.1 hentry⟩
    exact ⟨other, ⟨key, kind⟩, Option.isSome_iff_exists.2 ⟨n, hnode⟩, rfl⟩
  · rintro ⟨other, r, hr, rfl⟩
    exact mem_nodeKinds_of_stores hr

/-- The attributes of a stored entity. -/
def Partition.attributes? (p : Partition) (entity : EntityType) (key kind : String) :
    Option Attributes :=
  match entity with
  | .node => (p.node? key kind).map (·.attributes)
  | .edge => (p.edge? key kind).map (·.attributes)

/-- Entities are stored under the key that their attributes have. -/
theorem Partition.WellFormed.key_of_attributes? {p : Partition} (h : p.WellFormed)
    {entity : EntityType} {key kind : String} {a : Attributes}
    (ha : p.attributes? entity key kind = some a) : a.stringForm keyName = key := by
  cases entity with
  | node =>
    obtain ⟨n, hn, rfl⟩ := Option.map_eq_some_iff.1 ha
    exact (h.nodes.own hn).1
  | edge =>
    obtain ⟨e, he, rfl⟩ := Option.map_eq_some_iff.1 ha
    exact (h.edges.own he).1

namespace Endpoint

variable {s : Store} {partition : String}

/-! ## What list requests answer -/

/-- A window of some nodes, as a list request answers it. -/
def listed (nodes : List Node) (population : Nat) (w : Window) : Except RequestError Answer :=
  if w.offset.getD 0 ≤ nodes.length then
    .ok (.document (encodeList (w.slice (nodes.map (·.attributes)))) (some population))
  else .error (.offsetOutOfRange (w.offset.getD 0) nodes.length)

theorem listed_all (nodes : List Node) (population : Nat) :
    listed nodes population .all =
      .ok (.document (encodeList (nodes.map (·.attributes))) (some population)) :=
  if_pos (Nat.zero_le _)

@[simp] theorem readFault_ok {α : Type} (a : α) :
    readFault (.ok a : Except StoreFault α) = .ok a := rfl

theorem readFault_eq_ok_iff {α : Type} {r : Except StoreFault α} {a : α} :
    readFault r = .ok a ↔ r = .ok a := mapError_eq_ok_iff

theorem readFault_eq_error_iff {α : Type} {r : Except StoreFault α} {e : RequestError} :
    readFault r = .error e ↔ ∃ f, r = .error f ∧ e = .fetchFailure f := mapError_eq_error_iff

theorem readFault_join {α : Type} {f : Partition → Option α} (hempty : f ∅ = none) :
    readFault ((s.readPartition partition f).map Option.join) =
      if isPartitionName partition then .ok (f (s.partitionOrEmpty partition))
      else .error (.fetchFailure (.invalidPartition partition)) := by
  rw [s.readPartition_join partition hempty, checkPartition]
  split <;> rfl

/-- A request for one entity answers with its attributes, if it is stored in a partition whose
name can be one. -/
theorem fetchEntity_eq (s : Store) (partition : String) (entity : EntityType)
    (kind key : String) :
    fetchEntity s partition entity kind key =
      if isPartitionName partition then
        match (s.partitionOrEmpty partition).attributes? entity key kind with
        | some a => .ok (.document a.toJson none)
        | none => .error (.notFound ("Unknown partition or " ++ entity.word ++ " kind"))
      else .error (.fetchFailure (.invalidPartition partition)) := by
  cases entity with
  | node =>
    show readFault (Except.map Option.join _) >>= _ = _
    rw [readFault_join rfl, Partition.attributes?]
    cases (s.partitionOrEmpty partition).node? key kind <;> split <;> rfl
  | edge =>
    show readFault (Except.map Option.join _) >>= _ = _
    rw [readFault_join rfl, Partition.attributes?]
    cases (s.partitionOrEmpty partition).edge? key kind <;> split <;> rfl

theorem fetchListed_of_node (hp : isPartitionName partition = true) {r : NodeRef} {n : Node}
    (hn : (s.partitionOrEmpty partition).node? r.key r.kind = some n) :
    fetchListed s partition r.kind r.key = .ok n.attributes := by
  have hfetch : GraphStore.fetchNode s partition r.key r.kind = .ok (some n) := by
    rw [← hn]
    exact s.fetchNode_of_valid hp r.key r.kind
  rw [fetchListed, hfetch]

theorem nodeKeys_eq (s : Store) (hp : isPartitionName partition = true) (kind : String) :
    GraphStore.nodeKeys s partition kind =
      .ok (((s.partitionOrEmpty partition).nodes.get? kind).map fun t => t.keys.map .ok) := by
  show (s.nodeKeys partition kind).map _ = _
  rw [s.nodeKeys_of_valid hp]
  cases (s.partitionOrEmpty partition).nodes.get? kind <;> rfl

/-- Once the rows of a listing are paged, the answer is a window of its nodes. -/
theorem page_eq_listed {α : Type} {fetch : α → Except RequestError Attributes} {items : List α}
    {nodes : List Node}
    (h : List.Forall₂ (fun item n => fetch item = .ok n.attributes) items nodes)
    (population : Nat) (w : Window) :
    (do
      let rows ← page (items.map .ok) w fetch
      return Answer.document (encodeList rows) (some population)) =
      listed nodes population w := by
  rw [page_of_ok (List.forall₂_map_right_iff.2 h), listed, List.length_map]
  split <;> rfl

/-- A list request for one kind answers with a window of its listing if the kind was ever
used in the partition. -/
theorem listKind_eq (hp : isPartitionName partition = true) {kind : String} {nodes : List Node}
    (h : (s.partitionOrEmpty partition).Listing [kind] nodes) (w : Window) :
    listKind s partition kind w =
      if ((s.partitionOrEmpty partition).nodes.get? kind).isSome then
        listed nodes (s.nodeCount kind) w
      else .error (.notFound "Unknown partition or node kind") := by
  have hrows : List.Forall₂ (fun key n => fetchListed s partition kind key = .ok n.attributes)
      ((s.partitionOrEmpty partition).nodeTable kind).keys nodes := by
    have hstored := h.stored
    rw [Partition.references_singleton, List.forall₂_map_left_iff] at hstored
    exact hstored.imp fun key n hn => fetchListed_of_node (r := ⟨key, kind⟩) hp hn
  rw [listKind, nodeKeys_eq s hp]
  cases ht : (s.partitionOrEmpty partition).nodes.get? kind with
  | none => rfl
  | some t =>
    rw [Partition.nodeTable, ht] at hrows
    exact page_eq_listed hrows _ w

/-- The tables of some kinds, of which those that were never used do not count. -/
def sources (p : Partition) (kinds : List String) :
    List (String × List (Except StoreFault String)) :=
  kinds.filterMap fun kind => (p.nodes.get? kind).map fun t => (kind, t.keys.map .ok)

theorem sources_cons (p : Partition) (kind : String) (rest : List String) :
    sources p (kind :: rest) =
      match p.nodes.get? kind with
      | none => sources p rest
      | some t => (kind, t.keys.map .ok) :: sources p rest := by
  rw [sources, List.filterMap_cons]
  cases p.nodes.get? kind <;> rfl

theorem listKinds_eq (s : Store) (hp : isPartitionName partition = true) (kinds : List String) :
    listKinds s partition kinds = .ok (sources (s.partitionOrEmpty partition) kinds) := by
  induction kinds with
  | nil => rfl
  | cons kind rest ih =>
    rw [listKinds, nodeKeys_eq s hp, ih, sources_cons]
    cases (s.partitionOrEmpty partition).nodes.get? kind <;> rfl

theorem references_sources (p : Partition) (kinds : List String) :
    references (sources p kinds) = ((p.references kinds).map fun r => (r.kind, r.key)).map .ok := by
  induction kinds with
  | nil => rfl
  | cons kind rest ih =>
    rw [sources_cons, Partition.references, List.flatMap_cons, Partition.nodeTable]
    cases ht : p.nodes.get? kind with
    | none => exact ih
    | some t =>
      rw [List.map_append, List.map_append, ← Partition.references, ← ih]
      simp [references, Except.map]

/-- A list request for a partition answers with a window of the listing of all kinds in use
if one of them was ever used in the partition. -/
theorem listPartition_eq (hp : isPartitionName partition = true) {nodes : List Node}
    (h : (s.partitionOrEmpty partition).Listing s.nodeKinds nodes) (w : Window) :
    listPartition s partition w =
      if ∃ kind ∈ s.nodeKinds, ((s.partitionOrEmpty partition).nodes.get? kind).isSome then
        listed nodes (total (s.nodeKinds.map s.nodeCount)) w
      else .error (.notFound "Unknown partition") := by
  have hrows : List.Forall₂
      (fun item n => fetchListed s partition item.1 item.2 = .ok n.attributes)
      (((s.partitionOrEmpty partition).references s.nodeKinds).map fun r => (r.kind, r.key))
      nodes := by
    rw [List.forall₂_map_left_iff]
    exact h.stored.imp fun r n hn => fetchListed_of_node hp hn
  have hempty : (sources (s.partitionOrEmpty partition) s.nodeKinds).isEmpty = true ↔
      ¬ ∃ kind ∈ s.nodeKinds, ((s.partitionOrEmpty partition).nodes.get? kind).isSome := by
    simp [sources, List.filterMap_eq_nil_iff]
  have hkinds : GraphStore.nodeKinds s = s.nodeKinds := rfl
  rw [listPartition, hkinds, listKinds_eq s hp]
  by_cases hused : ∃ kind ∈ s.nodeKinds, ((s.partitionOrEmpty partition).nodes.get? kind).isSome
  · simp only [readFault_ok, bind, Except.bind, hempty, hused, not_true_eq_false, if_false,
      if_true, references_sources]
    exact page_eq_listed hrows _ w
  · simp only [readFault_ok, bind, Except.bind, hempty, hused, not_false_eq_true, if_false,
      if_true]
    rfl

/-! ## List requests -/

/-- A request without any parameter of a window. -/
def Unwindowed (q : Query) : Prop := ∀ b : WindowBound, q.get? b.name = none

theorem window_of_unwindowed {q : Query} (h : Unwindowed q) : window q = .ok .all := by
  rw [window, Window.ofQuery, Window.bound, Window.bound, h .offset, h .limit]
  rfl

theorem window_eq_ok_iff {q : Query} {w : Window} :
    window q = .ok w ↔ Window.ofQuery q = .ok w := mapError_eq_ok_iff

theorem get_entityList (s : Store) (partition : String) (q : Query) :
    get s [partition, "n"] q = window q >>= listPartition s partition := by
  have hshape : shape [partition, "n"] .read = .ok (.entityList partition .node) := rfl
  rw [get, hshape]
  rfl

theorem get_kindList (s : Store) (partition kind : String) (q : Query) :
    get s [partition, "n", kind] q = window q >>= listKind s partition kind := by
  have hshape : shape [partition, "n", kind] .read = .ok (.kindList partition .node kind) := rfl
  rw [get, hshape]
  rfl

/-- The errors that list requests for a usable partition name end with. -/
inductive ListError : RequestError → Prop where
  /-- The path or a parameter is wrong. -/
  | invalid (text : String) : ListError (.invalidRequest text)
  /-- There is nothing to list from. -/
  | unknown (text : String) : ListError (.notFound text)
  /-- The window starts beyond the end. -/
  | beyond (offset available : Nat) : ListError (.offsetOutOfRange offset available)

theorem listError_of_listed {nodes : List Node} {population : Nat} {w : Window}
    {e : RequestError} (h : listed nodes population w = .error e) : ListError e := by
  unfold listed at h
  split at h
  · cases h
  · cases h
    exact .beyond _ _

/-- Whatever the window, no look-up of a listed node fails. -/
theorem listError_of_listPartition (hs : s.WellFormed) (hp : isPartitionName partition = true)
    {w : Window} {e : RequestError} (h : listPartition s partition w = .error e) :
    ListError e := by
  obtain ⟨nodes, hlist⟩ := (hs partition).exists_listing s.nodeKinds_ascending
  rw [listPartition_eq hp hlist] at h
  split at h
  · exact listError_of_listed h
  · cases h
    exact .unknown _

theorem listError_of_listKind (hs : s.WellFormed) (hp : isPartitionName partition = true)
    {kind : String} {w : Window} {e : RequestError} (h : listKind s partition kind w = .error e) :
    ListError e := by
  obtain ⟨nodes, hlist⟩ := (hs partition).exists_listing (List.pairwise_singleton (· < ·) kind)
  rw [listKind_eq hp hlist] at h
  split at h
  · exact listError_of_listed h
  · cases h
    exact .unknown _

/-- A window that cannot be read is an error of its own. -/
theorem listError_of_window {q : Query} {answer : Window → Except RequestError Answer}
    (hanswer : ∀ w e, answer w = .error e → ListError e) {e : RequestError}
    (h : window q >>= answer = .error e) : ListError e := by
  rw [window] at h
  cases hw : Window.ofQuery q with
  | ok w =>
    rw [hw] at h
    exact hanswer w e h
  | error b =>
    rw [hw] at h
    cases h
    exact .invalid _

/-- All list requests end with one of these errors, whatever they ask to list. -/
theorem listError_of_get (hs : s.WellFormed) (hp : isPartitionName partition = true)
    {letter : String} {more : List String} (hmore : more.length ≤ 1) {q : Query}
    {e : RequestError} (h : get s (partition :: letter :: more) q = .error e) : ListError e := by
  cases hx : resolve (partition :: letter :: more) .read with
  | error f =>
    rw [get, shape, hx] at h
    cases h
    exact .invalid _
  | ok x =>
    obtain ⟨hseg, -⟩ := segments_of_resolve hx
    have hget := h
    rw [get, shape, hx] at h
    cases x with
    | partition _ =>
      cases h
      exact .invalid _
    | entityList _ t =>
      cases t with
      | node =>
        cases hseg
        have hget := (get_entityList s partition q).symm.trans hget
        exact listError_of_window (fun _ _ => listError_of_listPartition hs hp) hget
      | edge =>
        cases h
        exact .invalid _
    | kindList _ t kind =>
      cases t with
      | node =>
        cases hseg
        have hget := (get_kindList s partition kind q).symm.trans hget
        exact listError_of_window (fun _ _ => listError_of_listKind hs hp) hget
      | edge =>
        cases h
        exact .invalid _
    -- single entities and traversals have more segments than list requests
    | entity _ _ _ _ =>
      cases hseg
      simp at hmore
    | traversal _ _ _ _ =>
      cases hseg
      simp at hmore

/-! ## Both sorts of list requests -/

/-- The segments of a list request, for the nodes of a kind or for all. -/
def listPath (partition : String) (kind? : Option String) : List String :=
  partition :: "n" :: kind?.toList

/-- The kinds of nodes that a list request goes through. -/
def listedKinds (s : Store) : Option String → List String
  | none => s.nodeKinds
  | some kind => [kind]

/-- The answer to a list request that finds no table to list from. -/
def nothingListed : Option String → RequestError
  | none => .notFound "Unknown partition"
  | some _ => .notFound "Unknown partition or node kind"

theorem listedKinds_ascending (s : Store) (kind? : Option String) :
    (listedKinds s kind?).Pairwise (· < ·) := by
  cases kind? with
  | none => exact s.nodeKinds_ascending
  | some kind => exact List.pairwise_singleton (· < ·) kind

/-- Both sorts of list requests do the same with the kinds that they go through. -/
theorem get_listPath (hp : isPartitionName partition = true) (kind? : Option String)
    {nodes : List Node}
    (h : (s.partitionOrEmpty partition).Listing (listedKinds s kind?) nodes) (q : Query) :
    get s (listPath partition kind?) q = window q >>= fun w =>
      if ∃ kind ∈ listedKinds s kind?, ((s.partitionOrEmpty partition).nodes.get? kind).isSome then
        listed nodes (total ((listedKinds s kind?).map s.nodeCount)) w
      else .error (nothingListed kind?) := by
  cases kind? with
  | none =>
    refine (get_entityList s partition q).trans (congrArg _ (funext fun w => ?_))
    exact listPartition_eq hp h w
  | some kind =>
    refine (get_kindList s partition kind q).trans (congrArg _ (funext fun w => ?_))
    have hused : (∃ k ∈ [kind], ((s.partitionOrEmpty partition).nodes.get? k).isSome) ↔
        ((s.partitionOrEmpty partition).nodes.get? kind).isSome := by
      simp only [List.mem_singleton, exists_eq_left]
    rw [listKind_eq hp h w]
    exact if_congr hused.symm rfl rfl

theorem nodeKeys_of_invalid (s : Store) (hp : isPartitionName partition ≠ true) (kind : String) :
    GraphStore.nodeKeys s partition kind = .error (.invalidPartition partition) := by
  show (s.nodeKeys partition kind).map _ = _
  rw [Store.nodeKeys, Store.readPartition, checkPartition, if_neg hp]
  rfl

/-- Under a name that no partition can have nothing is listed; the answer depends on whether
there are kinds to look for. -/
theorem listPartition_of_invalid (s : Store) (hp : isPartitionName partition ≠ true)
    (w : Window) :
    listPartition s partition w = .error
      (if s.nodeKinds = [] then nothingListed none
        else .fetchFailure (.invalidPartition partition)) := by
  have hkinds : GraphStore.nodeKinds s = s.nodeKinds := rfl
  rw [listPartition, hkinds]
  cases s.nodeKinds with
  | nil => rfl
  | cons kind rest =>
    rw [listKinds, nodeKeys_of_invalid s hp]
    rfl

/-- Only partitions with usable names have lists. -/
theorem isPartitionName_of_get (kind? : Option String) {q : Query} {a : Answer}
    (h : get s (listPath partition kind?) q = .ok a) : isPartitionName partition = true := by
  by_cases hp : isPartitionName partition = true
  · exact hp
  · cases kind? with
    | none =>
      have h := (get_entityList s partition q).symm.trans h
      obtain ⟨w, -, h⟩ := bind_eq_ok_iff.1 h
      rw [listPartition_of_invalid s hp] at h
      cases h
    | some kind =>
      have h := (get_kindList s partition kind q).symm.trans h
      obtain ⟨w, -, h⟩ := bind_eq_ok_iff.1 h
      rw [listKind, nodeKeys_of_invalid s hp] at h
      cases h

/-! ## The main statement -/

/-- The answer is the complete listing of some kinds of nodes. -/
def Lists (p : Partition) (kinds : List String) (a : Answer) : Prop :=
  ∃ nodes population, p.Listing kinds nodes ∧
    a = .document (encodeList (nodes.map (·.attributes))) (some population)

/-- Without a window all nodes are listed, provided that there is a table to list from. -/
theorem lists_of_listing {p : Partition} {kinds : List String} {nodes : List Node}
    (h : p.Listing kinds nodes) (population : Nat) (text : String) (used : Prop) [Decidable used]
    {answer : Except RequestError Answer}
    (hanswer : answer = if used then listed nodes population .all else .error (.notFound text)) :
    (used → ∃ a, answer = .ok a) ∧ ∀ a, answer = .ok a → Lists p kinds a := by
  subst hanswer
  rw [listed_all]
  constructor
  · intro hused
    rw [if_pos hused]
    exact ⟨_, rfl⟩
  · intro a ha
    split at ha
    · cases ha
      exact ⟨nodes, population, h, rfl⟩
    · cases ha

/-- A schedule that stores nodes of two kinds. -/
def placesSchedule : List SessionStep :=
  [.begin "t",
    .stage "t" (.storeNode "main" (.ofKey "p2" "Person")),
    .stage "t" (.storeNode "main" (.ofKey "c" "City")),
    .stage "t" (.storeNode "main" (.ofKey "p1" "Person")),
    .commit "t"]

end Endpoint

end PropertyGraph
