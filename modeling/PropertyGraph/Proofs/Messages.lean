import PropertyGraph.Proofs.Lines
import PropertyGraph.Proofs.Listings
import PropertyGraph.Proofs.Writes

/-!
# What error messages repeat

The message of an error is the body of an answer and a line of the log. It is put together from
fixed words, numbers and quoted texts, which stay on one line, and from texts of the request that
are repeated as they are. This module says which texts these can be: a line end in one of them is
all that can break the line of a message.

- `RequestError.Quotes`: the message of an error is on one line exactly if the texts are that it
  repeats, and all of these come from the request.
- `Endpoint.quotes_of_get`, `Endpoint.quotes_of_mutate`: **what the errors of a request repeat**:
  segments of its path, and the keys and kinds of its batch.
- `Endpoint.message_singleLine_iff`: **the main statement**.
- `Endpoint.message_two_lines`: a key with a line feed.
-/

namespace PropertyGraph

namespace RequestError

variable {source source' : String → Prop} {e : RequestError}

/-- The message of an error is on one line exactly if the texts are that it repeats as they are,
and these come from a source. -/
structure Quotes (source : String → Prop) (e : RequestError) : Prop where
  singleLine_iff : SingleLine e.message ↔ ∀ t ∈ e.quoted, SingleLine t
  source : ∀ t ∈ e.quoted, source t

theorem Quotes.mono (h : e.Quotes source) (hsub : ∀ t, source t → source' t) :
    e.Quotes source' :=
  ⟨h.singleLine_iff, fun t ht => hsub t (h.source t ht)⟩

/-- An error that repeats nothing and is on one line. -/
theorem quotes_nothing (hquoted : e.quoted = []) (h : SingleLine e.message) :
    e.Quotes source where
  singleLine_iff := by
    rw [hquoted]
    exact iff_of_true h (List.forall_mem_nil _)
  source := by
    rw [hquoted]
    exact List.forall_mem_nil _

theorem quotes_fetchFailure {f : StoreFault} (h : f.NamesOnLine) (hf : ∀ t ∈ f.quoted, source t) :
    (fetchFailure f).Quotes source :=
  ⟨StoreFault.singleLine_message_iff h, hf⟩

end RequestError

theorem fault_of_checkPartition {partition : String} {f : StoreFault}
    (h : checkPartition partition = .error f) : f = .invalidPartition partition := by
  unfold checkPartition at h
  split at h
  · cases h
  · cases h
    rfl

namespace Store

variable {s : Store} {partition key kind spec : String} {allData : Bool}

/-- The only fault of a read is the name of its partition. -/
theorem fault_of_readPartition {α : Type} {read : Partition → α} {f : StoreFault}
    (h : s.readPartition partition read = .error f) : f = .invalidPartition partition := by
  unfold readPartition at h
  split at h
  · next hcheck =>
    cases h
    exact fault_of_checkPartition hcheck
  · cases h

/-- A traversal fails for its spec or for the name of its partition. -/
theorem fault_of_traverse {f : StoreFault}
    (h : s.traverse partition key kind spec allData = .error f) :
    f = .invalidSpec spec ∨ f = .invalidPartition partition := by
  rcases bind_eq_error_iff.1 h with h | ⟨parsed, -, h⟩
  · unfold TraversalSpec.parse at h
    split at h
    · cases h
    · cases h
      exact .inl rfl
  · rcases bind_eq_error_iff.1 h with h | ⟨found, -, h⟩
    · exact .inr (fault_of_readPartition h)
    · cases allData <;> cases h

/-- The nodes that a traversal reaches and the edges that it follows are listed in pairs. -/
theorem length_of_traverse {nodes : List Node} {edges : List Edge}
    (h : s.traverse partition key kind spec allData = .ok (nodes, edges)) :
    nodes.length = edges.length := by
  obtain ⟨parsed, -, h⟩ := bind_eq_ok_iff.1 h
  obtain ⟨found, -, h⟩ := bind_eq_ok_iff.1 h
  cases allData with
  | false =>
    cases h
    rw [List.length_map, List.length_map]
  | true =>
    cases h
    rw [List.length_map, List.length_map]

end Store

/-! ## Checks of operations -/

theorem Edge.fault_of_endpoint {e : Edge} {side : EndSide} {f : StoreFault}
    (h : e.endpoint side = .error f) : ∃ name ∈ side.names, f = .invalidData .edge name := by
  have hrequired : ∀ name f, e.required name = .error f → f = .invalidData .edge name := by
    intro name f h
    simp only [required] at h
    split at h
    · cases h
      rfl
    · cases h
  have hflag : ∀ name f, e.requiredFlag name = .error f → f = .invalidData .edge name := by
    intro name f h
    unfold requiredFlag at h
    split at h
    · cases h
    · cases h
      rfl
  rcases bind_eq_error_iff.1 h with h | ⟨key, -, h⟩
  · exact ⟨side.keyName, by simp [EndSide.names], hrequired _ _ h⟩
  rcases bind_eq_error_iff.1 h with h | ⟨kind, -, h⟩
  · exact ⟨side.kindName, by simp [EndSide.names], hrequired _ _ h⟩
  rcases bind_eq_error_iff.1 h with h | ⟨role, -, h⟩
  · exact ⟨side.roleName, by simp [EndSide.names], hrequired _ _ h⟩
  rcases bind_eq_error_iff.1 h with h | ⟨cascading, -, h⟩
  · exact ⟨side.cascadingName, by simp [EndSide.names], hflag _ _ h⟩
  · cases h

/-- The attributes that a check looks at. -/
def checkedNames : List String := keyName :: kindName :: endNames

theorem fault_of_checkNames {entity : EntityType} {key kind : String} {f : StoreFault}
    (h : checkNames entity key kind = .error f) :
    ∃ name ∈ checkedNames, f = .invalidData entity name := by
  unfold checkNames at h
  split at h
  · cases h
    exact ⟨keyName, List.mem_cons_self, rfl⟩
  · split at h
    · cases h
    · cases h
      exact ⟨kindName, List.mem_cons_of_mem _ List.mem_cons_self, rfl⟩

theorem Edge.fault_of_check {e : Edge} {f : StoreFault} (h : e.check = .error f) :
    ∃ name ∈ checkedNames, f = .invalidData .edge name := by
  have hends : ∀ side f, e.endpoint side = .error f →
      ∃ name ∈ checkedNames, f = .invalidData .edge name := by
    intro side f h
    obtain ⟨name, hname, rfl⟩ := fault_of_endpoint h
    refine ⟨name, ?_, rfl⟩
    exact List.mem_cons_of_mem _ (List.mem_cons_of_mem _ (side.names_subset hname))
  rcases bind_eq_error_iff.1 h with h | ⟨_, -, h⟩
  · exact fault_of_checkNames h
  rcases bind_eq_error_iff.1 h with h | ⟨_, -, h⟩
  · exact hends _ _ h
  rcases bind_eq_error_iff.1 h with h | ⟨_, -, h⟩
  · exact hends _ _ h
  · cases h

/-- A check fails for an attribute or for the name of the partition. -/
theorem Operation.fault_of_check {op : Operation} {f : StoreFault} (h : op.check = .error f) :
    (∃ entity, ∃ name ∈ checkedNames, f = .invalidData entity name) ∨
      f = .invalidPartition op.partition := by
  -- every check looks at the entity first and at the partition after that
  have hseq : ∀ {x : Except StoreFault Unit} {entity : EntityType} {name : String},
      (∀ f, x = .error f → ∃ name ∈ checkedNames, f = .invalidData entity name) →
      (x >>= fun _ => checkPartition name) = .error f →
      (∃ entity, ∃ name ∈ checkedNames, f = .invalidData entity name) ∨
        f = .invalidPartition name := by
    intro x entity name hx h
    rcases bind_eq_error_iff.1 h with h | ⟨_, -, h⟩
    · exact .inl ⟨entity, hx f h⟩
    · exact .inr (fault_of_checkPartition h)
  cases op with
  | updateNode p n => exact hseq (fun _ => fault_of_checkNames) h
  | storeNode p n => exact hseq (fun _ => fault_of_checkNames) h
  | removeNode p key kind => exact hseq (fun _ => fault_of_checkNames) h
  | storeEdge p e => exact hseq (fun _ => Edge.fault_of_check) h
  | removeEdge p key kind => exact hseq (fun _ => fault_of_checkNames) h

theorem singleLine_checkedNames : ∀ name ∈ checkedNames, SingleLine name := by decide

/-- A text names an entity of a batch or an end of one of its edges. -/
def Batch.Names (b : Batch) (t : String) : Prop :=
  (∃ n ∈ b.nodes, t = n.key ∨ t = n.kind) ∨ (∃ e ∈ b.edges, t = e.key ∨ t = e.kind) ∨
    ∃ e ∈ b.edges, ∃ side d, e.endpoint side = .ok d ∧ (t = d.key ∨ t = d.kind)

open RequestError (Quotes quotes_nothing quotes_fetchFailure fetchFailure)

namespace Endpoint

variable {s : Store} {segments : List String} {partition : String} {source : String → Prop}
  {e : RequestError}

/-! ## Paths and parameters -/

theorem quotes_of_shape {access : Access} (h : shape segments access = .error e) :
    e.Quotes source := by
  obtain ⟨f, -, rfl⟩ := mapError_eq_error_iff.1 h
  refine quotes_nothing rfl ?_
  cases f with
  | count access => cases access <;> decide
  | entityLetter => decide
  | edgeTraversal => decide

theorem quotes_of_window {q : Query} (h : window q = .error e) : e.Quotes source := by
  obtain ⟨b, -, rfl⟩ := mapError_eq_error_iff.1 h
  refine quotes_nothing rfl ?_
  cases b <;> decide

/-! ## Reads -/

theorem quotes_invalidPartition (hsource : source partition) :
    (fetchFailure (.invalidPartition partition)).Quotes source :=
  quotes_fetchFailure trivial (List.forall_mem_singleton.2 hsource)

theorem quotes_of_listed {nodes : List Node} {population : Nat} {w : Window}
    (h : listed nodes population w = .error e) : e.Quotes source := by
  unfold listed at h
  split at h
  · cases h
  · cases h
    have hfixed : SingleLine "Offset exceeds available nodes" := by decide
    exact quotes_nothing rfl hfixed

/-- Lists repeat the name of their partition, if anything. -/
theorem quotes_of_listPartition (hs : s.WellFormed) (hsource : source partition) {w : Window}
    (h : listPartition s partition w = .error e) : e.Quotes source := by
  by_cases hp : isPartitionName partition = true
  · obtain ⟨nodes, hlist⟩ := (hs partition).exists_listing s.nodeKinds_ascending
    rw [listPartition_eq hp hlist] at h
    split at h
    · exact quotes_of_listed h
    · cases h
      exact quotes_nothing rfl (by decide)
  · rw [listPartition_of_invalid s hp] at h
    split at h
    · cases h
      exact quotes_nothing rfl (by decide)
    · cases h
      exact quotes_invalidPartition hsource

theorem quotes_of_listKind (hs : s.WellFormed) (hsource : source partition) {kind : String}
    {w : Window} (h : listKind s partition kind w = .error e) : e.Quotes source := by
  by_cases hp : isPartitionName partition = true
  · obtain ⟨nodes, hlist⟩ := (hs partition).exists_listing (List.pairwise_singleton (· < ·) kind)
    rw [listKind_eq hp hlist] at h
    split at h
    · exact quotes_of_listed h
    · cases h
      exact quotes_nothing rfl (by decide)
  · rw [listKind, nodeKeys_of_invalid s hp] at h
    cases h
    exact quotes_invalidPartition hsource

/-- So do reads of one entity. -/
theorem quotes_of_fetchEntity (hsource : source partition) {entity : EntityType}
    {kind key : String} (h : fetchEntity s partition entity kind key = .error e) :
    e.Quotes source := by
  rw [fetchEntity_eq] at h
  split at h
  · split at h
    · cases h
    · cases h
      exact quotes_nothing rfl (by cases entity <;> decide)
  · cases h
    exact quotes_invalidPartition hsource

/-- Traversals repeat the name of their partition or a spec that cannot be read. The two lists
that they pair have one length. -/
theorem quotes_of_traverse (hpartition : source partition) {kind key spec : String}
    (hspec : source spec) (h : traverse s partition kind key spec = .error e) :
    e.Quotes source := by
  rcases bind_eq_error_iff.1 h with h | ⟨found, -, h⟩
  · change readFault (Except.map Option.join _) = _ at h
    rw [readFault_join rfl] at h
    split at h
    · cases h
    · cases h
      exact quotes_invalidPartition hpartition
  · cases found with
    | none =>
      cases h
      exact quotes_nothing rfl (by decide)
    | some start =>
      rcases bind_eq_error_iff.1 h with h | ⟨⟨nodes, edges⟩, hlists, h⟩
      · obtain ⟨f, hf, rfl⟩ := readFault_eq_error_iff.1 h
        rcases Store.fault_of_traverse hf with rfl | rfl
        · exact quotes_fetchFailure trivial (List.forall_mem_singleton.2 hspec)
        · exact quotes_invalidPartition hpartition
      · have htraverse : s.traverse partition key kind spec true = .ok (nodes, edges) :=
          readFault_eq_ok_iff.1 hlists
        rcases bind_eq_error_iff.1 h with h | ⟨paired, -, h⟩
        · rw [pairByKey, if_neg (not_not.2 (Store.length_of_traverse htraverse))] at h
          cases h
        · cases h

/-- **What the errors of reads repeat**: segments of the path. -/
theorem quotes_of_get (hs : s.WellFormed) {q : Query} (h : get s segments q = .error e) :
    e.Quotes (· ∈ segments) := by
  rcases bind_eq_error_iff.1 h with h | ⟨x, hx, h⟩
  · exact quotes_of_shape h
  · obtain ⟨hsegments, -⟩ := segments_of_resolve (shape_eq_ok_iff.1 hx)
    cases x with
    | partition p =>
      cases h
      exact quotes_nothing rfl (by decide)
    | entityList p entity =>
      have hp : p ∈ segments := hsegments ▸ List.mem_cons_self
      cases entity with
      | node =>
        rcases bind_eq_error_iff.1 h with h | ⟨w, -, h⟩
        · exact quotes_of_window h
        · exact quotes_of_listPartition hs hp h
      | edge =>
        cases h
        exact quotes_nothing rfl (by decide)
    | kindList p entity kind =>
      have hp : p ∈ segments := hsegments ▸ List.mem_cons_self
      cases entity with
      | node =>
        rcases bind_eq_error_iff.1 h with h | ⟨w, -, h⟩
        · exact quotes_of_window h
        · exact quotes_of_listKind hs hp h
      | edge =>
        cases h
        exact quotes_nothing rfl (by decide)
    | entity p entity kind key =>
      have hp : p ∈ segments := hsegments ▸ List.mem_cons_self
      exact quotes_of_fetchEntity hp h
    | traversal p kind key spec =>
      have hp : p ∈ segments := hsegments ▸ List.mem_cons_self
      have hspec : spec ∈ segments := by
        rw [← hsegments]
        simp [RequestShape.segments]
      exact quotes_of_traverse hp hspec h

/-! ## Writes -/

variable {body : Bytes} {b : Batch} {verb : Verb}

theorem quotes_of_writeRequest (h : writeRequest segments body = .error e) : e.Quotes source := by
  rcases bind_eq_error_iff.1 h with h | ⟨x, -, h⟩
  · exact quotes_of_shape h
  rcases bind_eq_error_iff.1 h with h | ⟨⟨p, target⟩, -, h⟩
  · cases x with
    | partition p => cases h
    | entityList p entity => cases h
    | _ =>
      cases h
      exact quotes_nothing rfl (by decide)
  rcases bind_eq_error_iff.1 h with h | ⟨_, -, h⟩
  · obtain ⟨f, -, rfl⟩ := mapError_eq_error_iff.1 h
    exact quotes_nothing rfl (f.singleLine_message target body)
  · cases h

/-- A rejected item repeats its own names, or that of the partition. -/
theorem quotes_of_blames {place : Nat} {f : StoreFault} (h : b.Blames place f e)
    (hnames : ∀ t, b.Names t → source t) (hf : f.NamesOnLine) (hsource : ∀ t ∈ f.quoted, source t) :
    e.Quotes source := by
  obtain ⟨entity, position, kind, key, rfl, hkind, hkey⟩ : ∃ entity position kind key,
      e = .badItem entity position kind key f ∧ b.Names kind ∧ b.Names key := by
    rcases h with ⟨n, hn, rfl⟩ | ⟨i, g, -, hg, rfl⟩
    · have hmem : n ∈ b.nodes := List.mem_of_getElem? hn
      exact ⟨_, _, _, _, rfl, .inl ⟨n, hmem, .inr rfl⟩, .inl ⟨n, hmem, .inl rfl⟩⟩
    · have hmem : g ∈ b.edges := List.mem_of_getElem? hg
      exact ⟨_, _, _, _, rfl, .inr (.inl ⟨g, hmem, .inr rfl⟩), .inr (.inl ⟨g, hmem, .inl rfl⟩)⟩
  refine ⟨RequestError.singleLine_badItem_iff hf, ?_⟩
  refine List.forall_mem_cons.2 ⟨hnames key hkey, ?_⟩
  exact List.forall_mem_cons.2 ⟨hnames kind hkind, hsource⟩

theorem exists_end_of_firstMissing {known : NodeRef → Prop} {edges : List Edge} {r : NodeRef}
    (h : FirstMissing known edges r) :
    ∃ g ∈ edges, ∃ side d, g.endpoint side = .ok d ∧ d.node = r := by
  induction h with
  | first hd _ => exact ⟨_, List.mem_cons_self, .first, _, hd, rfl⟩
  | second _ _ hd _ => exact ⟨_, List.mem_cons_self, .second, _, hd, rfl⟩
  | later _ _ ih =>
    obtain ⟨g, hg, hend⟩ := ih
    exact ⟨g, List.mem_cons_of_mem _ hg, hend⟩

/-- What is wrong with a batch that was decoded repeats its names, or that of the partition. -/
theorem quotes_of_answered {p : Partition} (h : b.Answered verb partition p (.error e)) :
    e.Quotes fun t => t = partition ∨ b.Names t := by
  cases h with
  | rejected hrejected =>
    obtain ⟨place, op, f, hop, hf, -, hblames⟩ := hrejected
    have hon : op.partition = partition :=
      b.partition_of_mem_operations verb partition op (List.mem_of_getElem? hop)
    rcases op.fault_of_check hf with ⟨entity, name, hname, rfl⟩ | rfl
    · exact quotes_of_blames hblames (fun _ => .inr) (singleLine_checkedNames name hname)
        (List.forall_mem_nil _)
    · exact quotes_of_blames hblames (fun _ => .inr) trivial
        (List.forall_mem_singleton.2 (.inl hon))
  | unlinked hacc hverb hmissing =>
    obtain ⟨g, hg, side, d, hd, rfl⟩ := exists_end_of_firstMissing hmissing
    have hends : ∀ t, t = d.key ∨ t = d.kind → b.Names t :=
      fun t ht => .inr (.inr ⟨g, hg, side, d, hd, ht⟩)
    refine ⟨StoreFault.singleLine_message_iff trivial, List.forall_mem_cons.2 ⟨?_, ?_⟩⟩
    · exact .inr (hends _ (.inl rfl))
    · exact List.forall_mem_singleton.2 (.inr (hends _ (.inr rfl)))

/-- **What the errors of writes repeat**: segments of the path, and keys and kinds of the batch
that the body holds. -/
theorem quotes_of_mutate (h : (mutate s verb segments body).answer = .error e) :
    e.Quotes fun t => t ∈ segments ∨
      ∃ partition b, writeRequest segments body = .ok (partition, b) ∧ b.Names t := by
  cases hrequest : writeRequest segments body with
  | error f =>
    have hmutate : mutate s verb segments body = ⟨.error f, s, []⟩ := by
      simp only [mutate, hrequest]
    rw [hmutate] at h
    cases h
    exact quotes_of_writeRequest hrequest
  | ok request =>
    obtain ⟨partition, b⟩ := request
    have hanswered := (answered_mutate hrequest s verb).1
    rw [h] at hanswered
    refine (quotes_of_answered hanswered).mono fun t ht => ?_
    rcases ht with rfl | ht
    · cases segments with
      | nil => cases hrequest
      | cons name more => exact .inl (partition_of_writeRequest hrequest ▸ List.mem_cons_self)
    · exact .inr ⟨partition, b, rfl, ht⟩

/-! ## The main statement -/

/-- **What breaks the line of a message.** Take any reachable store and any request to the graph,
with any path, parameters and body. If it is answered with an error, the message is on one line
exactly if the texts are that it repeats as they are. All of these come from the request: segments
of its path, and keys and kinds that its batch gives to entities and to the ends of edges. So the
message is on one line whenever none of these has a line end. -/
theorem message_singleLine_iff (hs : s.Reachable) (segments : List String) :
    (∀ q e, get s segments q = .error e → e.Quotes (· ∈ segments)) ∧
    ∀ verb body e, (mutate s verb segments body).answer = .error e →
      e.Quotes fun t => t ∈ segments ∨
        ∃ partition b, writeRequest segments body = .ok (partition, b) ∧ b.Names t :=
  ⟨fun _ _ => quotes_of_get hs.wellFormed, fun _ _ _ => quotes_of_mutate⟩

/-- A list with one node, whose key has a line feed and whose kind cannot be one. -/
def brokenBody : Bytes := Utf8.encode (encodeList [(Node.ofKey "a\nb" "bad kind").attributes]).text

/-- The node is rejected for its kind. -/
theorem brokenBody_rejected :
    (mutate (∅ : Store) .post ["p", "n"] brokenBody).answer =
      .error (.badItem .node 1 "bad kind" "a\nb" (.invalidData .node kindName)) := by
  have hsendable : ∀ n ∈ [Node.ofKey "a\nb" "bad kind"],
      n.attributes.Within entityDepth ∧ n.attributes.FloatFree :=
    List.forall_mem_singleton.2 (Node.sendable_ofKey "a\nb" "bad kind" _)
  have hrequest : writeRequest ["p", "n"] brokenBody =
      .ok ("p", ⟨[Node.ofKey "a\nb" "bad kind"], []⟩) := by
    have hlist := writeRequest_encodeList "p" hsendable
    exact hlist
  have hnames : checkNames .node "a\nb" "bad kind" = .error (.invalidData .node kindName) := by
    have hkey : "a\nb" ≠ "" := by decide
    have hkind : isKindName "bad kind" = false := by decide
    rw [checkNames, if_neg hkey, hkind, if_neg Bool.false_ne_true]
  have hcheck : (Operation.storeNode "p" (.ofKey "a\nb" "bad kind")).check =
      .error (.invalidData .node kindName) :=
    congrArg (· >>= fun _ => checkPartition "p") hnames
  have hblames : Batch.Blames ⟨[Node.ofKey "a\nb" "bad kind"], []⟩ 0
      (.invalidData .node kindName)
      (.badItem .node 1 "bad kind" "a\nb" (.invalidData .node kindName)) := .inl ⟨_, rfl, rfl⟩
  have hrejected : Batch.FirstRejected ⟨[Node.ofKey "a\nb" "bad kind"], []⟩ .post "p"
      (.badItem .node 1 "bad kind" "a\nb" (.invalidData .node kindName)) :=
    ⟨0, _, _, rfl, hcheck, fun i hi => absurd hi (Nat.not_lt_zero i), hblames⟩
  exact (answered_mutate hrequest ∅ .post).1.unique (.rejected hrejected)

/-- The message about the rejected node repeats its key, and with it the line feed. -/
theorem message_singleLine_iff_broken :
    ∃ e, (mutate (∅ : Store) .post ["p", "n"] brokenBody).answer = .error e ∧
      e.quoted = ["a\nb", "bad kind"] ∧
      (SingleLine e.message ↔ ∀ t ∈ e.quoted, SingleLine t) := by
  have hreachable : (∅ : Store).Reachable := ⟨[], rfl⟩
  have hquotes := (message_singleLine_iff hreachable ["p", "n"]).2 _ _ _ brokenBody_rejected
  exact ⟨_, brokenBody_rejected, rfl, hquotes.singleLine_iff⟩

/-- A message on two lines. -/
theorem message_two_lines :
    (∅ : Store).Reachable ∧
    ∃ e, (mutate (∅ : Store) .post ["p", "n"] brokenBody).answer = .error e ∧
      e.message = "Could not apply node #1 (key: a\nb, kind: bad kind): " ++
        "node is missing or has an invalid kind value" ∧
      ¬ SingleLine e.message := by
  have hmessage : (RequestError.badItem .node 1 "bad kind" "a\nb"
      (.invalidData .node kindName)).message =
        "Could not apply node #1 (key: a\nb, kind: bad kind): " ++
          "node is missing or has an invalid kind value" := by decide +kernel
  refine ⟨⟨[], rfl⟩, _, brokenBody_rejected, hmessage, ?_⟩
  rw [hmessage]
  decide

end Endpoint

end PropertyGraph
