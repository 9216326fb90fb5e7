import PropertyGraph.Proofs.Bodies
import PropertyGraph.Proofs.Mutations
import PropertyGraph.Proofs.Representation
import PropertyGraph.Proofs.Serializability

/-!
# What a write does to a store

A write is answered with an error and leaves the store alone, or it carries out the operations
of its batch. This module says so once, so that nothing about decoding, staging or committing
needs to be opened again.

- `Endpoint.Writes`: a write takes one store to another. This is told by the request, by the
  checks of its operations and by a run of these in place.
- `Endpoint.mutate_cases`: **all that a write can come to**.
- `Endpoint.writes_iff`: the writes that succeed are the ones that `Writes` relates.
- `Endpoint.partition?_mutate`: a write to one partition leaves all others as they were.
- `Store.Reachable.mutate`: what a write leaves, clients could have brought about as well.
-/

namespace PropertyGraph

/-- The operations of a batch without edges. -/
theorem Batch.operations_nodes (nodes : List Node) (verb : Verb) (partition : String) :
    Batch.operations ⟨nodes, []⟩ verb partition = nodes.map (verb.onNode partition) :=
  List.append_nil _

/-- Nodes with usable names pass their checks, whatever is done with them. -/
theorem Batch.accepted_of_names {partition : String} {nodes : List Node}
    (hp : isPartitionName partition = true)
    (h : ∀ n ∈ nodes, n.key ≠ "" ∧ isKindName n.kind = true) (verb : Verb) :
    Batch.Accepted ⟨nodes, []⟩ verb partition := by
  intro op hop
  rw [operations_nodes] at hop
  obtain ⟨n, hn, rfl⟩ := List.mem_map.1 hop
  have hnames : checkNames .node n.key n.kind = .ok () := checkNames_eq_ok_iff.2 (h n hn)
  have hcheck : (checkNames .node n.key n.kind >>= fun _ => checkPartition partition) = .ok () :=
    bind_eq_ok_iff.2 ⟨(), hnames, checkPartition_eq_ok_iff.2 hp⟩
  cases verb <;> exact hcheck

/-- The operations of a batch leave all partitions alone but the one that they are on. -/
theorem Batch.partition?_run {b : Batch} {verb : Verb} {partition other : String} {s t : Store}
    (h : s.run (b.operations verb partition) = .ok t) (hother : other ≠ partition) :
    t.partition? other = s.partition? other := by
  refine Store.partition?_run h fun hmem => ?_
  obtain ⟨op, hop, hp⟩ := List.mem_map.1 hmem
  exact hother (hp.symm.trans (b.partition_of_mem_operations verb partition op hop))

namespace Endpoint

variable {s t : Store} {verb : Verb} {segments : List String} {body : Bytes}
  {partition : String} {batch : Batch}

/-- The request can be read, all its operations pass their checks, and carrying them out takes
the first store to the second. -/
def Writes (s : Store) (verb : Verb) (segments : List String) (body : Bytes) (t : Store) : Prop :=
  ∃ partition batch, writeRequest segments body = .ok (partition, batch) ∧
    batch.Accepted verb partition ∧ s.run (batch.operations verb partition) = .ok t

/-- Of a request that can be read either all operations pass and are carried out, or the store
stays as it was. -/
theorem mutate_of_request (h : writeRequest segments body = .ok (partition, batch)) (s : Store)
    (verb : Verb) :
    (∃ t, batch.Accepted verb partition ∧ s.run (batch.operations verb partition) = .ok t ∧
        (mutate s verb segments body).answer = .ok .empty ∧
        (mutate s verb segments body).store = t) ∨
      (¬ batch.Accepted verb partition ∨
          ∃ e, s.run (batch.operations verb partition) = .error e) ∧
        (∃ e, (mutate s verb segments body).answer = .error e) ∧
        (mutate s verb segments body).store = s := by
  rw [mutate_eq h]
  rcases batch.apply_cases verb partition (⟨s, ∅⟩ : StoreTransaction) with
      ⟨done, op, rest, mid, reason, after, e, hops, hacc, hrej, hblames, hrun⟩ |
      ⟨mid, hacc, hafter, hfail, hok⟩
  · obtain ⟨hop, rfl⟩ := StoreTransaction.stage_error hrej
    obtain ⟨-, rfl⟩ := StoreTransaction.accepts_staged hacc
    have hnot : ¬ batch.Accepted verb partition := by
      intro hall
      have hcheck := hall op (hops ▸ List.mem_append_right _ List.mem_cons_self)
      rw [hop] at hcheck
      cases hcheck
    rw [hrun]
    exact .inr ⟨.inl hnot, ⟨e, rfl⟩, rfl⟩
  · obtain ⟨hchecked, hmid⟩ := StoreTransaction.accepts_staged hacc
    have hmid : mid = ⟨s, ⟨batch.operations verb partition⟩⟩ := hmid
    subst hmid
    have hcommit : Transaction.commit
        (⟨s, ⟨batch.operations verb partition⟩⟩ : StoreTransaction) =
        StoreTransaction.commit ⟨s, ⟨batch.operations verb partition⟩⟩ := rfl
    rw [hcommit, StoreTransaction.commit, s.commit_eq_run] at hafter hfail hok
    cases hrun : s.run (batch.operations verb partition) with
    | ok t =>
      rw [hrun] at hafter hok
      rw [hok rfl, hafter]
      exact .inl ⟨t, hchecked, rfl, rfl, rfl⟩
    | error e =>
      rw [hrun] at hafter hfail
      rw [hfail e rfl, hafter]
      exact .inr ⟨.inr ⟨e, rfl⟩, ⟨_, rfl⟩, rfl⟩

/-- **All that a write can come to**: it is carried out and answered with success, or it is
answered with an error and the store is as it was. -/
theorem mutate_cases (s : Store) (verb : Verb) (segments : List String) (body : Bytes) :
    (∃ t, Writes s verb segments body t ∧ (mutate s verb segments body).answer = .ok .empty ∧
        (mutate s verb segments body).store = t) ∨
      (∃ e, (mutate s verb segments body).answer = .error e) ∧
        (mutate s verb segments body).store = s := by
  cases h : writeRequest segments body with
  | error e =>
    have hmutate : mutate s verb segments body = ⟨.error e, s, []⟩ := by simp only [mutate, h]
    rw [hmutate]
    exact .inr ⟨⟨e, rfl⟩, rfl⟩
  | ok request =>
    obtain ⟨partition, batch⟩ := request
    rcases mutate_of_request h s verb with ⟨t, hacc, hrun, hanswer, hstore⟩ | ⟨-, herror⟩
    · exact .inl ⟨t, ⟨partition, batch, h, hacc, hrun⟩, hanswer, hstore⟩
    · exact .inr herror

/-- A write succeeds exactly if it can be carried out, and leaves the store that this gives. -/
theorem writes_iff :
    Writes s verb segments body t ↔
      (mutate s verb segments body).answer = .ok .empty ∧
        (mutate s verb segments body).store = t := by
  constructor
  · rintro ⟨partition, batch, h, hacc, hrun⟩
    rcases mutate_of_request h s verb with ⟨t', -, hrun', hanswer, hstore⟩ | ⟨hrefused, -, -⟩
    · rw [hrun] at hrun'
      cases hrun'
      exact ⟨hanswer, hstore⟩
    · rcases hrefused with hnot | ⟨e, he⟩
      · exact absurd hacc hnot
      · rw [hrun] at he
        cases he
  · rintro ⟨hanswer, hstore⟩
    rcases mutate_cases s verb segments body with ⟨t', hwrites, -, ht'⟩ | ⟨⟨e, he⟩, -⟩
    · rw [← hstore, ht']
      exact hwrites
    · rw [hanswer] at he
      cases he

/-- Whatever the answer to a successful write, it is the empty one, and the write was carried
out. -/
theorem writes_of_mutate {a : Answer} (h : (mutate s verb segments body).answer = .ok a) :
    a = .empty ∧ Writes s verb segments body (mutate s verb segments body).store := by
  rcases mutate_cases s verb segments body with ⟨t, hwrites, hanswer, hstore⟩ | ⟨⟨e, he⟩, -⟩
  · rw [hanswer] at h
    cases h
    exact ⟨rfl, hstore.symm ▸ hwrites⟩
  · rw [h] at he
    cases he

/-- A write that succeeds leaves what its operations make of the store. -/
theorem run_of_mutate {b : Batch} (h : writeRequest segments body = .ok (partition, b)) {a : Answer}
    (hok : (mutate s verb segments body).answer = .ok a) :
    s.run (b.operations verb partition) = .ok (mutate s verb segments body).store := by
  obtain ⟨-, partition', b', h', -, hrun⟩ := writes_of_mutate hok
  obtain ⟨rfl, rfl⟩ : partition = partition' ∧ b = b' := by
    simpa using h.symm.trans h'
  exact hrun

/-- A write of nodes whose body is a listing is carried out if their names are usable, and if
their attributes could stand in a body and have no numbers but integers. -/
theorem mutate_encodeList (s : Store) (verb : Verb) {partition : String}
    (hp : isPartitionName partition = true) (nodes : List Node)
    (hnames : ∀ n ∈ nodes, n.key ≠ "" ∧ isKindName n.kind = true)
    (hbody : ∀ n ∈ nodes, n.attributes.Within entityDepth ∧ n.attributes.FloatFree)
    (hrun : s.run (nodes.map (verb.onNode partition)) = .ok t) :
    let body := Utf8.encode (encodeList (nodes.map (·.attributes))).text
    (mutate s verb [partition, "n"] body).answer = .ok .empty ∧
      (mutate s verb [partition, "n"] body).store = t := by
  have hrequest := writeRequest_encodeList partition hbody
  refine writes_iff.1 ⟨partition, _, hrequest, Batch.accepted_of_names hp hnames verb, ?_⟩
  rw [Batch.operations_nodes]
  exact hrun

/-! ## Other partitions -/

theorem shape_eq_ok_iff {access : Access} {x : RequestShape} :
    shape segments access = .ok x ↔ resolve segments access = .ok x := mapError_eq_ok_iff

/-- A write is about the partition that its path names first. -/
theorem partition_of_writeRequest {name : String} {more : List String}
    (h : writeRequest (name :: more) body = .ok (partition, batch)) : partition = name := by
  obtain ⟨x, hx, h⟩ := bind_eq_ok_iff.1 h
  obtain ⟨⟨p, target⟩, htarget, h⟩ := bind_eq_ok_iff.1 h
  obtain ⟨_, -, h⟩ := bind_eq_ok_iff.1 h
  cases h
  obtain ⟨hseg, -⟩ := segments_of_resolve (shape_eq_ok_iff.1 hx)
  cases x <;> cases htarget <;> cases hseg <;> rfl

/-- A write to one partition leaves all others as they were, whatever it is answered. -/
theorem partition?_mutate (s : Store) (verb : Verb) (name : String) (more : List String)
    (body : Bytes) {other : String} (hother : other ≠ name) :
    (mutate s verb (name :: more) body).store.partition? other = s.partition? other := by
  rcases mutate_cases s verb (name :: more) body with ⟨t, hwrites, -, hstore⟩ | ⟨-, hstore⟩
  · obtain ⟨partition, batch, hrequest, -, hrun⟩ := hwrites
    obtain rfl := partition_of_writeRequest hrequest
    rw [hstore]
    exact Batch.partition?_run hrun hother
  · rw [hstore]

end Endpoint

/-! ## Writes and schedules -/

namespace Session

/-- Checked operations that are staged one after another add up in their transaction, and the
store is not touched. -/
theorem run_stages {s : Session} {name : String} {t : Staging} (ht : s.staging? name = some t)
    {items : List Operation} (hitems : ∀ op ∈ items, op.check = .ok ()) :
    (s.run (items.map (.stage name))).staging? name = some ⟨t.operations ++ items⟩ ∧
      (s.run (items.map (.stage name))).store = s.store := by
  induction items generalizing s t with
  | nil => simpa using ht
  | cons op rest ih =>
    obtain ⟨hop, hrest⟩ := List.forall_mem_cons.1 hitems
    have hopen : (s.stage name op).2.staging? name = some ⟨t.operations ++ [op]⟩ := by
      rw [staging?_stage, hop, ht]
      simp
    obtain ⟨hstaged, hstore⟩ := ih hopen hrest
    rw [List.map_cons, run_cons, step]
    exact ⟨by simpa using hstaged, hstore.trans (store_stage s name op)⟩

/-- A transaction that does everything at once leaves what its operations leave in place. -/
theorem store_run_atOnce (s : Session) (name : String) {items : List Operation}
    (hitems : ∀ op ∈ items, op.check = .ok ()) {t : Store} (ht : s.store.run items = .ok t) :
    (s.run (SessionStep.atOnce name items)).store = t := by
  have hopen : (s.begin name).staging? name = some ∅ := by rw [staging?_begin, if_pos rfl]
  obtain ⟨hstaged, hstore⟩ := run_stages hopen hitems
  have hstore : ((s.begin name).run (items.map (.stage name))).store = s.store := hstore
  rw [SessionStep.atOnce, run_cons, step, run_append, run_cons, run_nil, step,
    commit_of_open hstaged, hstore]
  have hitems' : (∅ : Staging).operations ++ items = items := rfl
  rw [hitems', StoreTransaction.commit, Store.commit_eq_run, ht]

end Session

namespace Store

/-- What checked operations leave, a transaction that commits them leaves. -/
theorem Reachable.run {s t : Store} (h : s.Reachable) {ops : List Operation}
    (hops : ∀ op ∈ ops, op.check = .ok ()) (ht : s.run ops = .ok t) : t.Reachable := by
  obtain ⟨steps, rfl⟩ := h
  refine ⟨steps ++ SessionStep.atOnce "write" ops, ?_⟩
  rw [Session.run_append]
  exact (Session.start.run steps).store_run_atOnce "write" hops ht

/-- What a write leaves, clients could have brought about by transactions. -/
theorem Reachable.mutate {s : Store} (h : s.Reachable) (verb : Verb) (segments : List String)
    (body : Bytes) : (Endpoint.mutate s verb segments body).store.Reachable := by
  rcases Endpoint.mutate_cases s verb segments body with ⟨t, hwrites, -, hstore⟩ | ⟨-, hstore⟩
  · obtain ⟨partition, batch, -, hacc, hrun⟩ := hwrites
    rw [hstore]
    exact h.run hacc hrun
  · rw [hstore]
    exact h

end Store

end PropertyGraph
