import PropertyGraph.Proofs.Batches
import PropertyGraph.Proofs.Bodies
import PropertyGraph.Proofs.Reachability
import PropertyGraph.Request.Endpoint

/-!
# What comes of a write

A write finds out step by step whether it can be carried out: each entity is checked while
it is staged, and the ends of edges are looked up while the commit works on its copy. This
module says in advance what it will find, from the request and from the store before it.

- `StoreTransaction.stage_eq`, `StoreTransaction.accepts_staged`: the check of an operation
  alone decides whether the in-memory store accepts it.
- `Partition.run`, `Store.map_run`: operations on one partition can be followed there.
- `Batch.FirstRejected`, `FirstMissing`: **the first entity that fails its check**, and **the
  first end without a node**.
- `Batch.run_cases`: a commit of checked operations fails at the first end without a node,
  and for no other reason.
- `Endpoint.mutate_outcome`: **the main statement**.
-/

namespace PropertyGraph

open Transaction (Accepts)

/-! ## Staging into the in-memory store -/

namespace StoreTransaction

/-- The check of an operation decides whether it is accepted. The store is not looked at, and
a rejected operation leaves no trace. -/
theorem stage_eq (op : Operation) (t : StoreTransaction) :
    Transaction.stage op t =
      match op.check with
      | .ok () => (.ok (), ⟨t.store, ⟨t.staging.operations ++ [op]⟩⟩)
      | .error e => (.error e, t) := by
  show StoreTransaction.stage op t = _
  simp only [stage, Staging.stage]
  cases op.check <;> rfl

theorem stage_error {op : Operation} {t after : StoreTransaction} {e : StoreFault}
    (h : Transaction.stage op t = (.error e, after)) : op.check = .error e ∧ after = t := by
  rw [stage_eq] at h
  cases hc : op.check with
  | ok _ => simp [hc] at h
  | error e' =>
    rw [hc, Prod.mk.injEq] at h
    exact ⟨h.1, h.2.symm⟩

/-- What is accepted has passed its checks and is staged in order. -/
theorem accepts_staged {t after : StoreTransaction} {ops : List Operation}
    (h : Accepts t ops after) :
    (∀ op ∈ ops, op.check = .ok ()) ∧
      after = ⟨t.store, ⟨t.staging.operations ++ ops⟩⟩ := by
  induction h with
  | nil t => simp
  | cons hop hops ih =>
    rw [stage_eq] at hop
    split at hop
    · next hc =>
      cases hop
      exact ⟨List.forall_mem_cons.2 ⟨hc, ih.1⟩, by simp [ih.2]⟩
    · cases hop

end StoreTransaction

/-! ## Operations on one partition -/

namespace Partition

/-- Carry out operations on a partition, up to the first one that is refused. -/
def run (p : Partition) (ops : List Operation) : Except StoreFault Partition := ops.foldlM apply p

@[simp] theorem run_nil (p : Partition) : p.run [] = .ok p := rfl

@[simp] theorem run_cons (p : Partition) (op : Operation) (ops : List Operation) :
    p.run (op :: ops) = p.apply op >>= fun q => q.run ops := rfl

theorem run_append (p : Partition) (xs ys : List Operation) :
    p.run (xs ++ ys) = p.run xs >>= fun q => q.run ys :=
  List.foldlM_append

end Partition

/-- Operations that are all on one partition do to the store what they do to it. -/
theorem Store.map_run (s : Store) {name : String} {ops : List Operation}
    (h : ∀ op ∈ ops, op.partition = name) :
    (s.run ops).map (·.partitionOrEmpty name) = (s.partitionOrEmpty name).run ops := by
  induction ops generalizing s with
  | nil => rfl
  | cons op rest ih =>
    obtain ⟨hop, hrest⟩ := List.forall_mem_cons.1 h
    subst hop
    rw [run_cons, Partition.run_cons]
    cases hs : s.apply op with
    | ok t =>
      rw [partitionOrEmpty_apply hs]
      exact ih t hrest
    | error e =>
      -- the operation is refused by the partition as well, for it is asked there
      rw [Store.apply] at hs
      cases hp : (s.partitionOrEmpty op.partition).apply op with
      | error e' =>
        rw [hp] at hs
        cases hs
        rfl
      | ok p =>
        rw [hp] at hs
        cases hs

/-- What a run leaves of its partition it leaves there on its own. -/
theorem Store.partitionOrEmpty_run {s t : Store} {name : String} {ops : List Operation}
    (h : ∀ op ∈ ops, op.partition = name) (hrun : s.run ops = .ok t) :
    (s.partitionOrEmpty name).run ops = .ok (t.partitionOrEmpty name) := by
  rw [← s.map_run h, hrun]
  rfl

/-- A commit of operations on one partition succeeds if they can be carried out there. If not,
it fails for the same reason, and the store is as it was. -/
theorem StoreTransaction.commit_on_partition (s : Store) {name : String} {ops : List Operation}
    (h : ∀ op ∈ ops, op.partition = name) :
    (∀ q, (s.partitionOrEmpty name).run ops = .ok q →
      (Transaction.commit (⟨s, ⟨ops⟩⟩ : StoreTransaction)).1 = .ok ()) ∧
    ∀ e, (s.partitionOrEmpty name).run ops = .error e →
      Transaction.commit (⟨s, ⟨ops⟩⟩ : StoreTransaction) = (.error e, ⟨s, ∅⟩) := by
  have hmap := s.map_run h
  have hcommit : Transaction.commit (⟨s, ⟨ops⟩⟩ : StoreTransaction) =
    StoreTransaction.commit ⟨s, ⟨ops⟩⟩ := rfl
  rw [hcommit, StoreTransaction.commit, s.commit_eq_run, ← hmap]
  cases s.run ops with
  | ok t =>
    refine ⟨fun _ _ => rfl, ?_⟩
    intro e he
    cases he
  | error e =>
    constructor
    · intro q hq
      cases hq
    · intro e' he
      cases he
      rfl

/-! ## The first entity that is rejected -/

namespace Batch

variable {b : Batch} {verb : Verb} {partition : String}

/-- All entities of the batch pass their checks. -/
def Accepted (b : Batch) (verb : Verb) (partition : String) : Prop :=
  ∀ op ∈ b.operations verb partition, op.check = .ok ()

/-- The error for the first entity of a batch, nodes before edges, that fails its check. -/
def FirstRejected (b : Batch) (verb : Verb) (partition : String) (e : RequestError) : Prop :=
  ∃ place op reason, (b.operations verb partition)[place]? = some op ∧
    op.check = .error reason ∧
    (∀ i < place, ∀ before, (b.operations verb partition)[i]? = some before →
      before.check = .ok ()) ∧
    b.Blames place reason e

theorem Blames.unique {place : Nat} {reason : StoreFault} {e e' : RequestError}
    (h : b.Blames place reason e) (h' : b.Blames place reason e') : e = e' := by
  rcases h with ⟨n, hn, rfl⟩ | ⟨i, f, hi, hf, rfl⟩
  · rcases h' with ⟨m, hm, rfl⟩ | ⟨j, g, hj, -, -⟩
    · rw [hn, Option.some.injEq] at hm
      rw [hm]
    · obtain ⟨hlt, -⟩ := List.getElem?_eq_some_iff.1 hn
      omega
  · rcases h' with ⟨m, hm, -⟩ | ⟨j, g, hj, hg, rfl⟩
    · obtain ⟨hlt, -⟩ := List.getElem?_eq_some_iff.1 hm
      omega
    · obtain rfl : i = j := by omega
      rw [hf, Option.some.injEq] at hg
      rw [hg]

theorem FirstRejected.unique {e e' : RequestError} (h : b.FirstRejected verb partition e)
    (h' : b.FirstRejected verb partition e') : e = e' := by
  obtain ⟨place, op, reason, hop, hrej, hbefore, hblames⟩ := h
  obtain ⟨place', op', reason', hop', hrej', hbefore', hblames'⟩ := h'
  -- neither place can come before the other, because all before it pass
  rcases Nat.lt_trichotomy place place' with hlt | rfl | hlt
  · rw [hbefore' place hlt op hop] at hrej
    cases hrej
  · rw [hop, Option.some.injEq] at hop'
    subst hop'
    rw [hrej, Except.error.injEq] at hrej'
    subst hrej'
    exact hblames.unique hblames'
  · rw [hbefore place' hlt op' hop'] at hrej'
    cases hrej'

theorem FirstRejected.not_accepted {e : RequestError} (h : b.FirstRejected verb partition e) :
    ¬ b.Accepted verb partition := by
  obtain ⟨place, op, reason, hop, hrej, -, -⟩ := h
  intro hacc
  rw [hacc op (List.mem_of_getElem? hop)] at hrej
  cases hrej

/-- A rejection after nothing but acceptances is the first one. -/
theorem firstRejected_of_split {done rest : List Operation} {op : Operation}
    {reason : StoreFault} {e : RequestError}
    (hops : b.operations verb partition = done ++ op :: rest)
    (hdone : ∀ before ∈ done, before.check = .ok ()) (hop : op.check = .error reason)
    (h : b.Blames done.length reason e) : b.FirstRejected verb partition e := by
  refine ⟨done.length, op, reason, by simp [hops], hop, fun i hi before hb => ?_, h⟩
  rw [hops, List.getElem?_append_left hi] at hb
  exact hdone before (List.mem_of_getElem? hb)

end Batch

/-! ## The first end without a node -/

/-- The first end of some edges that lies at no known node: edges in order, the first end of
an edge before its second. -/
inductive FirstMissing (known : NodeRef → Prop) : List Edge → NodeRef → Prop where
  | first {e : Edge} {rest : List Edge} {d : EdgeEnd} (hd : e.endpoint .first = .ok d)
      (hmissing : ¬ known d.node) : FirstMissing known (e :: rest) d.node
  | second {e : Edge} {rest : List Edge} {here d : EdgeEnd} (hhere : e.endpoint .first = .ok here)
      (hknown : known here.node) (hd : e.endpoint .second = .ok d) (hmissing : ¬ known d.node) :
      FirstMissing known (e :: rest) d.node
  | later {e : Edge} {rest : List Edge} {r : NodeRef}
      (hknown : ∀ side d, e.endpoint side = .ok d → known d.node)
      (h : FirstMissing known rest r) : FirstMissing known (e :: rest) r

/-- Every end of the edges lies at a known node. -/
def AllKnown (known : NodeRef → Prop) (edges : List Edge) : Prop :=
  ∀ e ∈ edges, ∀ side d, e.endpoint side = .ok d → known d.node

section Missing

variable {known : NodeRef → Prop} {edges : List Edge} {r r' : NodeRef}

theorem FirstMissing.not_allKnown (h : FirstMissing known edges r) : ¬ AllKnown known edges := by
  intro hall
  induction h with
  | first hd hmissing => exact hmissing (hall _ List.mem_cons_self _ _ hd)
  | second _ _ hd hmissing => exact hmissing (hall _ List.mem_cons_self _ _ hd)
  | later _ _ ih => exact ih fun e he => hall e (List.mem_cons_of_mem _ he)

theorem FirstMissing.unique (h : FirstMissing known edges r) (h' : FirstMissing known edges r') :
    r = r' := by
  induction h with
  | first hd hmissing =>
    cases h' with
    | first hd' _ => rw [Except.ok.inj (hd.symm.trans hd')]
    | second hhere hknown _ _ =>
      rw [Except.ok.inj (hd.symm.trans hhere)] at hmissing
      exact absurd hknown hmissing
    | later hknown _ => exact absurd (hknown _ _ hd) hmissing
  | second hhere hknown hd hmissing =>
    cases h' with
    | first hd' hmissing' =>
      rw [Except.ok.inj (hhere.symm.trans hd')] at hknown
      exact absurd hknown hmissing'
    | second _ _ hd' _ => rw [Except.ok.inj (hd.symm.trans hd')]
    | later hknown' _ => exact absurd (hknown' _ _ hd) hmissing
  | later hknown h ih =>
    cases h' with
    | first hd' hmissing' => exact absurd (hknown _ _ hd') hmissing'
    | second _ _ hd' hmissing' => exact absurd (hknown _ _ hd') hmissing'
    | later _ h' => exact ih h'

end Missing

namespace Partition

variable {p q : Partition}

/-- Storing edges fails at the first end without a node, and for no other reason: no edge
adds or takes a node. -/
theorem run_storeEdges {edges : List Edge} (name : String)
    (hends : ∀ e ∈ edges, ∀ side, ∃ d, e.endpoint side = .ok d) :
    (AllKnown p.Stores edges ∧ ∃ q, p.run (edges.map (.storeEdge name)) = .ok q) ∨
      ∃ r, FirstMissing p.Stores edges r ∧
        p.run (edges.map (.storeEdge name)) = .error (.missingEndpoint r.key r.kind) := by
  -- for all partitions at once, because each edge is stored in one that holds those before it
  induction edges generalizing p with
  | nil => exact .inl ⟨List.forall_mem_nil _, p, rfl⟩
  | cons e rest ih =>
    obtain ⟨he, hrest⟩ := List.forall_mem_cons.1 hends
    obtain ⟨d₁, h₁⟩ := he .first
    obtain ⟨d₂, h₂⟩ := he .second
    have hstep : p.apply (.storeEdge name e) = p.linkEdge e := rfl
    rw [List.map_cons, run_cons, hstep, linkEdge, checkEndpoint, checkEndpoint, h₁, h₂]
    by_cases hk₁ : (p.node? d₁.key d₁.kind).isSome
    · by_cases hk₂ : (p.node? d₂.key d₂.kind).isSome
      · have hknown : ∀ side d, e.endpoint side = .ok d → p.Stores d.node := by
          intro side d hd
          cases side with
          | first => exact Except.ok.inj (h₁.symm.trans hd) ▸ hk₁
          | second => exact Except.ok.inj (h₂.symm.trans hd) ▸ hk₂
        simp only [bind, Except.bind, hk₁, hk₂, if_true]
        rcases ih (p := p.putEdge e) hrest with ⟨hall, q, hq⟩ | ⟨r, hr, hq⟩
        · exact .inl ⟨List.forall_mem_cons.2 ⟨hknown, hall⟩, q, hq⟩
        · exact .inr ⟨r, .later hknown hr, hq⟩
      · refine .inr ⟨d₂.node, .second h₁ hk₁ h₂ hk₂, ?_⟩
        simp [bind, Except.bind, hk₁, hk₂, EdgeEnd.node]
    · refine .inr ⟨d₁.node, .first h₁ hk₁, ?_⟩
      simp [bind, Except.bind, hk₁, EdgeEnd.node]

/-- Putting a node, merged or not, makes it known and forgets none. -/
theorem apply_onNode (p : Partition) (verb : Verb) (name : String) (n : Node) :
    ∃ q, p.apply (verb.onNode name n) = .ok q ∧
      (verb ≠ .delete → ∀ r, q.Stores r ↔ p.Stores r ∨ n.key = r.key ∧ n.kind = r.kind) := by
  cases verb with
  | put =>
    refine ⟨p.mergeNode n, rfl, fun _ r => ?_⟩
    rw [Stores, node?_mergeNode, Stores]
    split <;> simp [*]
  | post =>
    refine ⟨p.putNode n, rfl, fun _ r => ?_⟩
    rw [Stores, node?_putNode, Stores]
    split <;> simp [*]
  | delete => exact ⟨p.removeNode n.key n.kind, rfl, fun h => absurd rfl h⟩

theorem run_onNodes (p : Partition) (verb : Verb) (name : String) (nodes : List Node) :
    ∃ q, p.run (nodes.map (verb.onNode name)) = .ok q ∧
      (verb ≠ .delete → ∀ r, q.Stores r ↔
        p.Stores r ∨ ∃ n ∈ nodes, n.key = r.key ∧ n.kind = r.kind) := by
  induction nodes generalizing p with
  | nil => exact ⟨p, rfl, fun _ r => by simp⟩
  | cons n rest ih =>
    obtain ⟨mid, hmid, hn⟩ := p.apply_onNode verb name n
    obtain ⟨q, hq, hrest⟩ := ih mid
    refine ⟨q, ?_, fun hverb r => ?_⟩
    · rw [List.map_cons, run_cons, hmid]
      exact hq
    · simp only [hrest hverb, hn hverb, List.mem_cons, exists_eq_or_imp, or_assoc]

theorem run_removeEdges (p : Partition) (name : String) (edges : List Edge) :
    ∃ q, p.run (edges.map (Verb.delete.onEdge name)) = .ok q := by
  induction edges generalizing p with
  | nil => exact ⟨p, rfl⟩
  | cons e rest ih => exact ih (p.eraseEdge e.key e.kind)

end Partition

/-! ## Commits of checked batches -/

namespace Batch

variable {b : Batch} {verb : Verb} {partition : String} {p : Partition}

/-- The edges of a batch may end at stored nodes and at nodes of the batch. -/
def Provides (b : Batch) (p : Partition) (r : NodeRef) : Prop :=
  p.Stores r ∨ ∃ n ∈ b.nodes, n.key = r.key ∧ n.kind = r.kind

theorem partition_of_mem_operations (b : Batch) (verb : Verb) (partition : String) :
    ∀ op ∈ b.operations verb partition, op.partition = partition := by
  intro op hop
  rcases List.mem_append.1 hop with hop | hop
  · obtain ⟨n, -, rfl⟩ := List.mem_map.1 hop
    cases verb <;> rfl
  · obtain ⟨e, -, rfl⟩ := List.mem_map.1 hop
    cases verb <;> rfl

/-- An edge that passes its check has two readable ends. -/
theorem endpoint_of_check {name : String} {e : Edge}
    (h : (Operation.storeEdge name e).check = .ok ()) (side : EndSide) :
    ∃ d, e.endpoint side = .ok d := by
  obtain ⟨_, he, -⟩ := bind_eq_ok_iff.1 h
  obtain ⟨_, -, he⟩ := bind_eq_ok_iff.1 he
  obtain ⟨d₁, h₁, he⟩ := bind_eq_ok_iff.1 he
  obtain ⟨d₂, h₂, -⟩ := bind_eq_ok_iff.1 he
  cases side with
  | first => exact ⟨d₁, h₁⟩
  | second => exact ⟨d₂, h₂⟩

/-- **Carrying out a checked batch** fails exactly if it stores an edge with an end that lies
neither at a node of the batch nor at one that was stored before. -/
theorem run_cases (p : Partition) (hacc : b.Accepted verb partition) :
    ((verb = .delete ∨ AllKnown (b.Provides p) b.edges) ∧
        ∃ q, p.run (b.operations verb partition) = .ok q) ∨
      verb ≠ .delete ∧ ∃ r, FirstMissing (b.Provides p) b.edges r ∧
        p.run (b.operations verb partition) = .error (.missingEndpoint r.key r.kind) := by
  obtain ⟨mid, hmid, hknown⟩ := p.run_onNodes verb partition b.nodes
  have hrun : p.run (b.operations verb partition) =
      mid.run (b.edges.map (verb.onEdge partition)) := by
    rw [operations, Partition.run_append, hmid]
    rfl
  rw [hrun]
  by_cases hverb : verb = .delete
  · subst hverb
    exact .inl ⟨.inl rfl, mid.run_removeEdges partition b.edges⟩
  · -- once the nodes are there, the copy stores just what the batch provides
    have hstores : mid.Stores = b.Provides p := funext fun r => propext (hknown hverb r)
    have hedge : verb.onEdge partition = .storeEdge partition := by
      cases verb with
      | put => rfl
      | post => rfl
      | delete => exact absurd rfl hverb
    have hends : ∀ e ∈ b.edges, ∀ side, ∃ d, e.endpoint side = .ok d := by
      intro e he
      have hmem : Operation.storeEdge partition e ∈ b.operations verb partition :=
        List.mem_append_right _ (List.mem_map.2 ⟨e, he, by rw [hedge]⟩)
      exact endpoint_of_check (hacc _ hmem)
    rw [hedge, ← hstores]
    rcases mid.run_storeEdges partition hends with ⟨hall, hq⟩ | hr
    · exact .inl ⟨.inr hall, hq⟩
    · exact .inr ⟨hverb, hr⟩

/-- What a write answers, told from its batch and the partition as it was before. -/
inductive Answered (b : Batch) (verb : Verb) (partition : String) (p : Partition) :
    Except RequestError Answer → Prop where
  /-- An entity fails its check. -/
  | rejected {e : RequestError} (h : b.FirstRejected verb partition e) :
      Answered b verb partition p (.error e)
  /-- All entities pass, but an edge is to be stored with an end at no node. -/
  | unlinked {r : NodeRef} (hacc : b.Accepted verb partition) (hverb : verb ≠ .delete)
      (h : FirstMissing (b.Provides p) b.edges r) :
      Answered b verb partition p (.error (.commitFailure (.missingEndpoint r.key r.kind)))
  /-- All entities pass, and edges are removed or have both ends at nodes. -/
  | done (hacc : b.Accepted verb partition)
      (h : verb = .delete ∨ AllKnown (b.Provides p) b.edges) :
      Answered b verb partition p (.ok .empty)

/-- The three cases exclude each other, and each leaves one answer. -/
theorem Answered.unique {a a' : Except RequestError Answer}
    (h : b.Answered verb partition p a) (h' : b.Answered verb partition p a') : a = a' := by
  cases h with
  | rejected hrej =>
    cases h' with
    | rejected hrej' => rw [hrej.unique hrej']
    | unlinked hacc _ _ => exact absurd hacc hrej.not_accepted
    | done hacc _ => exact absurd hacc hrej.not_accepted
  | unlinked hacc hverb hmissing =>
    cases h' with
    | rejected hrej => exact absurd hacc hrej.not_accepted
    | unlinked _ _ hmissing' => rw [hmissing.unique hmissing']
    | done _ hdone => exact absurd hdone (not_or.2 ⟨hverb, hmissing.not_allKnown⟩)
  | done hacc hdone =>
    cases h' with
    | rejected hrej => exact absurd hacc hrej.not_accepted
    | unlinked _ hverb hmissing => exact absurd hdone (not_or.2 ⟨hverb, hmissing.not_allKnown⟩)
    | done _ _ => rfl

/-- Once all entities pass, the ends of edges that are stored decide. -/
theorem Answered.isError_iff {a : Except RequestError Answer}
    (h : b.Answered verb partition p a) (hacc : b.Accepted verb partition) :
    (∃ e, a = .error e) ↔ verb ≠ .delete ∧
      ∃ f ∈ b.edges, ∃ side d, f.endpoint side = .ok d ∧ ¬ b.Provides p d.node := by
  cases h with
  | rejected hrej => exact absurd hacc hrej.not_accepted
  | unlinked _ hverb hmissing =>
    have hend := hmissing.not_allKnown
    simp only [AllKnown, Classical.not_forall, exists_prop] at hend
    exact ⟨fun _ => ⟨hverb, hend⟩, fun _ => ⟨_, rfl⟩⟩
  | done _ hdone =>
    constructor
    · rintro ⟨e, he⟩
      cases he
    · rintro ⟨hverb, f, hf, side, d, hd, hmissing⟩
      exact absurd (hdone.resolve_left hverb f hf side d hd) hmissing

end Batch

/-! ## The main statement -/

namespace Endpoint

/-- What a write whose body is decoded does to a store. -/
theorem mutate_eq {segments : List String} {body : Bytes} {partition : String} {batch : Batch}
    (h : writeRequest segments body = .ok (partition, batch)) (s : Store) (verb : Verb) :
    mutate s verb segments body =
      ⟨(batch.apply verb partition (⟨s, ∅⟩ : StoreTransaction)).result.map fun _ => .empty,
        (batch.apply verb partition (⟨s, ∅⟩ : StoreTransaction)).transaction.store,
        (batch.apply verb partition (⟨s, ∅⟩ : StoreTransaction)).events⟩ := by
  simp only [mutate, h]
  rfl

/-- The answer is the one that was foretold, and with an error the store is as it was. -/
theorem answered_mutate {segments : List String} {body : Bytes} {partition : String}
    {batch : Batch} (h : writeRequest segments body = .ok (partition, batch)) (s : Store)
    (verb : Verb) :
    batch.Answered verb partition (s.partitionOrEmpty partition)
        (mutate s verb segments body).answer ∧
      ∀ e, (mutate s verb segments body).answer = .error e →
        (mutate s verb segments body).store = s := by
  rw [mutate_eq h]
  rcases batch.apply_cases verb partition (⟨s, ∅⟩ : StoreTransaction) with
      ⟨done, op, rest, mid, reason, after, e, hops, hacc, hrej, hblames, hrun⟩ |
      ⟨mid, hacc, hafter, hfail, hok⟩
  · obtain ⟨hdone, rfl⟩ := StoreTransaction.accepts_staged hacc
    obtain ⟨hop, rfl⟩ := StoreTransaction.stage_error hrej
    rw [hrun]
    exact ⟨.rejected (Batch.firstRejected_of_split hops hdone hop hblames), fun _ _ => rfl⟩
  · obtain ⟨hchecked, hmid⟩ := StoreTransaction.accepts_staged hacc
    have hmid : mid = ⟨s, ⟨batch.operations verb partition⟩⟩ := hmid
    subst hmid
    obtain ⟨hcommitted, hrefused⟩ := StoreTransaction.commit_on_partition s
      (batch.partition_of_mem_operations verb partition)
    rcases Batch.run_cases (s.partitionOrEmpty partition) hchecked with
        ⟨hdone, q, hq⟩ | ⟨hverb, r, hr, hq⟩
    · rw [hok (hcommitted q hq)]
      exact ⟨.done hchecked hdone, fun e he => by cases he⟩
    · have hend := hrefused _ hq
      rw [hfail _ (congrArg Prod.fst hend), hafter, hend]
      exact ⟨.unlinked hchecked hverb hr, fun _ _ => rfl⟩

/-- **The outcome of a write** can be told from the request and the store before it. Take any
store and any write whose path names a partition and whose body decodes to a batch. The
answer is the one that `Batch.Answered` foretells, and that is only one: the first entity
that fails its check; else, unless the request deletes, the first end of an edge without a
node; else success. So once all entities pass, the write fails exactly if it stores an edge
that has an end neither at a node that was stored before nor at one of the batch. With an
error of any kind the store is as it was. -/
theorem mutate_outcome {segments : List String} {body : Bytes} {partition : String}
    {batch : Batch} (h : writeRequest segments body = .ok (partition, batch)) (s : Store)
    (verb : Verb) :
    (∀ a, (mutate s verb segments body).answer = a ↔
      batch.Answered verb partition (s.partitionOrEmpty partition) a) ∧
    (batch.Accepted verb partition → ((∃ e, (mutate s verb segments body).answer = .error e) ↔
      verb ≠ .delete ∧ ∃ f ∈ batch.edges, ∃ side d, f.endpoint side = .ok d ∧
        ¬ batch.Provides (s.partitionOrEmpty partition) d.node)) ∧
    ∀ e, (mutate s verb segments body).answer = .error e →
      (mutate s verb segments body).store = s := by
  obtain ⟨hanswered, hstore⟩ := answered_mutate h s verb
  refine ⟨fun a => ⟨?_, hanswered.unique⟩, fun hacc => ?_, hstore⟩
  · rintro rfl
    exact hanswered
  · exact hanswered.isError_iff hacc

/-- A store with a single person. -/
def aloneSchedule : List SessionStep :=
  [.begin "t", .stage "t" (.storeNode "main" (.ofKey "1" "Person")), .commit "t"]

/-- An edge from one person to another. -/
def knows (key knower known : String) : Edge :=
  .ofEnds key "Knows" ⟨knower, "Person", "knower", false⟩ ⟨known, "Person", "known", false⟩

/-- Edges between the first person and a second one, to a third and from a fourth. -/
def acquaintances : List Edge := [knows "a" "1" "2", knows "b" "2" "3", knows "c" "4" "1"]

/-- The second person, with edges. -/
def acquainting (edges : List Edge) : Batch := ⟨[.ofKey "2" "Person"], edges⟩

theorem acquaintances_sendable : ∀ e ∈ acquaintances ++ [⟨∅⟩],
    e.attributes.Within (entityDepth - 1) ∧ e.attributes.FloatFree := by
  have hknows : ∀ key knower known, (knows key knower known).attributes.Within (entityDepth - 1) ∧
      (knows key knower known).attributes.FloatFree :=
    fun _ _ _ => Edge.sendable_ofEnds _ _ _ _ _
  refine List.forall_mem_append.2 ⟨?_, List.forall_mem_singleton.2
    ⟨Attributes.within_empty, Attributes.floatFree_empty⟩⟩
  exact List.forall_mem_cons.2 ⟨hknows _ _ _, List.forall_mem_cons.2 ⟨hknows _ _ _,
    List.forall_mem_singleton.2 (hknows _ _ _)⟩⟩

theorem writeRequest_acquainting {edges : List Edge} (h : edges ⊆ acquaintances ++ [⟨∅⟩]) :
    writeRequest ["main"] (Utf8.encode (encodeBatch (acquainting edges)).text) =
      .ok ("main", acquainting edges) :=
  writeRequest_encodeBatch "main"
    (List.forall_mem_singleton.2 (Node.sendable_ofKey "2" "Person" _))
    fun e he => acquaintances_sendable e (h he)

theorem acquainting_accepted (verb : Verb) : (acquainting acquaintances).Accepted verb "main" := by
  cases verb <;> exact List.forall_mem_cons.2 ⟨rfl, List.forall_mem_cons.2 ⟨rfl,
    List.forall_mem_cons.2 ⟨rfl, List.forall_mem_singleton.2 rfl⟩⟩⟩

section Acquainting

variable (edges : List Edge)

/-- The nodes at which edges to be stored may end. -/
abbrev Acquainted : NodeRef → Prop :=
  (acquainting edges).Provides ((Session.start.run aloneSchedule).store.partitionOrEmpty "main")

theorem acquainted_first : Acquainted edges ⟨"1", "Person"⟩ := .inl rfl

theorem acquainted_second : Acquainted edges ⟨"2", "Person"⟩ :=
  .inr ⟨_, List.mem_singleton_self _, rfl, rfl⟩

theorem not_acquainted_third : ¬ Acquainted edges ⟨"3", "Person"⟩ := by
  rintro (hstored | ⟨n, hn, hkey, -⟩)
  · cases hstored
  · obtain rfl := List.mem_singleton.1 hn
    exact absurd hkey (by decide)

theorem acquainted_ends (side : EndSide) (d : EdgeEnd)
    (hd : (knows "a" "1" "2").endpoint side = .ok d) : Acquainted edges d.node := by
  cases side with
  | first =>
    obtain rfl : (⟨"1", "Person", "knower", false⟩ : EdgeEnd) = d := Except.ok.inj hd
    exact acquainted_first edges
  | second =>
    obtain rfl : (⟨"2", "Person", "known", false⟩ : EdgeEnd) = d := Except.ok.inj hd
    exact acquainted_second edges

end Acquainting

/-- A body brings a second person and edges to them, to a third and from a fourth. It fails at the
second end of the second edge, where nobody is, and the store is as it was. With an edge without a
name at the end this edge is told instead, by its place. The first edge alone can be stored, and
all of them can be deleted. -/
theorem mutate_outcome_unlinked :
    let s := (Session.start.run aloneSchedule).store
    let body edges := Utf8.encode (encodeBatch (acquainting edges)).text
    (mutate s .post ["main"] (body acquaintances)).answer =
        .error (.commitFailure (.missingEndpoint "3" "Person")) ∧
      (mutate s .post ["main"] (body acquaintances)).store = s ∧
      (mutate s .post ["main"] (body (acquaintances ++ [⟨∅⟩]))).answer =
        .error (.badItem .edge 4 "" "" (.invalidData .edge keyName)) ∧
      (mutate s .post ["main"] (body (acquaintances ++ [⟨∅⟩]))).store = s ∧
      (mutate s .post ["main"] (body (acquaintances.take 1))).answer = .ok .empty ∧
      (mutate s .delete ["main"] (body acquaintances)).answer = .ok .empty := by
  intro s body
  have hmissing : FirstMissing (Acquainted acquaintances) acquaintances ⟨"3", "Person"⟩ :=
    .later (acquainted_ends _) (.second (d := ⟨"3", "Person", "known", false⟩) rfl
      (acquainted_second _) rfl (not_acquainted_third _))
  have hops : (acquainting (acquaintances ++ [⟨∅⟩])).operations .post "main" =
      (acquainting acquaintances).operations .post "main" ++ [.storeEdge "main" ⟨∅⟩] := rfl
  have hrejected : (acquainting (acquaintances ++ [⟨∅⟩])).FirstRejected .post "main"
      (.badItem .edge 4 "" "" (.invalidData .edge keyName)) :=
    Batch.firstRejected_of_split hops (acquainting_accepted .post) rfl
      (.inr ⟨3, ⟨∅⟩, rfl, rfl, rfl⟩)
  have hlinked : AllKnown (Acquainted (acquaintances.take 1)) (acquaintances.take 1) :=
    List.forall_mem_singleton.2 (acquainted_ends _)
  have hall := writeRequest_acquainting (List.subset_append_left acquaintances [⟨∅⟩])
  have hnameless := writeRequest_acquainting (List.Subset.refl (acquaintances ++ [⟨∅⟩]))
  have hone := writeRequest_acquainting (List.Subset.trans (List.take_subset 1 acquaintances)
    (List.subset_append_left acquaintances [⟨∅⟩]))
  obtain ⟨hanswer, -, hkept⟩ := mutate_outcome hall s .post
  obtain ⟨hanswer', -, hkept'⟩ := mutate_outcome hnameless s .post
  have hunlinked := (hanswer _).2 (.unlinked (acquainting_accepted .post) (by decide) hmissing)
  have hbad := (hanswer' _).2 (.rejected hrejected)
  refine ⟨hunlinked, hkept _ hunlinked, hbad, hkept' _ hbad, ?_, ?_⟩
  · have haccepted : (acquainting (acquaintances.take 1)).Accepted .post "main" :=
      List.forall_mem_cons.2 ⟨rfl, List.forall_mem_singleton.2 rfl⟩
    exact ((mutate_outcome hone s .post).1 _).2 (.done haccepted (.inr hlinked))
  · exact ((mutate_outcome hall s .delete).1 _).2
      (.done (acquainting_accepted .delete) (.inl rfl))

end Endpoint

end PropertyGraph
