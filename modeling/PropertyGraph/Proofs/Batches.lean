import PropertyGraph.Request.Batch

/-!
# Batches against any transaction

A batch does not know its transaction: which operations are accepted may depend on anything
that was staged before, and a rejected one may change the state all the same. This module
says what a batch does whatever the transaction is like.

- `Verb.onNode`, `Verb.onEdge`, `Batch.operations`: the operations that a batch asks for.
- `Transaction.Accepts`: a transaction accepts operations one after another. This is told
  apart from how batches stage, by the transaction alone.
- `Batch.apply_cases`: **what comes of a batch**: the first rejection ends it, or it is
  committed.
- `Recorded`: a transaction that keeps a record of the calls made on it, as a transaction of
  its own; batches cannot tell it from the plain one.
- `Batch.apply_protocol`: **the main statement**.
-/

namespace PropertyGraph

/-! ## What a batch asks for -/

namespace Verb

/-- The operation that a verb asks for on a node. -/
def onNode (v : Verb) (partition : String) (n : Node) : Operation :=
  match v with
  | .put => .updateNode partition n
  | .post => .storeNode partition n
  | .delete => .removeNode partition n.key n.kind

/-- The operation that a verb asks for on an edge. -/
def onEdge (v : Verb) (partition : String) (e : Edge) : Operation :=
  match v with
  | .put => .storeEdge partition e
  | .post => .storeEdge partition e
  | .delete => .removeEdge partition e.key e.kind

theorem nodeOperation_nodeStrategy (v : Verb) (partition : String) (n : Node) :
    v.nodeStrategy.nodeOperation partition n = v.onNode partition n := by
  cases v <;> rfl

theorem edgeOperation_edgeStrategy (v : Verb) (partition : String) (e : Edge) :
    v.edgeStrategy.edgeOperation partition e = v.onEdge partition e := by
  cases v <;> rfl

end Verb

namespace Batch

variable {b : Batch} {verb : Verb} {partition : String}

/-- The operations of a batch in the order of staging: nodes before edges, both in the order
of the request. -/
def operations (b : Batch) (verb : Verb) (partition : String) : List Operation :=
  b.nodes.map (verb.onNode partition) ++ b.edges.map (verb.onEdge partition)

/-- The error says that the operation at a place was rejected: it names the sort of the
entity there, its place among the entities of that sort, counted from one, its kind and its
key, and the reason. -/
def Blames (b : Batch) (place : Nat) (reason : StoreFault) (e : RequestError) : Prop :=
  (∃ n, b.nodes[place]? = some n ∧ e = .badItem .node (place + 1) n.kind n.key reason) ∨
    ∃ i f, place = b.nodes.length + i ∧ b.edges[i]? = some f ∧
      e = .badItem .edge (i + 1) f.kind f.key reason

theorem map_operation_items (b : Batch) (verb : Verb) (partition : String) :
    (b.items verb partition).map (·.operation) = b.operations verb partition := by
  have hnodes : (b.nodeItems verb partition).map (·.operation) =
      (b.nodes.zipIdx.map (·.1)).map (verb.onNode partition) := by
    rw [nodeItems, List.map_map, List.map_map]
    exact List.map_congr_left fun x _ => verb.nodeOperation_nodeStrategy partition x.1
  have hedges : (b.edgeItems verb partition).map (·.operation) =
      (b.edges.zipIdx.map (·.1)).map (verb.onEdge partition) := by
    rw [edgeItems, List.map_map, List.map_map]
    exact List.map_congr_left fun x _ => verb.edgeOperation_edgeStrategy partition x.1
  rw [items, List.map_append, hnodes, hedges, List.zipIdx_map_fst, List.zipIdx_map_fst, operations]

theorem blames_of_getElem?_items {place : Nat} {i : BatchItem}
    (h : (b.items verb partition)[place]? = some i) (reason : StoreFault) :
    b.Blames place reason (i.rejected reason) := by
  have hlen : (b.nodeItems verb partition).length = b.nodes.length := by simp [nodeItems]
  rw [items, List.getElem?_append, hlen] at h
  split at h
  · simp only [nodeItems, List.getElem?_map, List.getElem?_zipIdx, Option.map_eq_some_iff] at h
    obtain ⟨_, ⟨n, hn, rfl⟩, rfl⟩ := h
    exact .inl ⟨n, hn, by simp [BatchItem.rejected]⟩
  · next hge =>
    simp only [edgeItems, List.getElem?_map, List.getElem?_zipIdx, Option.map_eq_some_iff] at h
    obtain ⟨_, ⟨f, hf, rfl⟩, rfl⟩ := h
    exact .inr ⟨_, f, by omega, hf, by simp [BatchItem.rejected]⟩

end Batch

/-! ## What a transaction accepts -/

section AnyTransaction

variable {τ : Type} [Transaction τ]

/-- A transaction accepts operations one after another, each in the state that those before
it left. -/
inductive Transaction.Accepts : τ → List Operation → τ → Prop where
  | nil (t : τ) : Accepts t [] t
  | cons {t mid after : τ} {op : Operation} {ops : List Operation}
      (hop : Transaction.stage op t = (.ok (), mid)) (hops : Accepts mid ops after) :
      Accepts t (op :: ops) after

open Transaction (Accepts)

/-- Staging accepts all items, or it ends at the first one that is rejected. -/
theorem stageItems_cases (t : τ) (items : List BatchItem) :
    (∃ after, Accepts t (items.map (·.operation)) after ∧
      stageItems t items = (.ok (), after)) ∨
    ∃ done i rest mid reason after, items = done ++ i :: rest ∧
      Accepts t (done.map (·.operation)) mid ∧
      Transaction.stage i.operation mid = (.error reason, after) ∧
      stageItems t items = (.error (i.rejected reason), after) := by
  -- the first item is rejected, or whatever comes of the others comes after it
  induction items generalizing t with
  | nil => exact .inl ⟨t, .nil t, rfl⟩
  | cons i rest ih =>
    rw [stageItems]
    rcases hstage : Transaction.stage i.operation t with ⟨result, next⟩
    cases result with
    | error reason => exact .inr ⟨[], i, rest, t, reason, next, rfl, .nil t, hstage, rfl⟩
    | ok _ =>
      rcases ih next with ⟨after, hacc, hrun⟩ |
          ⟨done, j, rest', mid, reason, after, rfl, hacc, hrej, hrun⟩
      · exact .inl ⟨after, .cons hstage hacc, hrun⟩
      · exact .inr ⟨i :: done, j, rest', mid, reason, after, rfl, .cons hstage hacc, hrej, hrun⟩

namespace Batch

/-- **What comes of a batch.** An operation is rejected after all before it were accepted,
and the transaction is left there; or all are accepted, and the commit decides. -/
theorem apply_cases (b : Batch) (verb : Verb) (partition : String) (t : τ) :
    (∃ done op rest mid reason after e, b.operations verb partition = done ++ op :: rest ∧
      Accepts t done mid ∧ Transaction.stage op mid = (.error reason, after) ∧
      b.Blames done.length reason e ∧ b.apply verb partition t = ⟨.error e, after, []⟩) ∨
    ∃ mid, Accepts t (b.operations verb partition) mid ∧
      (b.apply verb partition t).transaction = (Transaction.commit mid).2 ∧
      (∀ reason, (Transaction.commit mid).1 = .error reason →
        (b.apply verb partition t).result = .error (.commitFailure reason)) ∧
      ((Transaction.commit mid).1 = .ok () → (b.apply verb partition t).result = .ok b.outcome) := by
  rcases stageItems_cases t (b.items verb partition) with ⟨mid, hacc, hrun⟩ |
      ⟨done, i, rest, mid, reason, after, hitems, hacc, hrej, hrun⟩
  · refine .inr ⟨mid, map_operation_items b verb partition ▸ hacc, ?_⟩
    simp only [apply, stage, hrun]
    obtain ⟨result, after⟩ := Transaction.commit mid
    cases result <;> simp
  · have hops : b.operations verb partition =
        done.map (·.operation) ++ i.operation :: rest.map (·.operation) := by
      rw [← map_operation_items, hitems, List.map_append, List.map_cons]
    have hplace : (b.items verb partition)[done.length]? = some i := by simp [hitems]
    refine .inl ⟨_, _, _, mid, reason, after, i.rejected reason, hops, hacc, hrej, ?_, ?_⟩
    · rw [List.length_map]
      exact blames_of_getElem?_items hplace reason
    · simp only [apply, stage, hrun]

end Batch

/-! ## Recording the calls -/

/-- Something that is asked of a transaction. -/
inductive TransactionCall where
  | stage (op : Operation)
  | commit

/-- A transaction with a record of what was asked of it, in order. -/
structure Recorded (τ : Type) where
  inner : τ
  calls : List TransactionCall

namespace Recorded

/-- Nothing has been asked yet. -/
def start (t : τ) : Recorded τ := ⟨t, []⟩

instance : Transaction (Recorded τ) where
  stage op r :=
    ((Transaction.stage op r.inner).1,
      ⟨(Transaction.stage op r.inner).2, r.calls ++ [.stage op]⟩)
  commit r := ((Transaction.commit r.inner).1, ⟨(Transaction.commit r.inner).2, r.calls ++ [.commit]⟩)
  receipt r := Transaction.receipt r.inner

theorem stage_eq (op : Operation) (r : Recorded τ) :
    Transaction.stage op r =
      ((Transaction.stage op r.inner).1,
        ⟨(Transaction.stage op r.inner).2, r.calls ++ [.stage op]⟩) := rfl

theorem commit_eq (r : Recorded τ) :
    Transaction.commit r =
      ((Transaction.commit r.inner).1,
        ⟨(Transaction.commit r.inner).2, r.calls ++ [.commit]⟩) := rfl

/-- What is accepted is accepted by the transaction inside, and on record. -/
theorem accepts_inner {r after : Recorded τ} {ops : List Operation} (h : Accepts r ops after) :
    Accepts r.inner ops after.inner ∧ after.calls = r.calls ++ ops.map .stage := by
  induction h with
  | nil r => exact ⟨.nil _, by simp⟩
  | cons hop hops ih =>
    rw [stage_eq, Prod.mk.injEq] at hop
    obtain ⟨hok, rfl⟩ := hop
    exact ⟨.cons (Prod.ext hok rfl) ih.1, by simp [ih.2]⟩

/-- Keeping a record changes nothing for those who stage. -/
theorem stageItems_inner (r : Recorded τ) (items : List BatchItem) :
    (stageItems r items).1 = (stageItems r.inner items).1 ∧
      (stageItems r items).2.inner = (stageItems r.inner items).2 := by
  induction items generalizing r with
  | nil => exact ⟨rfl, rfl⟩
  | cons i rest ih =>
    rw [stageItems, stageItems, stage_eq]
    obtain ⟨result, next⟩ := Transaction.stage i.operation r.inner
    cases result with
    | error reason => exact ⟨rfl, rfl⟩
    | ok _ => exact ih ⟨next, r.calls ++ [.stage i.operation]⟩

/-- Keeping a record changes nothing for a batch. -/
theorem apply_inner (r : Recorded τ) (b : Batch) (verb : Verb) (partition : String) :
    (b.apply verb partition r).result = (b.apply verb partition r.inner).result ∧
      (b.apply verb partition r).transaction.inner =
        (b.apply verb partition r.inner).transaction := by
  obtain ⟨hresult, hinner⟩ := stageItems_inner r (b.items verb partition)
  simp only [Batch.apply, Batch.stage]
  generalize stageItems r (b.items verb partition) = recorded at hresult hinner ⊢
  generalize stageItems r.inner (b.items verb partition) = plain at hresult hinner ⊢
  obtain ⟨result, after⟩ := recorded
  obtain ⟨_, _⟩ := plain
  obtain rfl := hresult
  obtain rfl := hinner
  cases result with
  | error e => exact ⟨rfl, rfl⟩
  | ok _ =>
    simp only [commit_eq]
    obtain ⟨committed, last⟩ := Transaction.commit after.inner
    cases committed <;> exact ⟨rfl, rfl⟩

end Recorded

/-! ## The main statement -/

/-- **Batches keep to one protocol with every transaction.** Whatever a transaction accepts,
one that keeps a record of the calls gets the same answer and is left in the same state, and
its record is one of two.

- An operation was rejected: on record are the operations before it, which were all accepted,
  then this one, and nothing else, so nothing was committed. The answer names the entity by
  sort, place, kind and key, with the reason that the transaction gave.
- None was rejected: on record are all operations, nodes before edges, then one commit. The
  answer is the reason of its failure, or the counts of nodes and edges. -/
theorem Batch.apply_protocol (b : Batch) (verb : Verb) (partition : String) (t : τ) :
    let run := b.apply verb partition (Recorded.start t)
    (run.result = (b.apply verb partition t).result ∧
      run.transaction.inner = (b.apply verb partition t).transaction) ∧
    ((∃ done op rest mid reason after e, b.operations verb partition = done ++ op :: rest ∧
        Accepts t done mid ∧ Transaction.stage op mid = (.error reason, after) ∧
        run.transaction = ⟨after, (done ++ [op]).map .stage⟩ ∧
        b.Blames done.length reason e ∧ run.result = .error e) ∨
      ∃ mid, Accepts t (b.operations verb partition) mid ∧
        run.transaction =
          ⟨(Transaction.commit mid).2, (b.operations verb partition).map .stage ++ [.commit]⟩ ∧
        (∀ reason, (Transaction.commit mid).1 = .error reason →
          run.result = .error (.commitFailure reason)) ∧
        ((Transaction.commit mid).1 = .ok () →
          run.result = .ok ⟨b.nodes.length, b.edges.length⟩)) := by
  intro run
  refine ⟨Recorded.apply_inner (Recorded.start t) b verb partition, ?_⟩
  rcases b.apply_cases verb partition (Recorded.start t) with
      ⟨done, op, rest, mid, reason, after, e, hops, hacc, hrej, hblames, hrun⟩ |
      ⟨mid, hacc, hafter, hfail, hok⟩
  · obtain ⟨hinner, hcalls⟩ := Recorded.accepts_inner hacc
    rw [Recorded.stage_eq, Prod.mk.injEq] at hrej
    obtain ⟨hreason, rfl⟩ := hrej
    refine .inl ⟨done, op, rest, mid.inner, reason, _, e, hops, hinner, Prod.ext hreason rfl, ?_,
      hblames, congrArg Applied.result hrun⟩
    have hcalls : mid.calls ++ [.stage op] = (done ++ [op]).map .stage := by
      simp [hcalls, Recorded.start]
    rw [← hcalls]
    exact congrArg Applied.transaction hrun
  · obtain ⟨hinner, hcalls⟩ := Recorded.accepts_inner hacc
    rw [Recorded.commit_eq] at hafter hfail hok
    refine .inr ⟨mid.inner, hinner, ?_, hfail, hok⟩
    have hcalls : mid.calls = (b.operations verb partition).map .stage := by
      simp [hcalls, Recorded.start]
    rw [← hcalls]
    exact hafter

end AnyTransaction

end PropertyGraph
