import PropertyGraph.Proofs.Atomicity

/-!
# Reachable stores

A store is changed by any number of clients at once. What they do is a schedule: steps
that open transactions, stage operations into them, commit them and drop them, in any
order. A store is reachable if some schedule, begun on the empty store, leaves it.

- `SessionStep`, `Session.run`, `Session.trace`: schedules, what they leave and what the
  clients are told.
- `Session.stage_eq`, `Session.commit_store_of_open`, …: what a step does, by whether
  its transaction is open.
- `Store.Reachable.induction`: **a property of all reachable stores** needs to hold of
  the empty store and to be kept by commits of operations that passed their checks.
- `Session.run_linked`: referential integrity. Whatever the schedule, every stored edge
  has two readable ends and each lies at a stored node.
-/

namespace PropertyGraph

/-- One step of a schedule: what a client does with one of the transactions. -/
inductive SessionStep where
  /-- Open a transaction. -/
  | begin (name : String)
  /-- Stage an operation into a transaction. -/
  | stage (name : String) (op : Operation)
  /-- Commit a transaction. -/
  | commit (name : String)
  /-- Drop a transaction. -/
  | drop (name : String)

namespace Session

/-- Take one step: what the client is told, and the session after it. -/
def step (s : Session) : SessionStep → Except StoreFault Unit × Session
  | .begin name => (.ok (), s.begin name)
  | .stage name op => s.stage name op
  | .commit name => s.commit name
  | .drop name => (.ok (), s.drop name)

/-- The session that a schedule leaves. -/
def run (s : Session) : List SessionStep → Session
  | [] => s
  | x :: rest => (s.step x).2.run rest

/-- The steps of a schedule, each with what the client was told. -/
def trace (s : Session) : List SessionStep → List (SessionStep × Except StoreFault Unit)
  | [] => []
  | x :: rest => (x, (s.step x).1) :: (s.step x).2.trace rest

@[simp] theorem run_nil (s : Session) : s.run [] = s := rfl

@[simp] theorem run_cons (s : Session) (x : SessionStep) (rest : List SessionStep) :
    s.run (x :: rest) = (s.step x).2.run rest := rfl

@[simp] theorem trace_cons (s : Session) (x : SessionStep) (rest : List SessionStep) :
    s.trace (x :: rest) = (x, (s.step x).1) :: (s.step x).2.trace rest := rfl

theorem run_append (s : Session) (xs ys : List SessionStep) :
    s.run (xs ++ ys) = (s.run xs).run ys := by
  induction xs generalizing s with
  | nil => rfl
  | cons x rest ih => exact ih (s.step x).2

theorem trace_append (s : Session) (xs ys : List SessionStep) :
    s.trace (xs ++ ys) = s.trace xs ++ (s.run xs).trace ys := by
  induction xs generalizing s with
  | nil => rfl
  | cons x rest ih => exact congrArg _ (ih (s.step x).2)

/-! ## The open transactions after a step -/

theorem get?_others (s : Session) (name x : String) :
    Bindings.get? x (s.others name) = if name = x then none else s.staging? x :=
  Bindings.get?_filter_ne name x s.pending

theorem staging?_begin (s : Session) (name x : String) :
    (s.begin name).staging? x = if name = x then some ∅ else s.staging? x := by
  show Bindings.get? x ((name, ∅) :: s.others name) = _
  rw [Bindings.get?_cons, get?_others]
  by_cases hx : name = x <;> simp [hx]

theorem staging?_drop (s : Session) (name x : String) :
    (s.drop name).staging? x = if name = x then none else s.staging? x :=
  get?_others s name x

/-- Staging into an open transaction: the operation's own check decides, and what is
rejected leaves no trace. The store is not looked at. -/
theorem stage_eq {s : Session} {name : String} {t : Staging} (ht : s.staging? name = some t)
    (op : Operation) :
    s.stage name op =
      match op.check with
      | .ok () => (.ok (), { s with pending := (name, ⟨t.operations ++ [op]⟩) :: s.others name })
      | .error e => (.error e, s) := by
  rw [stage, ht]
  simp only [Staging.stage]
  cases op.check <;> rfl

theorem stage_of_closed {s : Session} {name : String} (ht : s.staging? name = none)
    (op : Operation) : s.stage name op = (.ok (), s) := by
  rw [stage, ht]

/-- A rejected operation leaves the session as it was. -/
theorem stage_rejected {s : Session} {name : String} {op : Operation} {e : StoreFault}
    (h : (s.stage name op).1 = .error e) : (s.stage name op).2 = s := by
  cases ht : s.staging? name with
  | none => rw [stage_of_closed ht]
  | some t =>
    rw [stage_eq ht] at h ⊢
    cases hc : op.check with
    | ok => simp [hc] at h
    | error e' => rfl

theorem store_stage (s : Session) (name : String) (op : Operation) :
    (s.stage name op).2.store = s.store := by
  cases ht : s.staging? name with
  | none => rw [stage_of_closed ht]
  | some t =>
    rw [stage_eq ht]
    cases op.check <;> rfl

/-- Committing an open transaction commits its operations and ends it either way. -/
theorem commit_of_open {s : Session} {name : String} {t : Staging}
    (ht : s.staging? name = some t) :
    s.commit name =
      ((StoreTransaction.commit ⟨s.store, t⟩).1,
        ⟨(StoreTransaction.commit ⟨s.store, t⟩).2.store, s.others name⟩) := by
  rw [commit, ht]
  simp only [StoreTransaction.commit]
  cases s.store.commit t.operations <;> rfl

theorem commit_of_closed {s : Session} {name : String} (ht : s.staging? name = none) :
    s.commit name = (.ok (), s) := by
  rw [commit, ht]

theorem staging?_commit (s : Session) (name x : String) :
    (s.commit name).2.staging? x = if name = x then none else s.staging? x := by
  cases ht : s.staging? name with
  | none =>
    rw [commit_of_closed ht]
    split
    · next hx => exact hx ▸ ht
    · rfl
  | some t =>
    rw [commit_of_open ht]
    exact get?_others s name x

/-- An accepted operation comes last in its own transaction; no other one is touched. -/
theorem staging?_stage (s : Session) (name x : String) (op : Operation) :
    (s.stage name op).2.staging? x =
      match op.check with
      | .ok () =>
        if name = x then (s.staging? x).map fun t => ⟨t.operations ++ [op]⟩ else s.staging? x
      | .error _ => s.staging? x := by
  cases ht : s.staging? name with
  | none =>
    rw [stage_of_closed ht]
    cases op.check with
    | error e => rfl
    | ok u =>
      by_cases hx : name = x
      · subst hx
        simp [ht]
      · simp [hx]
  | some t =>
    rw [stage_eq ht]
    cases op.check with
    | error e => rfl
    | ok u =>
      show Bindings.get? x ((name, ⟨t.operations ++ [op]⟩) :: s.others name) = _
      rw [Bindings.get?_cons, get?_others]
      by_cases hx : name = x
      · subst hx
        simp [ht]
      · simp [hx]

/-! ## What every session keeps -/

/-- Every open transaction holds operations that passed their checks. -/
def Checked (s : Session) : Prop :=
  ∀ {name : String} {t : Staging}, s.staging? name = some t →
    ∀ op ∈ t.operations, op.check = .ok ()

theorem checked_start : start.Checked := by
  intro name t ht
  cases ht

theorem Checked.step {s : Session} (h : s.Checked) (x : SessionStep) : (s.step x).2.Checked := by
  intro name t ht
  cases x with
  | begin other =>
    rw [Session.step, staging?_begin] at ht
    split at ht
    · cases ht
      intro op hop
      cases hop
    · exact h ht
  | stage other op =>
    rw [Session.step, staging?_stage] at ht
    cases hc : op.check with
    | error e =>
      rw [hc] at ht
      exact h ht
    | ok u =>
      simp only [hc] at ht
      split at ht
      · obtain ⟨t', ht', rfl⟩ := Option.map_eq_some_iff.1 ht
        -- all but the last were there before, and the last has just been checked
        intro op' hop'
        rcases List.mem_append.1 hop' with hop' | hop'
        · exact h ht' op' hop'
        · rw [List.mem_singleton.1 hop', hc]
      · exact h ht
  | commit other =>
    rw [Session.step, staging?_commit] at ht
    split at ht
    · cases ht
    · exact h ht
  | drop other =>
    rw [Session.step, staging?_drop] at ht
    split at ht
    · cases ht
    · exact h ht

/-- One step leaves the store alone, or it is a commit that succeeds. -/
theorem store_step (s : Session) (x : SessionStep) :
    (s.step x).2.store = s.store ∨
      ∃ name t, s.staging? name = some t ∧
        s.store.commit t.operations = .ok (s.step x).2.store := by
  cases x with
  | begin name => exact .inl rfl
  | stage name op => exact .inl (store_stage s name op)
  | drop name => exact .inl rfl
  | commit name =>
    cases ht : s.staging? name with
    | none => exact .inl (by rw [step, commit_of_closed ht])
    | some t =>
      rw [step, commit_of_open ht]
      cases hc : s.store.commit t.operations with
      | error e => exact .inl (by simp [StoreTransaction.commit, hc])
      | ok store => exact .inr ⟨name, t, ht, by simp [StoreTransaction.commit, hc]⟩

/-- What commits of checked operations keep, a whole schedule keeps, because nothing else
changes a store. -/
theorem run_store_induction {P : Store → Prop}
    (hcommit : ∀ {s t : Store} {ops : List Operation}, P s →
      (∀ op ∈ ops, op.check = .ok ()) → s.commit ops = .ok t → P t)
    {s : Session} (hc : s.Checked) (hs : P s.store) (steps : List SessionStep) :
    P (s.run steps).store := by
  -- `Checked` is carried along: it is what a commit needs to know of its operations
  induction steps generalizing s with
  | nil => exact hs
  | cons x rest ih =>
    refine ih (hc.step x) ?_
    rcases store_step s x with heq | ⟨name, t, ht, hok⟩
    · rw [heq]
      exact hs
    · exact hcommit hs (hc ht) hok

end Session

namespace Store

/-- Some schedule leaves the store, begun on the empty one. -/
def Reachable (s : Store) : Prop := ∃ steps, (Session.start.run steps).store = s

/-- **A property of all reachable stores** is one of the empty store that commits of
checked operations keep. -/
theorem Reachable.induction {P : Store → Prop} {s : Store} (h : s.Reachable) (hempty : P ∅)
    (hcommit : ∀ {s t : Store} {ops : List Operation}, P s →
      (∀ op ∈ ops, op.check = .ok ()) → s.commit ops = .ok t → P t) : P s := by
  obtain ⟨steps, rfl⟩ := h
  exact Session.run_store_induction hcommit Session.checked_start hempty steps

/-! ## Reachable stores are in order -/

/-- Every partition of the store is in order. -/
def WellFormed (s : Store) : Prop := ∀ name, (s.partitionOrEmpty name).WellFormed

theorem wellFormed_empty : (∅ : Store).WellFormed := fun _ => Partition.wellFormed_empty

theorem WellFormed.of_partition? {s : Store} (h : s.WellFormed) {name : String} {p : Partition}
    (hp : s.partition? name = some p) : p.WellFormed := by
  have hname := h name
  rwa [partitionOrEmpty, hp] at hname

theorem partitionOrEmpty_apply {s t : Store} {op : Operation} (h : s.apply op = .ok t) :
    (s.partitionOrEmpty op.partition).apply op = .ok (t.partitionOrEmpty op.partition) := by
  obtain ⟨p, hp, rfl⟩ := apply_eq_ok_iff.1 h
  rw [hp, partitionOrEmpty, partition?, NameMap.get?_insert, if_pos rfl]
  rfl

theorem WellFormed.apply {s t : Store} (h : s.WellFormed) {op : Operation}
    (ht : s.apply op = .ok t) : t.WellFormed := by
  intro name
  by_cases hn : name = op.partition
  · subst hn
    exact (h op.partition).apply (partitionOrEmpty_apply ht)
  · rw [partitionOrEmpty, partition?_apply ht hn]
    exact h name

theorem WellFormed.run {s t : Store} (h : s.WellFormed) {ops : List Operation}
    (ht : s.run ops = .ok t) : t.WellFormed := by
  induction ops generalizing s with
  | nil =>
    cases ht
    exact h
  | cons op rest ih =>
    obtain ⟨mid, hmid, ht⟩ := bind_eq_ok_iff.1 ht
    exact ih (h.apply hmid) ht

theorem Reachable.wellFormed {s : Store} (h : s.Reachable) : s.WellFormed :=
  h.induction wellFormed_empty fun hs _ hok => hs.run (commit_eq_run _ _ ▸ hok)

end Store

/-- Every stored edge has two readable ends, and at each of them a node with the key and
kind it names is stored. -/
def Partition.Linked (p : Partition) : Prop :=
  ∀ key kind e, p.edge? key kind = some e → ∀ side, ∃ d n, e.endpoint side = .ok d ∧
    p.node? d.key d.kind = some n ∧ n.key = d.key ∧ n.kind = d.kind

theorem Partition.WellFormed.linked_nodes {p : Partition} (h : p.WellFormed) : p.Linked := by
  intro key kind e he side
  obtain ⟨d, hd, hn⟩ := h.linked he side
  obtain ⟨n, hn⟩ := Option.isSome_iff_exists.1 hn
  exact ⟨d, n, hd, hn, h.nodes.own hn⟩

/-- **Referential integrity.** Whatever clients do with however many transactions, in any
order, no partition of the store ever holds an edge whose end cannot be read or lies at no
stored node. -/
theorem Session.run_linked (steps : List SessionStep) (name : String) :
    ((start.run steps).store.partitionOrEmpty name).Linked :=
  (Store.Reachable.wellFormed ⟨steps, rfl⟩ name).linked_nodes

end PropertyGraph
