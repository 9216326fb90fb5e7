import PropertyGraph.Proofs.Reachability

/-!
# Interleaved transactions are serializable

However the steps of any number of transactions interleave, each commit has the outcome it
would have if its transaction did everything at that very moment: open, stage what had been
accepted, commit.

- `accepted`, `commits`: read off a trace what each transaction had accepted when it was
  committed, and what came of it.
- `SessionStep.atOnce`, `serial`: the schedule in which every committed transaction runs at
  once, at the position of its commit; nothing else happens in it.
- `Outcomes`: how a list of commits takes one store to another. A schedule and its serial
  counterpart both follow it (`outcomes_run`), and it leaves no choice (`Outcomes.unique`).
- `Store.attribute_run`: an attribute of a node survives every operation that does not
  rewrite it. With commits in serial order this is why no update is lost.
- `Session.serializable`: **the main statement**.
-/

namespace PropertyGraph

/-- A step of a schedule with what the client was told. -/
abbrev SessionEvent := SessionStep × Except StoreFault Unit

/-! ## Reading a trace -/

/-- What a transaction has accepted, one event later; nothing while it is not open. -/
def SessionEvent.advance (name : String) (items : Option (List Operation)) :
    SessionEvent → Option (List Operation)
  | (.begin x, _) => if x = name then some [] else items
  | (.stage x op, .ok ()) => if x = name then items.map (· ++ [op]) else items
  | (.stage _ _, .error _) => items
  | (.commit x, _) => if x = name then none else items
  | (.drop x, _) => if x = name then none else items

/-- What the transaction that is open under a name at the end of a trace has accepted, in
the order of staging. -/
def accepted (past : List SessionEvent) (name : String) : Option (List Operation) :=
  past.foldl (SessionEvent.advance name) none

/-- A commit of a schedule. -/
structure CommitRecord where
  /-- The transaction. -/
  name : String
  /-- What it had accepted. -/
  items : List Operation
  /-- What came of the commit. -/
  result : Except StoreFault Unit

/-- The commits of a trace, given what was before it. -/
def commitsAfter (past : List SessionEvent) : List SessionEvent → List CommitRecord
  | [] => []
  | (.commit name, result) :: rest =>
    ⟨name, (accepted past name).getD [], result⟩ ::
      commitsAfter (past ++ [(.commit name, result)]) rest
  | ev :: rest => commitsAfter (past ++ [ev]) rest

/-- The commits of a trace, in order. -/
def commits (t : List SessionEvent) : List CommitRecord := commitsAfter [] t

/-- A transaction that does everything at once. -/
def SessionStep.atOnce (name : String) (items : List Operation) : List SessionStep :=
  .begin name :: (items.map (.stage name) ++ [.commit name])

/-- The schedule in which every commit is that of a fresh transaction that stages its items
and commits at once. -/
def serial (cs : List CommitRecord) : List SessionStep :=
  cs.flatMap fun c => SessionStep.atOnce c.name c.items

/-- The operations of the commits that succeeded. -/
def applied (cs : List CommitRecord) : List Operation :=
  cs.flatMap fun c => if c.result.isOk then c.items else []

theorem accepted_concat (past : List SessionEvent) (ev : SessionEvent) (name : String) :
    accepted (past ++ [ev]) name = SessionEvent.advance name (accepted past name) ev := by
  simp [accepted]

theorem commitsAfter_append (past xs ys : List SessionEvent) :
    commitsAfter past (xs ++ ys) = commitsAfter past xs ++ commitsAfter (past ++ xs) ys := by
  induction xs generalizing past with
  | nil => simp [commitsAfter]
  | cons ev rest ih =>
    have happ : past ++ ev :: rest = (past ++ [ev]) ++ rest := by simp
    obtain ⟨x, r⟩ := ev
    cases x <;> simp only [List.cons_append, commitsAfter, ih, happ]

/-- A trace without commits has none. -/
theorem commitsAfter_stages (past : List SessionEvent) (name : String) (items : List Operation) :
    commitsAfter past (items.map fun op => (.stage name op, .ok ())) = [] := by
  induction items generalizing past with
  | nil => rfl
  | cons op rest ih => exact ih _

/-- Stagings that succeed add up, in order. -/
theorem accepted_stages {past : List SessionEvent} {name : String} {done : List Operation}
    (h : accepted past name = some done) (items : List Operation) :
    accepted (past ++ items.map fun op => (.stage name op, .ok ())) name =
      some (done ++ items) := by
  induction items generalizing past done with
  | nil => simpa using h
  | cons op rest ih =>
    have hop : accepted (past ++ [(.stage name op, .ok ())]) name = some (done ++ [op]) := by
      rw [accepted_concat, h]
      simp [SessionEvent.advance]
    simpa using ih hop

namespace Session

/-! ## Traces tell what sessions hold -/

/-- What a session holds in its open transactions is what can be read off its past. -/
def Tracks (s : Session) (past : List SessionEvent) : Prop :=
  ∀ name, (s.staging? name).map Staging.operations = accepted past name

theorem tracks_start : start.Tracks [] := fun _ => rfl

theorem Tracks.step {s : Session} {past : List SessionEvent} (h : s.Tracks past)
    (x : SessionStep) : (s.step x).2.Tracks (past ++ [(x, (s.step x).1)]) := by
  intro name
  rw [accepted_concat, ← h name]
  cases x with
  | begin other =>
    rw [Session.step, staging?_begin]
    simp only [SessionEvent.advance]
    split <;> rfl
  | stage other op =>
    rw [Session.step]
    cases ht : s.staging? other with
    | none =>
      -- without an open transaction nothing is accepted, and nothing is lost
      rw [stage_of_closed ht]
      by_cases hx : other = name
      · subst hx
        simp [SessionEvent.advance, ht]
      · simp [SessionEvent.advance, hx]
    | some t =>
      rw [staging?_stage, stage_eq ht]
      cases op.check with
      | error e => rfl
      | ok u => by_cases hx : other = name <;> simp [SessionEvent.advance, hx, Function.comp_def]
  | commit other =>
    rw [Session.step, staging?_commit]
    simp only [SessionEvent.advance]
    split <;> rfl
  | drop other =>
    rw [Session.step, staging?_drop]
    simp only [SessionEvent.advance]
    split <;> rfl

/-- The operations that a commit carries out are those the trace says were accepted; a
transaction that is not open has none. -/
theorem commit_outcome {s : Session} {past : List SessionEvent} (h : s.Tracks past)
    (name : String) :
    (s.commit name).1 =
        (StoreTransaction.commit ⟨s.store, ⟨(accepted past name).getD []⟩⟩).1 ∧
      (s.commit name).2.store =
        (StoreTransaction.commit ⟨s.store, ⟨(accepted past name).getD []⟩⟩).2.store := by
  rw [← h name]
  cases ht : s.staging? name with
  | none =>
    rw [commit_of_closed ht]
    simp [StoreTransaction.commit, Store.commit_eq_run]
  | some t =>
    rw [commit_of_open ht]
    exact ⟨rfl, rfl⟩

end Session

/-! ## Outcomes of commits -/

/-- The commits of a list, carried out one after another by fresh transactions, have the
recorded results and take one store to the other. -/
def Outcomes (s : Store) : List CommitRecord → Store → Prop
  | [], t => t = s
  | c :: rest, t =>
    c.result = (StoreTransaction.commit ⟨s, ⟨c.items⟩⟩).1 ∧
      Outcomes (StoreTransaction.commit ⟨s, ⟨c.items⟩⟩).2.store rest t

/-- Who commits what decides all results and the last store. -/
theorem Outcomes.unique {s t t' : Store} {cs cs' : List CommitRecord} (h : Outcomes s cs t)
    (h' : Outcomes s cs' t')
    (hsame : cs.map (fun c => (c.name, c.items)) = cs'.map fun c => (c.name, c.items)) :
    cs = cs' ∧ t = t' := by
  -- the first commits carry out one list of operations on one store, so they agree
  induction cs generalizing s cs' with
  | nil =>
    cases cs' with
    | nil => exact ⟨rfl, h.trans h'.symm⟩
    | cons c' rest' => cases hsame
  | cons c rest ih =>
    cases cs' with
    | nil => cases hsame
    | cons c' rest' =>
      obtain ⟨name, items, result⟩ := c
      obtain ⟨name', items', result'⟩ := c'
      simp only [List.map_cons, List.cons.injEq, Prod.mk.injEq] at hsame
      obtain ⟨⟨rfl, rfl⟩, hrest⟩ := hsame
      obtain ⟨hr, h⟩ := h
      obtain ⟨hr', h'⟩ := h'
      obtain ⟨rfl, rfl⟩ := ih h h' hrest
      exact ⟨by rw [show result = result' from hr.trans hr'.symm], rfl⟩

/-- Seen from the store, successful commits are one run in place. -/
theorem Outcomes.run_applied {s t : Store} {cs : List CommitRecord} (h : Outcomes s cs t) :
    s.run (applied cs) = .ok t := by
  induction cs generalizing s with
  | nil =>
    cases h
    rfl
  | cons c rest ih =>
    obtain ⟨hr, h⟩ := h
    have happ : applied (c :: rest) = (if c.result.isOk then c.items else []) ++ applied rest := by
      simp [applied]
    rw [StoreTransaction.commit, Store.commit_eq_run] at hr h
    cases hrun : s.run c.items with
    | error e =>
      simp only [hrun] at hr h
      rw [happ, hr]
      exact ih h
    | ok mid =>
      simp only [hrun] at hr h
      rw [happ, hr]
      show s.run (c.items ++ applied rest) = .ok t
      rw [Store.run_append, hrun]
      exact ih h

namespace Session

/-- The commits of a schedule take its first store to its last. -/
theorem outcomes_run {s : Session} {past : List SessionEvent} (h : s.Tracks past)
    (steps : List SessionStep) :
    Outcomes s.store (commitsAfter past (s.trace steps)) (s.run steps).store := by
  induction steps generalizing s past with
  | nil => rfl
  | cons x rest ih =>
    have hrest := ih (h.step x)
    cases x with
    | begin name => exact hrest
    | drop name => exact hrest
    | stage name op =>
      rw [show (s.step (.stage name op)).2.store = s.store from store_stage s name op] at hrest
      exact hrest
    | commit name =>
      obtain ⟨hresult, hstore⟩ := commit_outcome h name
      -- the rest of the commits starts from the store that this one leaves
      refine ⟨hresult, ?_⟩
      rw [← hstore]
      exact hrest

/-- Every committed operation passed its check when it was staged. -/
theorem checked_of_commits {s : Session} {past : List SessionEvent} (h : s.Tracks past)
    (hc : s.Checked) (steps : List SessionStep) :
    ∀ c ∈ commitsAfter past (s.trace steps), ∀ op ∈ c.items, op.check = .ok () := by
  induction steps generalizing s past with
  | nil =>
    intro c hm
    cases hm
  | cons x rest ih =>
    have hrest := ih (h.step x) (hc.step x)
    cases x with
    | begin name => exact hrest
    | drop name => exact hrest
    | stage name op => exact hrest
    | commit name =>
      intro c hm op hop
      rcases List.mem_cons.1 hm with rfl | hm
      · -- the items are those of the open transaction, which the session keeps checked
        rw [← h name] at hop
        cases ht : s.staging? name with
        | none => simp [ht] at hop
        | some t => exact hc ht op (by simpa [ht] using hop)
      · exact hrest c hm op hop

/-! ## The serial schedule -/

/-- Operations that pass their checks are all accepted by an open transaction. -/
theorem trace_stages {s : Session} {name : String} {t : Staging} (ht : s.staging? name = some t)
    {items : List Operation} (hitems : ∀ op ∈ items, op.check = .ok ()) :
    s.trace (items.map (.stage name)) = items.map fun op => (.stage name op, .ok ()) := by
  induction items generalizing s t with
  | nil => rfl
  | cons op rest ih =>
    have hop : op.check = .ok () := hitems op List.mem_cons_self
    have hopen : (s.stage name op).2.staging? name = some ⟨t.operations ++ [op]⟩ := by
      rw [staging?_stage, hop, ht]
      simp
    have hresult : (s.stage name op).1 = .ok () := by
      rw [stage_eq ht, hop]
    rw [List.map_cons, List.map_cons, trace_cons, step, hresult]
    exact congrArg _ (ih hopen fun op' hop' => hitems op' (List.mem_cons_of_mem _ hop'))

/-- A transaction that does everything at once commits exactly its items, whatever
happened before. -/
theorem commits_atOnce (s : Session) (past : List SessionEvent) (name : String)
    {items : List Operation} (hitems : ∀ op ∈ items, op.check = .ok ()) :
    ∃ result, commitsAfter past (s.trace (SessionStep.atOnce name items)) =
      [⟨name, items, result⟩] := by
  have hopen : (s.begin name).staging? name = some ∅ := by simp [staging?_begin]
  -- whatever the name stood for before, the transaction begins with nothing
  have hpast : accepted (past ++ [(.begin name, .ok ())]) name = some [] := by
    simp [accepted_concat, SessionEvent.advance]
  have hall := accepted_stages hpast items
  rw [SessionStep.atOnce, trace_cons, step, trace_append, trace_stages hopen hitems, trace_cons,
    commitsAfter, commitsAfter_append, commitsAfter_stages, List.nil_append, commitsAfter, hall]
  · exact ⟨_, rfl⟩
  · intro name' _ heq
    cases heq

/-- In the serial schedule the same transactions commit the same items. -/
theorem commits_serial (s : Session) (past : List SessionEvent) {cs : List CommitRecord}
    (hcs : ∀ c ∈ cs, ∀ op ∈ c.items, op.check = .ok ()) :
    (commitsAfter past (s.trace (serial cs))).map (fun c => (c.name, c.items)) =
      cs.map fun c => (c.name, c.items) := by
  induction cs generalizing s past with
  | nil => rfl
  | cons c rest ih =>
    obtain ⟨result, hc⟩ := commits_atOnce s past c.name (hcs c List.mem_cons_self)
    have hserial : serial (c :: rest) = SessionStep.atOnce c.name c.items ++ serial rest := by
      simp [serial]
    rw [hserial, trace_append, commitsAfter_append, hc, List.map_append,
      ih _ _ fun c' hc' => hcs c' (List.mem_cons_of_mem _ hc')]
    rfl

end Session

/-! ## No update is lost -/

/-- Whether an operation may change the value of an attribute of a node: it writes the
attribute, replaces the node, or removes nodes of the partition. -/
def Operation.Rewrites (op : Operation) (partition : String) (r : NodeRef) (attr : String) :
    Prop :=
  op.partition = partition ∧
    match op with
    | .updateNode _ n => n.key = r.key ∧ n.kind = r.kind ∧ (n.attributes.get? attr).isSome
    | .storeNode _ n => n.key = r.key ∧ n.kind = r.kind
    | .removeNode _ _ _ => True
    | .storeEdge _ _ => False
    | .removeEdge _ _ _ => False

/-- The partition stores the node, with the value in the attribute. -/
def Partition.HasAttribute (p : Partition) (r : NodeRef) (attr : String) (v : Json) : Prop :=
  ∃ n, p.node? r.key r.kind = some n ∧ n.attributes.get? attr = some v

namespace Partition

variable {p q : Partition} {r : NodeRef} {attr : String} {v : Json}

/-- Attributes that an update does not write are taken from the stored node. -/
theorem HasAttribute.mergeNode (h : p.HasAttribute r attr v) {n : Node}
    (hn : n.key = r.key → n.kind = r.kind → n.attributes.get? attr = none) :
    (p.mergeNode n).HasAttribute r attr v := by
  obtain ⟨stored, hs, hv⟩ := h
  rw [HasAttribute, node?_mergeNode]
  split
  · next heq =>
    refine ⟨p.merged n, rfl, ?_⟩
    rw [merged, heq.1, heq.2, hs]
    show (stored.attributes.union n.attributes).get? attr = some v
    rw [NameMap.get?_union, hn heq.1 heq.2, hv]
    rfl
  · exact ⟨stored, hs, hv⟩

/-- Attributes that an update writes are taken from it. -/
theorem hasAttribute_mergeNode (p : Partition) {n : Node}
    (hv : n.attributes.get? attr = some v) :
    (p.mergeNode n).HasAttribute ⟨n.key, n.kind⟩ attr v := by
  rw [HasAttribute, node?_mergeNode, if_pos ⟨rfl, rfl⟩]
  refine ⟨p.merged n, rfl, ?_⟩
  unfold merged
  cases p.node? n.key n.kind with
  | none => exact hv
  | some stored =>
    show (stored.attributes.union n.attributes).get? attr = some v
    rw [NameMap.get?_union, hv]
    rfl

/-- One operation that does not rewrite an attribute keeps it. -/
theorem HasAttribute.apply (h : p.HasAttribute r attr v) {op : Operation}
    (hop : ¬ op.Rewrites op.partition r attr) (hq : p.apply op = .ok q) :
    q.HasAttribute r attr v := by
  cases op with
  | updateNode _ n =>
    cases hq
    refine h.mergeNode fun hk hi => ?_
    cases hv : n.attributes.get? attr with
    | none => rfl
    | some w => exact absurd ⟨rfl, hk, hi, by simp [hv]⟩ hop
  | storeNode _ n =>
    cases hq
    rw [HasAttribute, node?_putNode, if_neg fun heq => hop ⟨rfl, heq⟩]
    exact h
  | removeNode _ key kind => exact absurd ⟨rfl, trivial⟩ hop
  | storeEdge _ e =>
    obtain ⟨-, rfl⟩ := linkEdge_eq_ok_iff.1 hq
    exact h
  | removeEdge _ key kind =>
    cases hq
    exact h

end Partition

namespace Store

/-- **An attribute survives** every run of operations that do not rewrite it. -/
theorem attribute_run {s t : Store} {ops : List Operation} (ht : s.run ops = .ok t)
    {partition : String} {r : NodeRef} {attr : String} {v : Json}
    (h : (s.partitionOrEmpty partition).HasAttribute r attr v)
    (hops : ∀ op ∈ ops, ¬ op.Rewrites partition r attr) :
    (t.partitionOrEmpty partition).HasAttribute r attr v := by
  induction ops generalizing s with
  | nil =>
    cases ht
    exact h
  | cons op rest ih =>
    obtain ⟨mid, hmid, ht⟩ := bind_eq_ok_iff.1 ht
    refine ih ht ?_ fun op' hop' => hops op' (List.mem_cons_of_mem _ hop')
    by_cases hp : partition = op.partition
    · subst hp
      exact h.apply (hops op List.mem_cons_self) (partitionOrEmpty_apply hmid)
    · rw [partitionOrEmpty, partition?_apply hmid hp]
      exact h

/-- An attribute that an update wrote is still there at the end of a run if no later
operation rewrites it. -/
theorem attribute_of_update {s t : Store} {done later : List Operation} {partition : String}
    {n : Node} (ht : s.run (done ++ .updateNode partition n :: later) = .ok t) {attr : String}
    {v : Json} (hv : n.attributes.get? attr = some v)
    (hlater : ∀ op ∈ later, ¬ op.Rewrites partition ⟨n.key, n.kind⟩ attr) :
    (t.partitionOrEmpty partition).HasAttribute ⟨n.key, n.kind⟩ attr v := by
  rw [run_append] at ht
  obtain ⟨before, -, ht⟩ := bind_eq_ok_iff.1 ht
  obtain ⟨after, hafter, ht⟩ := bind_eq_ok_iff.1 ht
  refine attribute_run ht ?_ hlater
  have hstep : (before.partitionOrEmpty partition).mergeNode n =
      after.partitionOrEmpty partition := Except.ok.inj (partitionOrEmpty_apply hafter)
  rw [← hstep]
  exact Partition.hasAttribute_mergeNode _ hv

end Store

/-! ## The main statement -/

/-- **Interleaved transactions are serializable.** Take any schedule, of any number of
transactions.

- In the serial schedule of its commits, where each committed transaction is fresh, stages
  what had been accepted and commits at once, the same commits have the same results, and
  the store is the same at the end. Whatever was dropped, left open or rejected is in no
  commit and so does not count.
- A staging that is rejected leaves a session, and so the transaction, as it was.
- An attribute that a committed update wrote is in the store at the end, with the value
  written, unless an operation that was committed later rewrites it. So of two transactions
  that update one node neither loses what only it wrote. -/
theorem Session.serializable (steps : List SessionStep) :
    let cs := commits (start.trace steps)
    commits (start.trace (serial cs)) = cs ∧
    (start.run (serial cs)).store = (start.run steps).store ∧
    (∀ (s : Session) (name : String) (op : Operation) (e : StoreFault),
      (s.stage name op).1 = .error e → (s.stage name op).2 = s) ∧
    ∀ (done later : List Operation) (partition : String) (n : Node) (attr : String) (v : Json),
      applied cs = done ++ .updateNode partition n :: later →
      n.attributes.get? attr = some v →
      (∀ op ∈ later, ¬ op.Rewrites partition ⟨n.key, n.kind⟩ attr) →
      ((start.run steps).store.partitionOrEmpty partition).HasAttribute
        ⟨n.key, n.kind⟩ attr v := by
  intro cs
  -- both schedules commit the same items, begun on the empty store
  have hrun : Outcomes ∅ cs (start.run steps).store := outcomes_run tracks_start steps
  have hserial : Outcomes ∅ (commits (start.trace (serial cs))) (start.run (serial cs)).store :=
    outcomes_run tracks_start (serial cs)
  have hsame : (commits (start.trace (serial cs))).map (fun c => (c.name, c.items)) =
      cs.map fun c => (c.name, c.items) :=
    commits_serial start [] (checked_of_commits tracks_start checked_start steps)
  obtain ⟨hcommits, hstore⟩ := hserial.unique hrun hsame
  refine ⟨hcommits, hstore, fun _ _ _ _ => stage_rejected, ?_⟩
  intro done later partition n attr v happ hv hlater
  exact Store.attribute_of_update (happ ▸ hrun.run_applied) hv hlater

end PropertyGraph
