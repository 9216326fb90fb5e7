import Mathlib.Data.List.Sort
import PropertyGraph.Proofs.Listings
import PropertyGraph.Proofs.Writes

/-!
# What a read shows of other partitions

A read names one partition. This module compares the outcomes of one read before and after a
write to another partition. Totals are left aside, since they count the whole store.

- `Endpoint.outcome`: the body that a read is answered with, or its error.
- `Store.readPartition_congr`, …: single entities and traversals are read from the partition
  alone.
- `Partition.Listing.unique`: so are the rows of a list, although a list of all nodes goes
  through the kinds that are in use anywhere.
- `Store.Reveals`: what is left to see, by a list of all nodes of a partition that has none.
  It is answered with no rows if other partitions use a kind that this one has a table for,
  and as a request for an unknown partition if they do not.
- `Endpoint.reads_isolated`: **the main statement**: this is all that writes to other
  partitions can change.
- `Endpoint.vacated_disclosed`: a write to one partition that changes the list of another.
-/

namespace PropertyGraph

/-- An answer without the total of a list. -/
def Answer.withoutTotal : Answer → Answer
  | .document body _ => .document body none
  | .empty => .empty

/-! ## Listings of one partition -/

namespace Partition

variable {p : Partition} {kinds kinds' : List String} {nodes nodes' : List Node}

/-- Kinds without nodes can be left out of a listing. -/
theorem references_filter (p : Partition) (kinds : List String) :
    p.references (kinds.filter fun kind => (p.nodeTable kind).keys ≠ []) =
      p.references kinds := by
  induction kinds with
  | nil => rfl
  | cons kind rest ih =>
    by_cases hkeys : (p.nodeTable kind).keys = []
    · have hnone : p.references (kind :: rest) = p.references rest := by
        rw [references, List.flatMap_cons, hkeys]
        rfl
      rw [List.filter_cons_of_neg (by simpa using hkeys), hnone]
      exact ih
    · rw [List.filter_cons_of_pos (by simpa using hkeys)]
      show _ ++ p.references _ = _ ++ p.references rest
      rw [ih]

/-- Two listings are the same if they are about the same stored nodes, also if other kinds are
gone through. -/
theorem Listing.unique (hp : p.WellFormed) (h : p.Listing kinds nodes)
    (h' : p.Listing kinds' nodes')
    (hkinds : ∀ r, p.Stores r → (r.kind ∈ kinds ↔ r.kind ∈ kinds')) : nodes = nodes' := by
  have hfilter : (kinds.filter fun kind => (p.nodeTable kind).keys ≠ []) =
      kinds'.filter fun kind => (p.nodeTable kind).keys ≠ [] := by
    refine (h.ascending.filter _).eq_of_mem_iff (h'.ascending.filter _) fun kind => ?_
    rw [List.mem_filter, List.mem_filter]
    refine and_congr_left fun hkeys => ?_
    -- a key that is listed is one of a stored node of the kind
    obtain ⟨key, hkey⟩ := List.exists_mem_of_ne_nil _ (of_decide_eq_true hkeys)
    exact hkinds ⟨key, kind⟩ (hp.mem_keys_iff.1 hkey)
  have hrefs : p.references kinds = p.references kinds' := by
    rw [← p.references_filter kinds, hfilter, p.references_filter kinds']
  have hfunctional : Relator.RightUnique fun (r : NodeRef) n => p.node? r.key r.kind = some n := by
    intro r n n' hn hn'
    exact Option.some.inj (hn.symm.trans hn')
  have hstored := h'.stored
  rw [← hrefs] at hstored
  exact List.right_unique_forall₂' hfunctional h.stored hstored

/-- Whatever kinds are gone through, a partition without nodes has an empty listing. -/
theorem WellFormed.listing_nil (hp : p.WellFormed) (hnone : ∀ r, ¬ p.Stores r)
    (hkinds : kinds.Pairwise (· < ·)) : p.Listing kinds [] := by
  obtain ⟨nodes, hlist⟩ := hp.exists_listing hkinds
  have hrefs : p.references kinds = [] := by
    refine List.eq_nil_iff_forall_not_mem.2 fun r hr => ?_
    exact hnone r ((hlist.complete r).1 hr).1
  have hnodes : nodes = [] := by
    have hstored := hlist.stored
    rw [hrefs] at hstored
    exact List.forall₂_nil_left_iff.1 hstored
  exact hnodes ▸ hlist

end Partition

namespace Store

variable {s t : Store} {partition : String}

/-- Some partition stores a node that a list of all nodes of the given partition is affected
by: one of a kind that the partition has a table for or, under a name that no partition can
have, any node. -/
def Reveals (s : Store) (partition : String) : Prop :=
  ∃ other r, (s.partitionOrEmpty other).Stores r ∧
    (isPartitionName partition = true →
      ((s.partitionOrEmpty partition).nodes.get? r.kind).isSome)

theorem reveals_of_stores {r : NodeRef} (h : (s.partitionOrEmpty partition).Stores r) :
    s.Reveals partition :=
  ⟨partition, r, h, fun _ => h.isSome_table⟩

theorem reveals_iff_of_valid (hp : isPartitionName partition = true) :
    s.Reveals partition ↔
      ∃ kind ∈ s.nodeKinds, ((s.partitionOrEmpty partition).nodes.get? kind).isSome := by
  constructor
  · rintro ⟨other, r, hr, htable⟩
    exact ⟨r.kind, mem_nodeKinds_of_stores hr, htable hp⟩
  · rintro ⟨kind, hkind, htable⟩
    obtain ⟨other, r, hr, rfl⟩ := mem_nodeKinds_iff.1 hkind
    exact ⟨other, r, hr, fun _ => htable⟩

theorem reveals_iff_of_invalid (hp : isPartitionName partition ≠ true) :
    s.Reveals partition ↔ s.nodeKinds ≠ [] := by
  constructor
  · rintro ⟨other, r, hr, -⟩
    exact List.ne_nil_of_mem (mem_nodeKinds_of_stores hr)
  · intro hne
    obtain ⟨kind, hkind⟩ := List.exists_mem_of_ne_nil _ hne
    obtain ⟨other, r, hr, -⟩ := mem_nodeKinds_iff.1 hkind
    exact ⟨other, r, hr, fun hvalid => absurd hvalid hp⟩

/-! ## Reads of one partition -/

/-- What is read from a partition depends on the partition alone. -/
theorem readPartition_congr {α : Type} (h : t.partition? partition = s.partition? partition)
    (f : Partition → α) : t.readPartition partition f = s.readPartition partition f := by
  rw [readPartition, readPartition, h]

theorem partitionOrEmpty_congr (h : t.partition? partition = s.partition? partition) :
    t.partitionOrEmpty partition = s.partitionOrEmpty partition := by
  rw [partitionOrEmpty, partitionOrEmpty, h]

end Store

namespace Endpoint

variable {s t : Store} {partition : String}

theorem fetchNode_congr (h : t.partition? partition = s.partition? partition)
    (key kind : String) :
    GraphStore.fetchNode t partition key kind = GraphStore.fetchNode s partition key kind :=
  congrArg (Except.map Option.join) (Store.readPartition_congr h _)

theorem fetchEntity_congr (h : t.partition? partition = s.partition? partition)
    (entity : EntityType) (kind key : String) :
    fetchEntity t partition entity kind key = fetchEntity s partition entity kind key := by
  have hedge : GraphStore.fetchEdge t partition key kind =
      GraphStore.fetchEdge s partition key kind :=
    congrArg (Except.map Option.join) (Store.readPartition_congr h _)
  cases entity with
  | node => rw [fetchEntity, fetchEntity, fetchNode_congr h]
  | edge => rw [fetchEntity, fetchEntity, hedge]

theorem traverse_congr (h : t.partition? partition = s.partition? partition)
    (kind key spec : String) :
    traverse t partition kind key spec = traverse s partition kind key spec := by
  have hstart : GraphStore.fetchNodePart t partition key kind namingAttributes =
      GraphStore.fetchNodePart s partition key kind namingAttributes :=
    congrArg (Except.map Option.join) (Store.readPartition_congr h _)
  have hrows : GraphStore.traverse t partition key kind spec true =
      GraphStore.traverse s partition key kind spec true := by
    show Store.traverse t partition key kind spec true = Store.traverse s partition key kind spec true
    simp only [Store.traverse, Store.readPartition_congr h]
  rw [traverse, traverse, hstart, hrows]

/-- The outcome of a read: the body that it is answered with, or its error. -/
def outcome (s : Store) (segments : List String) (q : Query) : Except RequestError Answer :=
  (get s segments q).map Answer.withoutTotal

/-- The outcome of a list request that lists some nodes, whatever the total. -/
def rows (nodes : List Node) (w : Window) : Except RequestError Answer :=
  (listed nodes 0 w).map Answer.withoutTotal

theorem withoutTotal_listed (nodes : List Node) (population : Nat) (w : Window) :
    (listed nodes population w).map Answer.withoutTotal = rows nodes w := by
  unfold rows listed
  split <;> rfl

theorem rows_ne_nothingListed (nodes : List Node) (w : Window) (kind? : Option String) :
    rows nodes w ≠ .error (nothingListed kind?) := by
  intro h
  unfold rows listed at h
  split at h
  · cases h
  · cases kind? <;> cases h

/-- The outcome of a list request that can be read. -/
theorem outcome_list (hp : isPartitionName partition = true) (kind? : Option String)
    {nodes : List Node}
    (h : (s.partitionOrEmpty partition).Listing (listedKinds s kind?) nodes) (q : Query) :
    outcome s (listPath partition kind?) q = window q >>= fun w =>
      if ∃ kind ∈ listedKinds s kind?, ((s.partitionOrEmpty partition).nodes.get? kind).isSome then
        rows nodes w
      else .error (nothingListed kind?) := by
  rw [outcome, get_listPath hp kind? h]
  cases window q with
  | error e => rfl
  | ok w =>
    show Except.map _ (if _ then _ else _) = if _ then _ else _
    rw [apply_ite (Except.map Answer.withoutTotal), withoutTotal_listed]
    rfl

/-! ## Comparing two stores -/

theorem window_bind_eq_iff {q : Query} {f g : Window → Except RequestError Answer} :
    (window q >>= f) = (window q >>= g) ↔ ∀ w, Window.ofQuery q = .ok w → f w = g w := by
  cases hw : window q with
  | ok w =>
    constructor
    · intro h w' hw'
      obtain rfl : w = w' := Except.ok.inj (hw.symm.trans (window_eq_ok_iff.2 hw'))
      exact h
    · intro h
      exact h w (window_eq_ok_iff.1 hw)
  | error e =>
    refine iff_of_true rfl fun w hw' => ?_
    rw [window_eq_ok_iff.2 hw'] at hw
    cases hw

theorem ite_eq_ite_iff {α : Type} {x y : α} (hne : x ≠ y) (a b : Prop) [Decidable a]
    [Decidable b] : (if a then x else y) = (if b then x else y) ↔ (a ↔ b) := by
  by_cases ha : a <;> by_cases hb : b <;> simp [ha, hb, hne, hne.symm]

/-- The list of a kind has the same outcome as long as its partition stays the same. -/
theorem listKind_congr (h : t.partition? partition = s.partition? partition) (kind : String)
    (w : Window) :
    (listKind t partition kind w).map Answer.withoutTotal =
      (listKind s partition kind w).map Answer.withoutTotal := by
  have hkeys : GraphStore.nodeKeys t partition kind = GraphStore.nodeKeys s partition kind := by
    show (t.nodeKeys partition kind).map _ = (s.nodeKeys partition kind).map _
    rw [Store.nodeKeys, Store.nodeKeys, Store.readPartition_congr h]
  have hfetch : fetchListed t partition kind = fetchListed s partition kind := by
    funext key
    rw [fetchListed, fetchListed, fetchNode_congr h]
  rw [listKind, listKind, hkeys, hfetch]
  cases GraphStore.nodeKeys s partition kind with
  | error e => rfl
  | ok keys? =>
    cases keys? with
    | none => rfl
    | some keys =>
      -- the totals differ, and are left aside
      show Except.map _ (page keys w _ >>= _) = Except.map _ (page keys w _ >>= _)
      cases page keys w (fetchListed s partition kind) <;> rfl

/-- All reads but the list of all nodes have the same outcome as long as their partition stays
the same. -/
theorem outcome_congr (h : t.partition? partition = s.partition? partition)
    {segments : List String} (hne : segments ≠ ["n"]) (q : Query) :
    outcome t (partition :: segments) q = outcome s (partition :: segments) q := by
  rw [outcome, outcome, get, get]
  cases hx : shape (partition :: segments) .read with
  | error e => rfl
  | ok x =>
    obtain ⟨hseg, -⟩ := segments_of_resolve (shape_eq_ok_iff.1 hx)
    cases x with
    | partition _ => rfl
    | entityList _ entity =>
      cases entity with
      | node =>
        cases hseg
        exact absurd rfl hne
      | edge => rfl
    | kindList _ entity kind =>
      cases entity with
      | node =>
        cases hseg
        show Except.map _ (window q >>= _) = Except.map _ (window q >>= _)
        cases window q with
        | error e => rfl
        | ok w => exact listKind_congr h kind w
      | edge => rfl
    | entity _ entity kind key =>
      cases hseg
      exact congrArg (Except.map Answer.withoutTotal) (fetchEntity_congr h entity kind key)
    | traversal _ kind key spec =>
      cases hseg
      exact congrArg (Except.map Answer.withoutTotal) (traverse_congr h kind key spec)

/-- The list of all nodes has the same outcome in two stores that have the partition in common
exactly if both of them reveal something or both do not. -/
theorem outcome_entityList_iff (hs : s.Reachable) (ht : t.Reachable)
    (h : t.partition? partition = s.partition? partition) (q : Query) :
    outcome t [partition, "n"] q = outcome s [partition, "n"] q ↔
      ∀ w, Window.ofQuery q = .ok w → (t.Reveals partition ↔ s.Reveals partition) := by
  have hpart := Store.partitionOrEmpty_congr h
  by_cases hp : isPartitionName partition = true
  · have hformed := hs.wellFormed partition
    obtain ⟨nodes, hlist⟩ := hformed.exists_listing (listedKinds_ascending s none)
    obtain ⟨nodes', hlist'⟩ :=
      (ht.wellFormed partition).exists_listing (listedKinds_ascending t none)
    have hnodes : nodes' = nodes := by
      refine Partition.Listing.unique hformed (hpart ▸ hlist') hlist fun r hr => ?_
      have hr' : (t.partitionOrEmpty partition).Stores r := hpart.symm ▸ hr
      exact iff_of_true (Store.mem_nodeKinds_of_stores hr') (Store.mem_nodeKinds_of_stores hr)
    rw [Store.reveals_iff_of_valid hp, Store.reveals_iff_of_valid hp]
    refine (Eq.congr (outcome_list hp none hlist' q) (outcome_list hp none hlist q)).trans ?_
    rw [window_bind_eq_iff, hnodes, hpart]
    refine forall₂_congr fun w hw => ?_
    exact ite_eq_ite_iff (rows_ne_nothingListed nodes w none) _ _
  · have houtcome : ∀ u : Store, outcome u [partition, "n"] q = window q >>= fun _ =>
        if u.nodeKinds = [] then .error (nothingListed none)
        else .error (.fetchFailure (.invalidPartition partition)) := by
      intro u
      rw [outcome, get_entityList]
      cases window q with
      | error e => rfl
      | ok w =>
        show Except.map _ (listPartition u partition w) = if _ then _ else _
        rw [listPartition_of_invalid u hp]
        split <;> rfl
    rw [houtcome, houtcome, window_bind_eq_iff, Store.reveals_iff_of_invalid hp,
      Store.reveals_iff_of_invalid hp]
    refine forall₂_congr fun w hw => ?_
    rw [ite_eq_ite_iff (fun heq => by cases heq), not_iff_not]

/-- What the list of all nodes of a partition without nodes comes to, in either case. -/
theorem outcome_vacant (hs : s.Reachable) (hp : isPartitionName partition = true)
    (hnone : ∀ r, ¬ (s.partitionOrEmpty partition).Stores r) {q : Query} (hq : Unwindowed q) :
    (s.Reveals partition → outcome s [partition, "n"] q = .ok (.document (encodeList []) none)) ∧
    (¬ s.Reveals partition →
      outcome s [partition, "n"] q = .error (.notFound "Unknown partition")) := by
  have hlist := (hs.wellFormed partition).listing_nil hnone (listedKinds_ascending s none)
  have houtcome := outcome_list hp none hlist q
  rw [window_of_unwindowed hq] at houtcome
  rw [Store.reveals_iff_of_valid hp]
  constructor
  · intro hused
    exact houtcome.trans (if_pos hused)
  · intro hunused
    exact houtcome.trans (if_neg hunused)

/-- **Writes to one partition and reads of another.** Take any store that clients can bring
about, any request to write to one partition, whatever it is answered, and any read of another
partition. The read has the same outcome before and after the write, apart from totals, unless
it is a list of all nodes of a partition that stores none. Such a list has the same outcome
exactly if before and after the write it has the same answer to the question whether some
partition stores a node of a kind that the listed partition has a table for or, under a name
that no partition can have, any node at all. -/
theorem reads_isolated (hs : s.Reachable) {written read : String} (hne : read ≠ written)
    (verb : Verb) (more : List String) (body : Bytes) (segments : List String) (q : Query) :
    let t := (mutate s verb (written :: more) body).store
    ((segments = ["n"] → ∃ r, (s.partitionOrEmpty read).Stores r) →
      outcome t (read :: segments) q = outcome s (read :: segments) q) ∧
    (outcome t [read, "n"] q = outcome s [read, "n"] q ↔
      ∀ w, Window.ofQuery q = .ok w → (t.Reveals read ↔ s.Reveals read)) := by
  intro t
  have ht : t.Reachable := hs.mutate verb (written :: more) body
  have hsame : t.partition? read = s.partition? read :=
    partition?_mutate s verb written more body hne
  have hlist := outcome_entityList_iff hs ht hsame q
  refine ⟨fun hstores => ?_, hlist⟩
  by_cases hn : segments = ["n"]
  · obtain ⟨r, hr⟩ := hstores hn
    have hr' : (t.partitionOrEmpty read).Stores r :=
      (Store.partitionOrEmpty_congr hsame).symm ▸ hr
    rw [hn]
    refine hlist.2 fun w _ => ?_
    exact iff_of_true (Store.reveals_of_stores hr') (Store.reveals_of_stores hr)
  · exact outcome_congr hsame hn q

/-- A schedule that stores a node and removes it again. -/
def vacatedSchedule : List SessionStep :=
  [.begin "t", .stage "t" (.storeNode "q" (.ofKey "1" "K")), .commit "t",
    .begin "t", .stage "t" (.removeNode "q" "1" "K"), .commit "t"]

/-- The store that the schedule leaves: the table of the kind is still there. -/
def vacated : Store := ⟨(∅ : NameMap Partition).insert "q" ⟨(∅ : NameMap _).insert "K" ∅, ∅⟩⟩

theorem vacated_reachable : vacated.Reachable := by
  let stored : Partition :=
    ⟨(∅ : NameMap _).insert "K" ((∅ : Table Node).put "1" (.ofKey "1" "K")), ∅⟩
  have hremoved : stored.removeNode "1" "K" = ⟨(∅ : NameMap _).insert "K" ∅, ∅⟩ := by
    have hstored : (stored.node? "1" "K").isSome := rfl
    rw [Partition.removeNode, Partition.removeNodes, if_pos hstored]
    exact Partition.removeNodes.eq_1 _
  have hstore : (Session.start.run vacatedSchedule).store =
      ⟨(∅ : NameMap Partition).insert "q" (stored.removeNode "1" "K")⟩ := rfl
  refine ⟨vacatedSchedule, hstore.trans ?_⟩
  rw [hremoved]
  rfl

/-- A request to store a node of the same kind in another partition. -/
def sameKindBody : Bytes := Utf8.encode (encodeList [(Node.ofKey "1" "K").attributes]).text

theorem vacated_written :
    (mutate vacated .post ["p", "n"] sameKindBody).store =
      ⟨vacated.partitions.insert "p" ((∅ : Partition).putNode (.ofKey "1" "K"))⟩ := by
  have hnames : ∀ n ∈ [Node.ofKey "1" "K"], n.key ≠ "" ∧ isKindName n.kind = true :=
    List.forall_mem_singleton.2 ⟨by decide, by decide +kernel⟩
  have hbody : ∀ n ∈ [Node.ofKey "1" "K"],
      n.attributes.Within entityDepth ∧ n.attributes.FloatFree := by
    refine List.forall_mem_singleton.2 ⟨?_, ?_⟩
    · exact (Attributes.within_empty.insert keyName (.string "1")).insert kindName (.string "K")
    · exact (Attributes.floatFree_empty.insert keyName (.string "1")).insert kindName
        (.string "K")
  exact (mutate_encodeList vacated .post (by decide +kernel) _ hnames hbody rfl).2

theorem vacated_none (r : NodeRef) : ¬ (vacated.partitionOrEmpty "q").Stores r := by
  have hnode : (vacated.partitionOrEmpty "q").node? r.key r.kind = none := by
    show (((∅ : NameMap (Table Node)).insert "K" ∅).get? r.kind).bind (·.get? r.key) = none
    rw [NameMap.get?_insert]
    split <;> rfl
  rw [Partition.Stores, hnode]
  exact Bool.false_ne_true

/-- The store reveals nothing before the write, and the table of the removed node after it. -/
theorem vacated_reveals :
    ¬ vacated.Reveals "q" ∧ (mutate vacated .post ["p", "n"] sameKindBody).store.Reveals "q" := by
  have hq : isPartitionName "q" = true := by decide +kernel
  rw [vacated_written, Store.reveals_iff_of_valid hq, Store.reveals_iff_of_valid hq]
  constructor
  · have hunused : vacated.nodeKinds = [] := rfl
    rw [hunused]
    exact fun ⟨_, hkind, _⟩ => List.not_mem_nil hkind
  · exact ⟨"K", List.mem_singleton_self "K", rfl⟩

/-- Of the partition that stores nothing, the list of a kind stays the same, and the list of
all nodes does not. -/
theorem reads_isolated_vacated :
    let t := (mutate vacated .post ["p", "n"] sameKindBody).store
    outcome t ["q", "n", "K"] ∅ = outcome vacated ["q", "n", "K"] ∅ ∧
      outcome t ["q", "n"] ∅ ≠ outcome vacated ["q", "n"] ∅ := by
  intro t
  have hne : "q" ≠ "p" := by decide
  obtain ⟨hkind, -⟩ :=
    reads_isolated vacated_reachable hne .post ["n"] sameKindBody ["n", "K"] ∅
  obtain ⟨-, hall⟩ := reads_isolated vacated_reachable hne .post ["n"] sameKindBody ["n"] ∅
  obtain ⟨hbefore, hafter⟩ := vacated_reveals
  constructor
  · have hone : ["n", "K"] ≠ ["n"] := by decide
    exact hkind fun hn => absurd hn hone
  · intro hsame
    exact hbefore ((hall.1 hsame .all rfl).1 hafter)

/-- A write to one partition after which the list of another is answered with no rows. Before
the write it is answered as if the partition were unknown. -/
theorem vacated_disclosed :
    let t := (mutate vacated .post ["p", "n"] sameKindBody).store
    vacated.Reachable ∧ "q" ≠ "p" ∧
      outcome vacated ["q", "n"] ∅ = .error (.notFound "Unknown partition") ∧
      outcome t ["q", "n"] ∅ = .ok (.document (encodeList []) none) := by
  intro t
  have hp : isPartitionName "q" = true := by decide +kernel
  have hq : Unwindowed ∅ := fun b => NameMap.get?_empty b.name
  have hne : "q" ≠ "p" := by decide
  have hsame : t.partition? "q" = vacated.partition? "q" :=
    partition?_mutate vacated .post "p" ["n"] sameKindBody hne
  have hnone : ∀ r, ¬ (t.partitionOrEmpty "q").Stores r := by
    rw [Store.partitionOrEmpty_congr hsame]
    exact vacated_none
  have ht : t.Reachable := vacated_reachable.mutate .post ["p", "n"] sameKindBody
  obtain ⟨hbefore, hafter⟩ := vacated_reveals
  refine ⟨vacated_reachable, hne, ?_, ?_⟩
  · exact (outcome_vacant vacated_reachable hp vacated_none hq).2 hbefore
  · exact (outcome_vacant ht hp hnone hq).1 hafter

end Endpoint

end PropertyGraph
