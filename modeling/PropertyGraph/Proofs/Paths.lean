import PropertyGraph.Proofs.Addresses
import PropertyGraph.Proofs.Batches

/-!
# Which paths there are

A path is told apart from all others by what it addresses: every shape has one list of segments,
and these are all the lists that are resolved. This module says so for any segments, among them
empty ones and letters of entities in places where they mean something else, and says in which
words everything else is refused.

- `RequestShape.AddressedBy`: segments address a shape. `resolve_eq_ok_iff`: then, and only then,
  they are resolved to it.
- `PathFault.Explains`: what is wrong with segments. `resolve_eq_error_iff`: then, and only then,
  they are refused for it.
- `splitPath_joinFields_splitPath`: spellings of a path with more slashes than it needs make no
  difference.
- `Understood`: an outcome other than that the request is invalid. What a store is asked for, a
  page and a batch have no other (`understood_page`, `Batch.understood_apply`).
- `Endpoint.get_eq_usage_iff`, `Endpoint.mutate_eq_invalidRequest_iff`: with any store, a request
  is told how paths are to be written only if the number of its segments is wrong.
- `Endpoint.paths_exact`: **the main statement**.
-/

universe u v

namespace PropertyGraph

/-! ## Segments and shapes -/

/-- Segments address a shape: they are its own, and their number is allowed. -/
def RequestShape.AddressedBy (x : RequestShape) (access : Access) (segments : List String) : Prop :=
  x.segments = segments ∧ access.allows segments.length

/-- The path that is written for a shape. -/
def RequestShape.path (x : RequestShape) : String := joinFields '/' x.segments

/-- What is wrong with segments that address nothing. -/
inductive PathFault.Explains (access : Access) : List String → PathFault → Prop where
  | count {segments : List String} (h : ¬ access.allows segments.length) :
      Explains access segments (.count access)
  | entityLetter {p letter : String} {more : List String}
      (hn : access.allows (p :: letter :: more).length) (h : ∀ t : EntityType, letter ≠ t.segment) :
      Explains access (p :: letter :: more) .entityLetter
  | edgeTraversal {p kind key spec : String} (hn : access.allows 5) :
      Explains access [p, EntityType.edge.segment, kind, key, spec] .edgeTraversal

section Resolution

variable {segments : List String} {access : Access} {x : RequestShape} {f : PathFault}

theorem resolve_eq_ok_iff : resolve segments access = .ok x ↔ x.AddressedBy access segments := by
  constructor
  · exact segments_of_resolve
  · rintro ⟨rfl, hn⟩
    exact resolve_segments hn

theorem EntityType.ofSegment?_eq_none_iff {s : String} :
    EntityType.ofSegment? s = none ↔ ∀ t : EntityType, s ≠ t.segment := by
  constructor
  · rintro h t rfl
    rw [ofSegment?_segment] at h
    cases h
  · intro h
    have hnode : s ≠ "n" := h .node
    have hedge : s ≠ "e" := h .edge
    rw [ofSegment?, if_neg hnode, if_neg hedge]

theorem Access.most_le (access : Access) : access.most ≤ 5 := by
  cases access <;> decide

/-- Behind a partition and a sort of entities, no more segments than are allowed are refused only
as a traversal from an edge. -/
theorem fault_of_shapeOf {p : String} {t : EntityType} {more : List String}
    (hn : access.allows (more.length + 2)) (h : shapeOf access p t more = .error f) :
    f = .edgeTraversal ∧ t = .edge ∧ ∃ kind key spec, more = [kind, key, spec] := by
  match more, hn, h with
  | [], _, h => cases h
  | [_], _, h => cases h
  | [_, _], _, h => cases h
  | [kind, key, spec], _, h =>
    cases t with
    | node => cases h
    | edge =>
      cases h
      exact ⟨rfl, rfl, kind, key, spec, rfl⟩
  | _ :: _ :: _ :: _ :: rest, hn, _ =>
    have hmost : rest.length + 4 + 2 ≤ 5 := Nat.le_trans hn.2 access.most_le
    omega

theorem explains_of_resolve (h : resolve segments access = .error f) :
    f.Explains access segments := by
  unfold resolve at h
  split at h
  · next hn =>
    match segments, hn, h with
    | [], hn, _ => cases access <;> exact absurd hn.1 (by decide)
    | [_], _, h => cases h
    | p :: letter :: more, hn, h =>
      cases hletter : EntityType.ofSegment? letter with
      | none =>
        simp only [hletter] at h
        cases h
        exact .entityLetter hn (EntityType.ofSegment?_eq_none_iff.1 hletter)
      | some t =>
        simp only [hletter] at h
        obtain ⟨rfl, rfl, kind, key, spec, rfl⟩ := fault_of_shapeOf hn h
        rw [← EntityType.segment_of_ofSegment? hletter]
        exact .edgeTraversal hn
  · next hn =>
    cases h
    exact .count hn

theorem resolve_eq_error_iff : resolve segments access = .error f ↔ f.Explains access segments := by
  constructor
  · exact explains_of_resolve
  · intro h
    cases h with
    | count hn =>
      unfold resolve
      rw [if_neg hn]
    | entityLetter hn h =>
      unfold resolve
      rw [if_pos hn]
      simp only [EntityType.ofSegment?_eq_none_iff.2 h]
    | @edgeTraversal p kind key spec hn =>
      have hn : access.allows [p, EntityType.edge.segment, kind, key, spec].length := hn
      unfold resolve
      rw [if_pos hn]
      rfl

/-- Reading is never about a whole partition. -/
theorem RequestShape.AddressedBy.ne_partition (h : x.AddressedBy .read segments) (p : String) :
    x ≠ .partition p := by
  rintro rfl
  obtain ⟨rfl, hn⟩ := h
  have hfewest : 2 ≤ 1 := hn.1
  exact absurd hfewest (by decide)

/-- Writing is about a whole partition, or about its nodes or its edges. -/
theorem RequestShape.AddressedBy.of_write (h : x.AddressedBy .write segments) :
    (∃ p, x = .partition p) ∨ ∃ p t, x = .entityList p t := by
  obtain ⟨rfl, hn⟩ := h
  have hmost : x.segments.length ≤ 2 := hn.2
  cases x with
  | partition p => exact .inl ⟨p, rfl⟩
  | entityList p t => exact .inr ⟨p, t, rfl⟩
  | _ => simp [segments] at hmost

end Resolution

/-- How paths are to be written is said only about a wrong number of segments. -/
theorem PathFault.message_eq_usage_iff {f : PathFault} {access : Access} :
    f.message = access.usage ↔ f = .count access := by
  cases f with
  | count a => cases a <;> cases access <;> decide
  | entityLetter => cases access <;> decide
  | edgeTraversal => cases access <;> decide

theorem WindowBound.message_ne_usage (b : WindowBound) (access : Access) :
    b.message ≠ access.usage := by
  cases b <;> cases access <;> decide

/-! ## Spellings of a path -/

theorem ne_empty_of_mem_splitPath {path segment : String} (h : segment ∈ splitPath path) :
    segment ≠ "" := of_decide_eq_true (List.mem_filter.1 h).2

/-- The segments of a path are those of the path that is written with one slash between every two
of them. -/
theorem splitPath_joinFields_splitPath (path : String) :
    splitPath (joinFields '/' (splitPath path)) = splitPath path := by
  by_cases hnil : splitPath path = []
  · rw [hnil]
    rfl
  · exact splitPath_joinFields hnil fun segment h =>
      ⟨ne_empty_of_mem_splitPath h, notMem_of_mem_splitPath h⟩

/-! ## Requests that are understood -/

/-- Whatever came of it, a request was not invalid. -/
def Understood {α : Type u} (r : Except RequestError α) : Prop :=
  ∀ text, r ≠ .error (.invalidRequest text)

namespace Understood

theorem ok {α : Type u} (a : α) : Understood (.ok a) := by
  intro text h
  cases h

theorem notFound {α : Type u} (what : String) :
    Understood (Except.error (.notFound what) : Except RequestError α) := by
  intro text h
  cases h

theorem fetchFailure {α : Type u} (reason : StoreFault) :
    Understood (Except.error (.fetchFailure reason) : Except RequestError α) := by
  intro text h
  cases h

theorem offsetOutOfRange {α : Type u} (offset available : Nat) :
    Understood (Except.error (.offsetOutOfRange offset available) : Except RequestError α) := by
  intro text h
  cases h

theorem bind {α β : Type} {r : Except RequestError α} {f : α → Except RequestError β}
    (h : Understood r) (hf : ∀ a, Understood (f a)) : Understood (r >>= f) := by
  intro text hbind
  rcases bind_eq_error_iff.1 hbind with hr | ⟨a, -, ha⟩
  · exact h text hr
  · exact hf a text ha

end Understood

section Pages

variable {α : Type u} {β : Type v} {fetch : α → Except RequestError β}

theorem Source.understood_skip (offset skipped n : Nat) (s : Source α) :
    Understood (s.skip offset skipped n).1 := by
  induction n generalizing skipped s with
  | zero => exact .ok ()
  | succ n ih =>
    obtain ⟨items, pulled⟩ := s
    cases items with
    | nil => exact .offsetOutOfRange offset skipped
    | cons item rest =>
      cases item with
      | error e => exact .fetchFailure e
      | ok key => exact ih (skipped + 1) ⟨rest, pulled + 1⟩

theorem PageCursor.understood_next (hfetch : ∀ key, Understood (fetch key)) {c c' : PageCursor α}
    {r : Except RequestError β} (h : c.next fetch = (some r, c')) : Understood r := by
  obtain ⟨⟨items, pulled⟩, remaining, failed⟩ := c
  rw [next] at h
  split at h
  · cases h
  · cases items with
    | nil => cases h
    | cons item rest =>
      cases h
      cases item with
      | error e => exact .fetchFailure e
      | ok key => exact hfetch key

theorem PageCursor.understood_records (hfetch : ∀ key, Understood (fetch key))
    (c : PageCursor α) : Understood (c.records fetch) := by
  -- along the calls for the records: the first that fails decides
  fun_induction PageCursor.records fetch c with
  | case1 => exact .ok []
  | case2 c e c' hnext =>
    rintro text h
    cases h
    exact understood_next hfetch hnext text rfl
  | case3 => exact .ok _
  | case4 _ _ _ _ e hrest ih =>
    rintro text h
    cases h
    exact ih text hrest

/-- A page fails for its offset, for an unreadable key or for a record that cannot be fetched. -/
theorem understood_page (hfetch : ∀ key, Understood (fetch key))
    (items : List (Except StoreFault α)) (w : Window) : Understood (page items w fetch) := by
  rw [page, PageCursor.ofWindow]
  have hskip := Source.understood_skip (w.offset.getD 0) 0 (w.offset.getD 0) (.ofList items)
  generalize (Source.ofList items).skip (w.offset.getD 0) 0 (w.offset.getD 0) = skipped at hskip
  obtain ⟨result, rest⟩ := skipped
  cases result with
  | error e => exact fun text h => hskip text (congrArg Except.error (Except.error.inj h))
  | ok _ => exact PageCursor.understood_records hfetch _

end Pages

/-- A batch fails for an item of it or for its commit. -/
theorem Batch.understood_apply {τ : Type} [Transaction τ] (b : Batch) (verb : Verb)
    (partition : String) (t : τ) : Understood (b.apply verb partition t).result := by
  intro text h
  rcases b.apply_cases verb partition t with
      ⟨_, _, _, _, _, _, e, -, -, -, hblames, hrun⟩ | ⟨mid, -, -, hfail, hok⟩
  · rw [hrun] at h
    cases h
    rcases hblames with ⟨_, -, he⟩ | ⟨_, _, -, -, he⟩ <;> cases he
  · cases hcommit : (Transaction.commit mid).1 with
    | error reason => cases (hfail reason hcommit).symm.trans h
    | ok _ => cases (hok hcommit).symm.trans h

theorem understood_pairByKey (nodes : List Node) (edges : List Edge) :
    Understood (pairByKey nodes edges) := by
  rw [pairByKey]
  split
  · exact .fetchFailure _
  · exact .ok _

namespace Endpoint

section Reads

variable {σ : Type} [GraphStore σ] (store : σ) (partition kind key : String)

theorem understood_readFault {α : Type} (r : Except StoreFault α) : Understood (readFault r) := by
  cases r with
  | ok a => exact .ok a
  | error e => exact .fetchFailure e

theorem understood_fetchListed : Understood (fetchListed store partition kind key) := by
  rw [fetchListed]
  split
  · exact .fetchFailure _
  · exact .ok _
  · exact .fetchFailure _

theorem understood_listPartition (w : Window) : Understood (listPartition store partition w) := by
  refine (understood_readFault _).bind fun sources => ?_
  split
  · exact .notFound _
  · have hfetch : ∀ r : String × String, Understood (fetchListed store partition r.1 r.2) :=
      fun r => understood_fetchListed store partition r.1 r.2
    exact (understood_page hfetch _ w).bind fun _ => .ok _

theorem understood_listKind (w : Window) : Understood (listKind store partition kind w) := by
  refine (understood_readFault _).bind fun keys => ?_
  cases keys with
  | none => exact .notFound _
  | some keys =>
    have hfetch := understood_fetchListed store partition kind
    exact (understood_page hfetch keys w).bind fun _ => .ok _

theorem understood_fetchEntity (entity : EntityType) :
    Understood (fetchEntity store partition entity kind key) := by
  cases entity with
  | node =>
    refine (understood_readFault _).bind fun found => ?_
    cases found with
    | none => exact .notFound _
    | some n => exact .ok _
  | edge =>
    refine (understood_readFault _).bind fun found => ?_
    cases found with
    | none => exact .notFound _
    | some e => exact .ok _

theorem understood_traverse (spec : String) :
    Understood (traverse store partition kind key spec) := by
  refine (understood_readFault _).bind fun found => ?_
  cases found with
  | none => exact .notFound _
  | some n =>
    refine (understood_readFault _).bind fun reached => ?_
    exact (understood_pairByKey reached.1 reached.2).bind fun _ => .ok _

end Reads

/-! ## How paths are to be written -/

section Usage

variable {segments : List String} {access : Access}

theorem shape_eq_ok_iff_addressedBy {x : RequestShape} :
    shape segments access = .ok x ↔ x.AddressedBy access segments :=
  shape_eq_ok_iff.trans resolve_eq_ok_iff

theorem shape_eq_error_iff {e : RequestError} :
    shape segments access = .error e ↔
      ∃ f : PathFault, f.Explains access segments ∧ e = .invalidRequest f.message := by
  rw [shape, mapError_eq_error_iff]
  simp only [resolve_eq_error_iff]

/-- What is refused is what addresses nothing. -/
theorem exists_invalidRequest_iff :
    (∃ text, shape segments access = .error (.invalidRequest text)) ↔
      ¬ ∃ x : RequestShape, x.AddressedBy access segments := by
  simp only [← shape_eq_ok_iff_addressedBy]
  constructor
  · rintro ⟨text, h⟩ ⟨x, hx⟩
    cases h.symm.trans hx
  · intro hnone
    cases h : shape segments access with
    | ok x => exact absurd ⟨x, h⟩ hnone
    | error e =>
      obtain ⟨f, -, rfl⟩ := shape_eq_error_iff.1 h
      exact ⟨f.message, rfl⟩

theorem shape_eq_usage_iff :
    shape segments access = .error (.invalidRequest access.usage) ↔
      ¬ access.allows segments.length := by
  rw [shape_eq_error_iff]
  constructor
  · rintro ⟨f, hf, he⟩
    obtain rfl := PathFault.message_eq_usage_iff.1 (RequestError.invalidRequest.inj he).symm
    cases hf with
    | count hn => exact hn
  · exact fun hn => ⟨.count access, .count hn, rfl⟩

/-- A read is answered with the usage only for its number of segments, whatever the store. -/
theorem get_eq_usage_iff {σ : Type} [GraphStore σ] (store : σ) (q : Query) :
    get store segments q = .error (.invalidRequest Access.read.usage) ↔
      ¬ Access.read.allows segments.length := by
  rw [← shape_eq_usage_iff]
  constructor
  · intro h
    rcases bind_eq_error_iff.1 h with h | ⟨x, hx, h⟩
    · exact h
    have hx := shape_eq_ok_iff_addressedBy.1 hx
    have hwindow : window q ≠ .error (.invalidRequest Access.read.usage) := by
      intro h
      obtain ⟨b, -, he⟩ := mapError_eq_error_iff.1 h
      exact b.message_ne_usage .read (RequestError.invalidRequest.inj he).symm
    have hedges : edgeListing ≠ .invalidRequest Access.read.usage := by decide
    cases x with
    | partition p => exact absurd rfl (hx.ne_partition p)
    | entityList p t =>
      cases t with
      | edge => exact absurd (Except.error.inj h) hedges
      | node =>
        rcases bind_eq_error_iff.1 h with h | ⟨w, -, h⟩
        · exact absurd h hwindow
        · exact absurd h (understood_listPartition store p w _)
    | kindList p t kind =>
      cases t with
      | edge => exact absurd (Except.error.inj h) hedges
      | node =>
        rcases bind_eq_error_iff.1 h with h | ⟨w, -, h⟩
        · exact absurd h hwindow
        · exact absurd h (understood_listKind store p kind w _)
    | entity p t kind key => exact absurd h (understood_fetchEntity store p kind key t _)
    | traversal p kind key spec => exact absurd h (understood_traverse store p kind key spec _)
  · exact fun h => bind_eq_error_iff.2 (.inl h)

/-- What a write addresses is a target, so that its body is looked at. -/
theorem exists_writeTarget {x : RequestShape} (h : x.AddressedBy .write segments) :
    ∃ target, writeTarget x = .ok target := by
  rcases h.of_write with ⟨p, rfl⟩ | ⟨p, t, rfl⟩
  · exact ⟨_, rfl⟩
  · exact ⟨_, rfl⟩

theorem understood_decode (target : BodyTarget) (body : Bytes) :
    Understood (decode target body) := by
  intro text h
  obtain ⟨_, -, he⟩ := mapError_eq_error_iff.1 h
  cases he

/-- A write that cannot be read is invalid only for its path. -/
theorem shape_of_writeRequest {body : Bytes} {text : String}
    (h : writeRequest segments body = .error (.invalidRequest text)) :
    shape segments .write = .error (.invalidRequest text) := by
  rcases bind_eq_error_iff.1 h with h | ⟨x, hx, h⟩
  · exact h
  · obtain ⟨target, htarget⟩ := exists_writeTarget (shape_eq_ok_iff_addressedBy.1 hx)
    rw [htarget] at h
    have hrest : Understood (decode target.2 body >>= fun batch => .ok (target.1, batch)) :=
      (understood_decode target.2 body).bind fun _ => .ok _
    exact absurd h (hrest text)

/-- A write is invalid exactly if its path is, whatever the store. -/
theorem mutate_eq_invalidRequest_iff {σ τ : Type} [Transaction τ] [TransactionalStore σ τ]
    (store : σ) (verb : Verb) (body : Bytes) {text : String} :
    (mutate store verb segments body).answer = .error (.invalidRequest text) ↔
      shape segments .write = .error (.invalidRequest text) := by
  constructor
  · intro h
    cases hrequest : writeRequest segments body with
    | error e =>
      simp only [mutate, hrequest] at h
      cases h
      exact shape_of_writeRequest hrequest
    | ok request =>
      obtain ⟨partition, b⟩ := request
      simp only [mutate, hrequest] at h
      cases hresult : (b.apply verb partition (TransactionalStore.begin store)).result with
      | error e =>
        rw [hresult] at h
        cases h
        exact absurd hresult (b.understood_apply verb partition _ text)
      | ok _ =>
        rw [hresult] at h
        cases h
  · intro h
    have hrequest : writeRequest segments body = .error (.invalidRequest text) :=
      bind_eq_error_iff.2 (.inl h)
    simp only [mutate, hrequest]

end Usage

/-! ## The main statement -/

/-- **Paths are resolved exactly.** Whatever segments there are, for reading and for writing:

- they are resolved to a shape if and only if they are its own and their number is allowed, and
  are refused as invalid in all other cases, in the words for what is wrong with them;
- no other segments are resolved to the same shape;
- reading is never about a whole partition, and writing only about that or about all nodes or
  edges of one, so that with any store a request is told how paths are to be written if and only
  if the number of segments is not allowed;
- if they are the segments of a path, the path that is written for their shape has them as well. -/
theorem paths_exact (segments : List String) (access : Access) :
    ((∀ x, shape segments access = .ok x ↔ x.AddressedBy access segments) ∧
      ((∃ text, shape segments access = .error (.invalidRequest text)) ↔
        ¬ ∃ x : RequestShape, x.AddressedBy access segments) ∧
      ∀ e, shape segments access = .error e ↔
        ∃ f : PathFault, f.Explains access segments ∧ e = .invalidRequest f.message) ∧
    (∀ x access' segments', shape segments access = .ok x → shape segments' access' = .ok x →
      segments' = segments) ∧
    ((∀ p, shape segments .read ≠ .ok (.partition p)) ∧
      ∀ (σ : Type) [GraphStore σ] (store : σ) (q : Query),
        get store segments q = .error (.invalidRequest Access.read.usage) ↔
          ¬ Access.read.allows segments.length) ∧
    ((∀ x, shape segments .write = .ok x →
        (∃ p, x = .partition p) ∨ ∃ p t, x = .entityList p t) ∧
      ∀ (σ τ : Type) [Transaction τ] [TransactionalStore σ τ] (store : σ) (verb : Verb)
        (body : Bytes),
        (mutate store verb segments body).answer = .error (.invalidRequest Access.write.usage) ↔
          ¬ Access.write.allows segments.length) ∧
    ∀ path x, splitPath path = segments → shape segments access = .ok x →
      splitPath x.path = segments := by
  refine ⟨⟨fun _ => shape_eq_ok_iff_addressedBy, exists_invalidRequest_iff,
    fun _ => shape_eq_error_iff⟩, ?_, ⟨?_, ?_⟩, ⟨?_, ?_⟩, ?_⟩
  · intro x access' segments' hx hx'
    obtain ⟨hown, -⟩ := shape_eq_ok_iff_addressedBy.1 hx
    obtain ⟨hown', -⟩ := shape_eq_ok_iff_addressedBy.1 hx'
    exact hown'.symm.trans hown
  · exact fun p hp => (shape_eq_ok_iff_addressedBy.1 hp).ne_partition p rfl
  · exact fun σ _ store q => get_eq_usage_iff store q
  · exact fun x hx => (shape_eq_ok_iff_addressedBy.1 hx).of_write
  · intro σ τ _ _ store verb body
    rw [mutate_eq_invalidRequest_iff, shape_eq_usage_iff]
  · rintro path x rfl hx
    rw [RequestShape.path, (shape_eq_ok_iff_addressedBy.1 hx).1, splitPath_joinFields_splitPath]

/-- Letters of entities that stand for a kind and a key, between more slashes than are needed, and
an empty name in front of a letter. -/
theorem paths_exact_slashes :
    let path := "//p/n//e/n/n:e:n:/"
    let x := RequestShape.traversal "p" "e" "n" "n:e:n:"
    shape (splitPath path) .read = .ok x ∧ x.path = "p/n/e/n/n:e:n:" ∧
      splitPath x.path = splitPath path ∧
      shape ["p", "n", "e", "n", "n:e:n:"] .read = .ok x ∧
      ["p", "n", "e", "n", "n:e:n:"] = splitPath path ∧
      shape ["", "e"] .write = .ok (.entityList "" .edge) ∧
      ((∃ p, RequestShape.entityList "" .edge = .partition p) ∨
        ∃ p t, RequestShape.entityList "" .edge = .entityList p t) := by
  intro path x
  have hread : shape (splitPath path) .read = .ok x := by decide
  have hplain : shape ["p", "n", "e", "n", "n:e:n:"] .read = .ok x := rfl
  have hwrite : shape ["", "e"] .write = .ok (.entityList "" .edge) := rfl
  obtain ⟨-, hunique, -, -, hpath⟩ := paths_exact (splitPath path) .read
  obtain ⟨-, -, -, ⟨hwritten, -⟩, -⟩ := paths_exact ["", "e"] .write
  exact ⟨hread, by decide, hpath path x rfl hread, hplain, hunique x .read _ hread hplain, hwrite,
    hwritten _ hwrite⟩

end Endpoint

end PropertyGraph
