import PropertyGraph.Proofs.Pages

/-!
# Pages of faulty listings

Any key of a listing may be unreadable and any record may be impossible to fetch. This module
says what a page of such a listing returns, and how much of the listing is pulled and fetched
for it, whatever fails and wherever.

- `recordOf`, `upToFailure`: what a window of a listing holds: the record of each item in it, up
  to the first failure.
- `PageCursor.pending`: the records that a page has still to return. `nextWith_cons`,
  `pending_cons`, `pending_cases`: one call.
- `Reading`: a page that keeps a record of the keys that are fetched for it; it answers like the
  plain one. `Reading.calls_next`: any number of calls.
- `PageCursor.ofWindow_of_unreadable`, `ofWindow_of_short`, `ofWindow_of_readable`: opening a page.
- `PageCursor.reads_exactly`: **what is returned, pulled and fetched**.
-/

universe u v w

namespace PropertyGraph

variable {α : Type u} {β : Type v}

/-! ## What a window of a listing holds -/

/-- The record of an item, or why there is none. -/
def recordOf (fetch : α → Except RequestError β) : Except StoreFault α → Except RequestError β
  | .ok key => fetch key
  | .error e => .error (.fetchFailure e)

/-- Records up to the first failure, which is the last. -/
def upToFailure : List (Except RequestError β) → List (Except RequestError β)
  | [] => []
  | .ok r :: rest => .ok r :: upToFailure rest
  | .error e :: _ => [.error e]

theorem upToFailure_cons (r : Except RequestError β) (rest : List (Except RequestError β)) :
    upToFailure (r :: rest) = r :: if r.isOk then upToFailure rest else [] := by
  cases r <;> rfl

/-- The keys of those items that can be read. -/
def readableKeys (items : List (Except StoreFault α)) : List α := items.filterMap Except.toOption

theorem readableKeys_cons (item : Except StoreFault α) (rest : List (Except StoreFault α)) :
    readableKeys (item :: rest) = readableKeys [item] ++ readableKeys rest := by
  rw [readableKeys, ← List.singleton_append, List.filterMap_append]
  rfl

/-- Either a listing is one of keys, or there is a first item that is unreadable. -/
theorem readable_or_unreadable (items : List (Except StoreFault α)) :
    (∃ keys : List α, items = keys.map .ok) ∨
      ∃ (keys : List α) (e : StoreFault) (rest : List (Except StoreFault α)),
        items = keys.map .ok ++ .error e :: rest := by
  induction items with
  | nil => exact .inl ⟨[], rfl⟩
  | cons item rest ih =>
    cases item with
    | error e => exact .inr ⟨[], e, rest, rfl⟩
    | ok key =>
      obtain ⟨keys, rfl⟩ | ⟨keys, e, rest, rfl⟩ := ih
      · exact .inl ⟨key :: keys, rfl⟩
      · exact .inr ⟨key :: keys, e, rest, rfl⟩

/-- Without unreadable items a listing is one of keys. -/
theorem exists_map_ok {items : List (Except StoreFault α)} (h : ∀ e, .error e ∉ items) :
    ∃ keys : List α, items = keys.map .ok := by
  obtain hkeys | ⟨keys, e, rest, rfl⟩ := readable_or_unreadable items
  · exact hkeys
  · exact absurd (List.mem_append_right _ List.mem_cons_self) (h e)

/-- A listing of which some items have been pulled. -/
def Source.after (items : List (Except StoreFault α)) (n : Nat) : Source α := ⟨items.drop n, n⟩

namespace PageCursor

/-! ## One call -/

/-- One more record, if fetching has a state of its own. -/
def nextWith {φ : Type w} (fetch : α → φ → Except RequestError β × φ) (c : PageCursor α) (st : φ) :
    Option (Except RequestError β) × PageCursor α × φ :=
  if c.isDone then (none, c, st)
  else
    match c.source.pull with
    | (none, s) => (none, { c with source := s }, st)
    | (some item, s) =>
      let (record, st) := match item with
        | .ok key => fetch key st
        | .error e => (.error (.fetchFailure e), st)
      let failed := match record with
        | .ok _ => false
        | .error _ => true
      (some record, ⟨s, c.remaining.map (· - 1), failed⟩, st)

/-- Whatever happens to the state, the page is read as without one. -/
theorem next_eq_nextWith {φ : Type w} {fetch : α → Except RequestError β}
    {fetchWith : α → φ → Except RequestError β × φ}
    (h : ∀ key st, (fetchWith key st).1 = fetch key) (c : PageCursor α) (st : φ) :
    c.next fetch = ((c.nextWith fetchWith st).1, (c.nextWith fetchWith st).2.1) := by
  obtain rfl : fetch = fun key => (fetchWith key st).1 := funext fun key => (h key st).symm
  obtain ⟨⟨items, pulled⟩, remaining, failed⟩ := c
  rw [nextWith, next]
  split
  · rfl
  · cases items with
    | nil => rfl
    | cons item rest => cases item <;> rfl

/-- The records that a page has still to return. -/
def pending (fetch : α → Except RequestError β) (c : PageCursor α) :
    List (Except RequestError β) :=
  if c.failed then [] else upToFailure ((atMost c.remaining c.source.rest).map (recordOf fetch))

/-- Fetching with a record of the keys that were fetched. -/
def recording (fetch : α → Except RequestError β) (key : α) (fetched : List α) :
    Except RequestError β × List α :=
  (fetch key, fetched ++ [key])

/-- The page behind its next item. It is done if there is no record of the item. -/
def behind (fetch : α → Except RequestError β) (item : Except StoreFault α)
    (rest : List (Except StoreFault α)) (pulled : Nat) (remaining : Option Nat) : PageCursor α :=
  ⟨⟨rest, pulled + 1⟩, remaining.map (· - 1), !(recordOf fetch item).isOk⟩

variable {fetch : α → Except RequestError β}

theorem behind_source (item : Except StoreFault α) (rest : List (Except StoreFault α))
    (pulled : Nat) (remaining : Option Nat) :
    (behind fetch item rest pulled remaining).source = ⟨rest, pulled + 1⟩ := rfl

/-- Below its limit a page returns the record of the next item. -/
theorem nextWith_cons (item : Except StoreFault α) (rest : List (Except StoreFault α)) (pulled : Nat)
    {remaining : Option Nat} (hlimit : remaining ≠ some 0) (fetched : List α) :
    nextWith (recording fetch) ⟨⟨item :: rest, pulled⟩, remaining, false⟩ fetched =
      (some (recordOf fetch item), behind fetch item rest pulled remaining,
        fetched ++ readableKeys [item]) := by
  cases item with
  | error e =>
    simp [nextWith, isDone, hlimit, Source.pull, recordOf, behind, readableKeys, Except.isOk,
      Except.toBool, Except.toOption]
  | ok key =>
    cases hkey : fetch key <;>
      simp [nextWith, isDone, hlimit, Source.pull, recordOf, behind, readableKeys, Except.isOk,
        Except.toBool, Except.toOption, recording, hkey]

/-- What is pending starts with the record of the next item, as long as the limit is not used up
and no failure was returned. -/
theorem pending_cons (item : Except StoreFault α) (rest : List (Except StoreFault α)) (pulled : Nat)
    {remaining : Option Nat} (hlimit : remaining ≠ some 0) :
    pending fetch ⟨⟨item :: rest, pulled⟩, remaining, false⟩ =
      recordOf fetch item :: pending fetch (behind fetch item rest pulled remaining) := by
  rw [pending, if_neg Bool.false_ne_true, atMost_cons hlimit, List.map_cons, upToFailure_cons,
    pending, behind]
  cases (recordOf fetch item).isOk <;> rfl

/-- A page that has nothing pending pulls nothing and fetches nothing; this is so once a failure was
returned, at the limit, and at the end of the listing. Any other page is at an item. -/
theorem pending_cases (fetch : α → Except RequestError β) (c : PageCursor α) :
    (c.pending fetch = [] ∧
        ∀ fetched, c.nextWith (recording fetch) fetched = (none, c, fetched)) ∨
      ∃ item rest pulled remaining, remaining ≠ some 0 ∧
        c = ⟨⟨item :: rest, pulled⟩, remaining, false⟩ := by
  obtain ⟨⟨items, pulled⟩, remaining, failed⟩ := c
  cases failed with
  | true => exact .inl ⟨rfl, fun _ => rfl⟩
  | false =>
    by_cases hlimit : remaining = some 0
    · subst hlimit
      exact .inl ⟨rfl, fun _ => rfl⟩
    · cases items with
      | nil =>
        refine .inl ⟨by simp [pending, upToFailure], fun fetched => ?_⟩
        simp [nextWith, isDone, hlimit, Source.pull]
      | cons item rest => exact .inr ⟨item, rest, pulled, remaining, hlimit, rfl⟩

end PageCursor

/-! ## Any number of calls -/

section Calls

variable {σ : Type u} {τ : Type v} {γ : Type w}

/-- The answers to calls, one after another, and the state after them. -/
def calls (call : σ → γ × σ) : Nat → σ → List γ × σ
  | 0, s => ([], s)
  | m + 1, s =>
    ((call s).1 :: (calls call m (call s).2).1, (calls call m (call s).2).2)

/-- A state that is seen through a part of it answers like this part. -/
theorem calls_map {call : σ → γ × σ} {call' : τ → γ × τ} (f : σ → τ)
    (h : ∀ s, call' (f s) = ((call s).1, f (call s).2)) (m : Nat) (s : σ) :
    calls call' m (f s) = ((calls call m s).1, f (calls call m s).2) := by
  induction m generalizing s with
  | zero => rfl
  | succ m ih => rw [calls, h s, ih (call s).2, calls]

end Calls

/-- A page that is being read, with a record of the keys that were fetched for it. -/
structure Reading (α : Type u) where
  cursor : PageCursor α
  fetched : List α

namespace Reading

variable {fetch : α → Except RequestError β}

/-- One more record, on record if it was fetched. -/
def next (fetch : α → Except RequestError β) (r : Reading α) :
    Option (Except RequestError β) × Reading α :=
  let (answer, cursor, fetched) := r.cursor.nextWith (PageCursor.recording fetch) r.fetched
  (answer, ⟨cursor, fetched⟩)

/-- The page inside answers like a page of which no record is kept. -/
theorem next_cursor (fetch : α → Except RequestError β) (r : Reading α) :
    r.cursor.next fetch = ((r.next fetch).1, (r.next fetch).2.cursor) := by
  have h (key : α) (fetched : List α) :
      (PageCursor.recording fetch key fetched).1 = fetch key := rfl
  exact PageCursor.next_eq_nextWith h r.cursor r.fetched

/-- **Any number of calls** return what is pending, in order, and nothing after that. One item is
pulled for each record, and just the keys of these items are fetched. -/
theorem calls_next (fetch : α → Except RequestError β) (m : Nat) (r : Reading α) :
    let records := r.cursor.pending fetch
    let n := (records.take m).length
    ∃ c, calls (next fetch) m r =
        ((records.take m).map some ++ List.replicate (m - records.length) none,
          ⟨c, r.fetched ++ readableKeys (r.cursor.source.rest.take n)⟩) ∧
      c.source = ⟨r.cursor.source.rest.drop n, r.cursor.source.pulled + n⟩ := by
  induction m generalizing r with
  | zero => exact ⟨r.cursor, by simp [calls, readableKeys], by simp⟩
  | succ m ih =>
    obtain ⟨c, fetched⟩ := r
    rcases PageCursor.pending_cases fetch c with
        ⟨hpending, hnext⟩ | ⟨item, rest, pulled, remaining, hlimit, rfl⟩
    · have hstep : next fetch ⟨c, fetched⟩ = (none, ⟨c, fetched⟩) := by
        rw [next]
        simp only [hnext]
      obtain ⟨c', hcalls, hsource⟩ := ih ⟨c, fetched⟩
      simp only [hpending, List.take_nil, List.map_nil, List.nil_append, List.length_nil,
        Nat.sub_zero] at hcalls hsource ⊢
      exact ⟨c', by rw [calls, hstep, hcalls]; rfl, hsource⟩
    · have hstep : next fetch ⟨⟨⟨item :: rest, pulled⟩, remaining, false⟩, fetched⟩ =
          (some (recordOf fetch item),
            ⟨.behind fetch item rest pulled remaining, fetched ++ readableKeys [item]⟩) := by
        rw [next]
        simp only [PageCursor.nextWith_cons item rest pulled hlimit]
      obtain ⟨c', hcalls, hsource⟩ :=
        ih ⟨.behind fetch item rest pulled remaining, fetched ++ readableKeys [item]⟩
      refine ⟨c', ?_, ?_⟩
      · simp only [calls, hstep, hcalls, PageCursor.pending_cons item rest pulled hlimit,
          PageCursor.behind_source, List.take_succ_cons, List.map_cons, List.cons_append,
          List.length_cons, Nat.add_sub_add_right, List.append_assoc]
        rw [readableKeys_cons item (rest.take _)]
      · simp only [PageCursor.pending_cons item rest pulled hlimit, List.take_succ_cons,
          List.length_cons, List.drop_succ_cons]
        rw [hsource, PageCursor.behind_source, Nat.add_right_comm pulled, Nat.add_assoc pulled]

end Reading

/-! ## Opening a page -/

namespace PageCursor

/-- A page cannot be opened if an item to be skipped is unreadable. Nothing after it is pulled. -/
theorem ofWindow_of_unreadable {items : List (Except StoreFault α)} {w : Window}
    {readable : List α} {e : StoreFault} {rest : List (Except StoreFault α)}
    (h : items.take (w.offset.getD 0) = readable.map .ok ++ .error e :: rest) :
    ofWindow (Source.ofList items) w =
      (.error (.fetchFailure e), Source.after items (readable.length + 1)) := by
  have hlength : readable.length < w.offset.getD 0 := by
    have htake := congrArg List.length h
    rw [List.length_take, List.length_append, List.length_map, List.length_cons] at htake
    omega
  obtain ⟨tail, rfl⟩ : ∃ tail, items = readable.map .ok ++ .error e :: tail :=
    ⟨rest ++ items.drop (w.offset.getD 0), by
      rw [← List.cons_append, ← List.append_assoc, ← h, List.take_append_drop]⟩
  obtain ⟨m, hm⟩ : ∃ m, w.offset.getD 0 - readable.length = m + 1 :=
    Nat.exists_eq_succ_of_ne_zero (by omega)
  simp [ofWindow, Source.ofList, Source.skip_append _ _ _ _ _ _ (Nat.le_of_lt hlength), hm,
    Source.skip, Source.pull, Source.after, List.drop_append]

/-- A page cannot be opened if there are fewer items than are to be skipped. -/
theorem ofWindow_of_short {keys : List α} {w : Window} (h : keys.length < w.offset.getD 0) :
    ofWindow (Source.ofList (keys.map .ok)) w =
      (.error (.offsetOutOfRange (w.offset.getD 0) keys.length),
        Source.after (keys.map .ok) keys.length) := by
  simp [ofWindow, Source.ofList, Source.skip_of_ok, Nat.not_le.mpr h, Source.after]

/-- Otherwise a page starts behind the items that it skips. -/
theorem ofWindow_of_readable {items : List (Except StoreFault α)} {w : Window}
    {skipped : List α} (h : items.take (w.offset.getD 0) = skipped.map .ok)
    (hlength : w.offset.getD 0 ≤ items.length) :
    ofWindow (Source.ofList items) w =
      (.ok ⟨Source.after items (w.offset.getD 0), w.limit, false⟩,
        Source.after items (w.offset.getD 0)) := by
  have hskipped : skipped.length = w.offset.getD 0 := by
    have htake := congrArg List.length h
    rw [List.length_take_of_le hlength, List.length_map] at htake
    exact htake.symm
  have hskip := Source.skip_append (w.offset.getD 0) 0 _ skipped (items.drop (w.offset.getD 0)) 0
    (Nat.le_of_eq hskipped)
  rw [← h, List.take_append_drop, hskipped, Nat.sub_self, Nat.zero_add] at hskip
  simp only [ofWindow, Source.ofList, hskip]
  rfl

/-- **A page of a listing, whatever fails.** If an item to be skipped is unreadable, the first such
item is the failure of the page; otherwise it is a failure to have fewer items than are to be
skipped. If there is no such failure, calls return the records of the items in the window, in
order, up to the first failure, and nothing after that. One item is pulled for each item that is
skipped and for each record that is returned, and just the keys of the latter are fetched. -/
theorem reads_exactly (fetch : α → Except RequestError β) (items : List (Except StoreFault α))
    (w : Window) :
    let offset := w.offset.getD 0
    let opened := ofWindow (Source.ofList items) w
    ((∃ e, .error e ∈ items.take offset) →
      ∃ (readable : List α) (e : StoreFault) (rest : List (Except StoreFault α)),
        items.take offset = readable.map .ok ++ .error e :: rest ∧
        opened = (.error (.fetchFailure e), Source.after items (readable.length + 1))) ∧
    ((∀ e, .error e ∉ items.take offset) → items.length < offset →
      opened = (.error (.offsetOutOfRange offset items.length),
        Source.after items items.length)) ∧
    ((∀ e, .error e ∉ items.take offset) → offset ≤ items.length →
      ∃ c, opened = (.ok c, Source.after items offset) ∧ c.source = Source.after items offset ∧
        ∀ m,
          let rows := upToFailure ((w.slice items).map (recordOf fetch))
          let n := (rows.take m).length
          let answers := (rows.take m).map some ++ List.replicate (m - rows.length) none
          ∃ c', calls (next fetch) m c = (answers, c') ∧
            c'.source = Source.after items (offset + n) ∧
            calls (Reading.next fetch) m ⟨c, []⟩ =
              (answers, ⟨c', readableKeys ((items.drop offset).take n)⟩)) := by
  intro offset opened
  refine ⟨?_, ?_, ?_⟩
  · rintro ⟨e, he⟩
    obtain ⟨keys, hkeys⟩ | ⟨readable, e, rest, hfirst⟩ :=
      readable_or_unreadable (items.take offset)
    · rw [hkeys] at he
      simp at he
    · exact ⟨readable, e, rest, hfirst, ofWindow_of_unreadable hfirst⟩
  · intro hreadable hlength
    rw [List.take_of_length_le (Nat.le_of_lt hlength)] at hreadable
    obtain ⟨keys, rfl⟩ := exists_map_ok hreadable
    rw [List.length_map] at hlength ⊢
    exact ofWindow_of_short hlength
  · intro hreadable hlength
    obtain ⟨skipped, hskipped⟩ := exists_map_ok hreadable
    refine ⟨_, ofWindow_of_readable hskipped hlength, rfl, fun m => ?_⟩
    obtain ⟨c', hcalls, hsource⟩ :=
      Reading.calls_next fetch m ⟨⟨Source.after items offset, w.limit, false⟩, []⟩
    refine ⟨c', ?_, ?_, hcalls⟩
    · have hplain := calls_map Reading.cursor (Reading.next_cursor fetch) m
        ⟨⟨Source.after items offset, w.limit, false⟩, []⟩
      rw [hcalls] at hplain
      exact hplain
    · rw [hsource, Source.after, Source.after, List.drop_drop]
      rfl

/-- Four keys, the third of which is unreadable. -/
def tornListing : List (Except StoreFault Nat) :=
  [.ok 0, .ok 1, .error (.storage "torn"), .ok 3]

/-- Behind the first key of a torn listing, three calls return a record, the failure and nothing;
the last key is never pulled. -/
theorem reads_exactly_torn :
    ∃ c, ofWindow (Source.ofList tornListing) ⟨some 1, some 3⟩ =
        (.ok c, Source.after tornListing 1) ∧
      ∃ c', calls (next fun key => .ok (key * key)) 3 c =
          ([some (.ok 1), some (.error (.fetchFailure (.storage "torn"))), none], c') ∧
        c'.source = ⟨[.ok 3], 3⟩ ∧
        calls (Reading.next fun key => .ok (key * key)) 3 ⟨c, []⟩ =
          ([some (.ok 1), some (.error (.fetchFailure (.storage "torn"))), none], ⟨c', [1]⟩) := by
  obtain ⟨c, hopen, -, hcalls⟩ :=
    (reads_exactly (fun key => .ok (key * key)) tornListing ⟨some 1, some 3⟩).2.2
      (by simp [tornListing]) (by decide)
  exact ⟨c, hopen, hcalls 3⟩

end PageCursor

end PropertyGraph
