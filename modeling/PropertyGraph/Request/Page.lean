import PropertyGraph.Request.Error
import PropertyGraph.Request.Window

/-!
# Pages of a list

A store lists keys one after another and any of them may turn out unreadable. A
window is cut out of such a listing by skipping and by stopping early, so that no
more keys are pulled and no more records fetched than are returned.

- `Source`: a listing and how much of it has been pulled.
- `PageCursor.ofWindow`: skip to the start of a window.
- `PageCursor.next`: one more record. The first failure is returned as the last
  record.
- `PageCursor.records`: all records of the page, or the first failure.
-/

universe u v

namespace PropertyGraph

/-- A listing, some of which has been pulled. -/
structure Source (α : Type u) where
  /-- What is still to be pulled. -/
  rest : List (Except StoreFault α)
  /-- How many items have been pulled. -/
  pulled : Nat

namespace Source

variable {α : Type u}

/-- A listing nothing of which has been pulled. -/
def ofList (items : List (Except StoreFault α)) : Source α := ⟨items, 0⟩

/-- Pull one item. -/
def pull (s : Source α) : Option (Except StoreFault α) × Source α :=
  match s.rest with
  | [] => (none, s)
  | item :: rest => (some item, ⟨rest, s.pulled + 1⟩)

/-- Pull items without using them. At the end of the listing or at an unreadable item
this fails; `skipped` counts the items that were skipped before. -/
def skip (offset skipped : Nat) : Nat → Source α → Except RequestError Unit × Source α
  | 0, s => (.ok (), s)
  | n + 1, s =>
    match s.pull with
    | (none, s) => (.error (.offsetOutOfRange offset skipped), s)
    | (some (.error e), s) => (.error (.fetchFailure e), s)
    | (some (.ok _), s) => skip offset (skipped + 1) n s

end Source

/-- A page that is being read. -/
structure PageCursor (α : Type u) where
  source : Source α
  /-- How many more records may be returned. -/
  remaining : Option Nat
  /-- Whether a failure has been returned. -/
  failed : Bool

namespace PageCursor

variable {α : Type u} {β : Type v}

/-- Skip to the start of a window. The source is what is left of the listing, also if
this fails. -/
def ofWindow (s : Source α) (w : Window) : Except RequestError (PageCursor α) × Source α :=
  let offset := w.offset.getD 0
  match s.skip offset 0 offset with
  | (.error e, s) => (.error e, s)
  | (.ok (), s) => (.ok ⟨s, w.limit, false⟩, s)

/-- Whether no more records will be returned whatever the listing holds. -/
def isDone (c : PageCursor α) : Bool := c.failed || c.remaining = some 0

/-- One more record, fetched for the next key. -/
def next (fetch : α → Except RequestError β) (c : PageCursor α) :
    Option (Except RequestError β) × PageCursor α :=
  if c.isDone then (none, c)
  else
    match c.source.pull with
    | (none, s) => (none, { c with source := s })
    | (some item, s) =>
      let record := match item with
        | .ok key => fetch key
        | .error e => .error (.fetchFailure e)
      let failed := match record with
        | .ok _ => false
        | .error _ => true
      (some record, ⟨s, c.remaining.map (· - 1), failed⟩)

/-- A record leaves less of the listing. -/
theorem next_length {fetch : α → Except RequestError β} {c c' : PageCursor α}
    {r : Except RequestError β} (h : c.next fetch = (some r, c')) :
    c'.source.rest.length < c.source.rest.length := by
  unfold next at h
  split at h
  · cases h
  · unfold Source.pull at h
    split at h
    · cases h
    · next item s heq =>
      split at heq
      · cases heq
      · next i rest hr =>
        cases heq
        cases h
        rw [hr]
        exact Nat.lt_succ_self _

/-- All further records of the page, or the first failure. -/
def records (fetch : α → Except RequestError β) (c : PageCursor α) :
    Except RequestError (List β) :=
  match _h : c.next fetch with
  | (none, _) => .ok []
  | (some (.error e), _) => .error e
  | (some (.ok r), c') =>
    match c'.records fetch with
    | .ok rs => .ok (r :: rs)
    | .error e => .error e
termination_by c.source.rest.length
decreasing_by exact next_length _h

end PageCursor

/-- The records of a window of a listing, or why there are none. -/
def page {α : Type u} {β : Type v} (items : List (Except StoreFault α)) (w : Window)
    (fetch : α → Except RequestError β) : Except RequestError (List β) :=
  match (PageCursor.ofWindow (Source.ofList items) w).1 with
  | .ok c => c.records fetch
  | .error e => .error e

end PropertyGraph
