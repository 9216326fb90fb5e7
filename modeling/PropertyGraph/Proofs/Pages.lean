import Mathlib.Data.List.Forall2
import PropertyGraph.Request.Page

/-!
# Pages of readable listings

As long as every key can be read and every record fetched, a page is a slice of the records:
the offset is cut off in front and the limit decides how much of the rest is returned.

- `atMost`, `Window.slice`: the items of a list that a window asks for.
- `Source.skip_append`: skipping passes over readable items, whatever comes after them.
- `Source.skip_of_ok`, `PageCursor.records_of_ok`: what the two halves of a page do.
- `page_of_ok`: **a page is a slice**, or the offset lies beyond the end.
-/

universe u v

namespace PropertyGraph

variable {α : Type u} {β : Type v}

/-- The first items of a list, as many as a limit allows. -/
def atMost (limit : Option Nat) (l : List α) : List α :=
  match limit with
  | none => l
  | some n => l.take n

@[simp] theorem atMost_nil (limit : Option Nat) : atMost limit ([] : List α) = [] := by
  cases limit <;> simp [atMost]

/-- A limit that is not used up admits one item more than it does once it is lowered. -/
theorem atMost_cons {limit : Option Nat} (h : limit ≠ some 0) (item : α) (rest : List α) :
    atMost limit (item :: rest) = item :: atMost (limit.map (· - 1)) rest := by
  cases limit with
  | none => rfl
  | some n =>
    obtain ⟨m, rfl⟩ := Nat.exists_eq_succ_of_ne_zero fun hn => h (congrArg some hn)
    rfl

/-- The items of a list that a window asks for. -/
def Window.slice (w : Window) (l : List α) : List α := atMost w.limit (l.drop (w.offset.getD 0))

/-- Skipping passes over readable items, whatever comes after them. -/
theorem Source.skip_append (offset skipped n : Nat) (keys : List α)
    (rest : List (Except StoreFault α)) (pulled : Nat) (h : keys.length ≤ n) :
    skip offset skipped n ⟨keys.map .ok ++ rest, pulled⟩ =
      skip offset (skipped + keys.length) (n - keys.length) ⟨rest, pulled + keys.length⟩ := by
  induction keys generalizing skipped n pulled with
  | nil => rfl
  | cons key keys ih =>
    obtain ⟨m, rfl⟩ := Nat.exists_eq_add_of_le' (Nat.le_trans (Nat.succ_le_succ (Nat.zero_le _)) h)
    show skip offset (skipped + 1) m ⟨keys.map .ok ++ rest, pulled + 1⟩ = _
    rw [ih (skipped + 1) m (pulled + 1) (Nat.le_of_succ_le_succ h), List.length_cons,
      Nat.add_sub_add_right, Nat.add_right_comm skipped, Nat.add_right_comm pulled]
    rfl

/-- Skipping readable items fails only at the end of the listing. -/
theorem Source.skip_of_ok (offset skipped n : Nat) (items : List α) (pulled : Nat) :
    skip offset skipped n ⟨items.map .ok, pulled⟩ =
      if n ≤ items.length then (.ok (), ⟨(items.drop n).map .ok, pulled + n⟩)
      else (.error (.offsetOutOfRange offset (skipped + items.length)),
        ⟨[], pulled + items.length⟩) := by
  split
  · next h =>
    have htake : (items.take n).length = n := List.length_take_of_le h
    have hskip := skip_append offset skipped n (items.take n) ((items.drop n).map .ok) pulled
      (Nat.le_of_eq htake)
    rwa [← List.map_append, List.take_append_drop, htake, Nat.sub_self] at hskip
  · next h =>
    obtain ⟨m, hm⟩ : ∃ m, n - items.length = m + 1 := Nat.exists_eq_succ_of_ne_zero (by omega)
    have hskip := skip_append offset skipped n items [] pulled (Nat.le_of_not_le h)
    rwa [List.append_nil, hm] at hskip

namespace PageCursor

variable {fetch : α → Except RequestError β} {c c' : PageCursor α}

theorem records_of_next_none (h : c.next fetch = (none, c')) : c.records fetch = .ok [] := by
  rw [records]
  split
  · rfl
  · next h' => cases h.symm.trans h'
  · next h' => cases h.symm.trans h'

theorem records_of_next_ok {r : β} (h : c.next fetch = (some (.ok r), c')) :
    c.records fetch = (c'.records fetch).map (r :: ·) := by
  rw [records]
  split
  · next h' => cases h.symm.trans h'
  · next h' => cases h.symm.trans h'
  · next h' =>
    cases h.symm.trans h'
    cases c'.records fetch <;> rfl

/-- A cursor below its limit returns the record of the next item. -/
theorem next_of_ok {item : α} {r : β} (hr : fetch item = .ok r) (rest : List α) (pulled : Nat)
    {remaining : Option Nat} (hlimit : remaining ≠ some 0) :
    next fetch ⟨⟨(item :: rest).map .ok, pulled⟩, remaining, false⟩ =
      (some (.ok r), ⟨⟨rest.map .ok, pulled + 1⟩, remaining.map (· - 1), false⟩) := by
  simp [next, isDone, hlimit, Source.pull, hr]

/-- Of readable items a cursor returns the records of as many as the limit allows. -/
theorem records_of_ok {items : List α} {records : List β}
    (h : List.Forall₂ (fun item r => fetch item = .ok r) items records) (pulled : Nat)
    (remaining : Option Nat) :
    PageCursor.records fetch ⟨⟨items.map .ok, pulled⟩, remaining, false⟩ =
      .ok (atMost remaining records) := by
  induction h generalizing pulled remaining with
  | nil =>
    have hnext : next fetch ⟨⟨[].map .ok, pulled⟩, remaining, false⟩ =
        (none, ⟨⟨[], pulled⟩, remaining, false⟩) := by
      simp [next, Source.pull]
    rw [records_of_next_none hnext, atMost_nil]
  | cons hitem _ ih =>
    by_cases hlimit : remaining = some 0
    · subst hlimit
      rw [records_of_next_none rfl]
      simp [atMost]
    · rw [records_of_next_ok (next_of_ok hitem _ pulled hlimit), ih]
      rw [atMost_cons hlimit]
      rfl

end PageCursor

/-- **A page of a readable listing is a slice of its records.** If the offset lies beyond the
end, the answer says where the end is. -/
theorem page_of_ok {fetch : α → Except RequestError β} {items : List α} {records : List β}
    (h : List.Forall₂ (fun item r => fetch item = .ok r) items records) (w : Window) :
    page (items.map .ok) w fetch =
      if w.offset.getD 0 ≤ records.length then .ok (w.slice records)
      else .error (.offsetOutOfRange (w.offset.getD 0) records.length) := by
  rw [← h.length_eq]
  by_cases hoffset : w.offset.getD 0 ≤ items.length
  · simp only [page, PageCursor.ofWindow, Source.ofList, Source.skip_of_ok, if_pos hoffset]
    exact PageCursor.records_of_ok (List.forall₂_drop _ h) _ _
  · simp only [page, PageCursor.ofWindow, Source.ofList, Source.skip_of_ok, if_neg hoffset,
      Nat.zero_add]

end PropertyGraph
