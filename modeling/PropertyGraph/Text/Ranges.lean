/-!
# Sets of characters given by ranges

Character classes with thousands of members are written as ascending lists of
inclusive code point ranges.

- `inRanges`: membership, which stops at the first range that lies beyond.
- `ascendingFrom`: ranges in order, none of them empty and no two that meet.
- `inRanges_iff`: for such ranges this is membership in one of them, so that the search
  passes over none.
-/

namespace PropertyGraph

/-- Whether a code point lies in one of the ranges of an ascending list. -/
def inRanges (n : Nat) : List (Nat × Nat) → Bool
  | [] => false
  | (lo, hi) :: rest => if n < lo then false else n ≤ hi || inRanges n rest

/-- Whether ranges lie from `start` on, each behind the one before it. -/
def ascendingFrom (start : Nat) : List (Nat × Nat) → Bool
  | [] => true
  | (lo, hi) :: rest => start ≤ lo && lo ≤ hi && ascendingFrom (hi + 1) rest

theorem ascendingFrom_cons {start lo hi : Nat} {rest : List (Nat × Nat)} :
    ascendingFrom start ((lo, hi) :: rest) = true ↔
      start ≤ lo ∧ lo ≤ hi ∧ ascendingFrom (hi + 1) rest = true := by
  simp [ascendingFrom, and_assoc]

/-- All ranges lie from `start` on. -/
theorem le_of_ascendingFrom {start : Nat} {ranges : List (Nat × Nat)}
    (h : ascendingFrom start ranges = true) : ∀ r ∈ ranges, start ≤ r.1 := by
  induction ranges generalizing start with
  | nil => exact List.forall_mem_nil _
  | cons r rest ih =>
    obtain ⟨lo, hi⟩ := r
    obtain ⟨hstart, hlo, hrest⟩ := ascendingFrom_cons.1 h
    refine List.forall_mem_cons.2 ⟨hstart, fun r hr => ?_⟩
    have hhi : hi + 1 ≤ r.1 := ih hrest r hr
    omega

/-- A code point is found exactly if some range holds it. -/
theorem inRanges_iff {n start : Nat} {ranges : List (Nat × Nat)}
    (h : ascendingFrom start ranges = true) :
    inRanges n ranges = true ↔ ∃ r ∈ ranges, r.1 ≤ n ∧ n ≤ r.2 := by
  induction ranges generalizing start with
  | nil => simp [inRanges]
  | cons r rest ih =>
    obtain ⟨lo, hi⟩ := r
    obtain ⟨-, hlo, hrest⟩ := ascendingFrom_cons.1 h
    rw [inRanges]
    split
    · next hlt =>
      -- all later ranges lie beyond the one at which the search stops
      constructor
      · intro hf
        cases hf
      · rintro ⟨r, hr, hle, -⟩
        rcases List.mem_cons.1 hr with rfl | hr
        · exact absurd hle (Nat.not_le.2 hlt)
        · have hbeyond : hi + 1 ≤ r.1 := le_of_ascendingFrom hrest r hr
          omega
    · next hge =>
      have hle : lo ≤ n := Nat.not_lt.1 hge
      simp [hle, ih hrest]

end PropertyGraph
