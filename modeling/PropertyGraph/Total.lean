/-!
# Totals of counts

- `total`: the sum of a list of counts.
- `total_eq_zero_iff`: a total is zero if there is nothing to count.
- `total_total_comm`: counts in rows and columns have one total.
- `length_flatMap_eq_total`: lists laid end to end are as long as all of them together.
-/

namespace PropertyGraph

/-- The sum of a list of counts. -/
def total : List Nat → Nat
  | [] => 0
  | n :: ns => n + total ns

@[simp] theorem total_nil : total [] = 0 := rfl

@[simp] theorem total_cons (n : Nat) (ns : List Nat) : total (n :: ns) = n + total ns := rfl

theorem total_eq_zero_iff {ns : List Nat} : total ns = 0 ↔ ∀ n ∈ ns, n = 0 := by
  induction ns with
  | nil => simp
  | cons n rest ih => rw [total_cons, Nat.add_eq_zero_iff, ih, List.forall_mem_cons]

theorem total_map_add {α : Type} (f g : α → Nat) (l : List α) :
    total (l.map fun a => f a + g a) = total (l.map f) + total (l.map g) := by
  induction l with
  | nil => rfl
  | cons a rest ih =>
    simp only [List.map_cons, total_cons, ih]
    omega

/-- A table of counts has one total, whether it is read by rows or by columns. -/
theorem total_total_comm {α β : Type} (f : α → β → Nat) (as : List α) (bs : List β) :
    total (as.map fun a => total (bs.map (f a))) =
      total (bs.map fun b => total (as.map fun a => f a b)) := by
  induction as with
  | nil =>
    refine (total_eq_zero_iff.2 fun n hn => ?_).symm
    obtain ⟨b, -, rfl⟩ := List.mem_map.1 hn
    rfl
  | cons a rest ih => simp only [List.map_cons, total_cons, ih, total_map_add]

theorem length_flatMap_eq_total {α β : Type} (f : α → List β) (l : List α) :
    (l.flatMap f).length = total (l.map fun a => (f a).length) := by
  induction l with
  | nil => rfl
  | cons a rest ih => rw [List.flatMap_cons, List.length_append, ih, List.map_cons, total_cons]

end PropertyGraph
