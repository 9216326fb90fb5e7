import PropertyGraph.Proofs.Partitions
import PropertyGraph.Store.Transaction

/-!
# Commits are atomic

A commit works on copies of the partitions that its operations name and lays them over the
store at the end. This module shows that nobody can tell: the outcome is that of carrying
the operations out in place, one after another, or nothing at all.

- `Store.overlay`: the store as it would be if the working copies were laid over it now.
  `applyToCopy_overlay`: **one operation on its copy is one operation in place**, seen
  through the overlay. This is the simulation that a whole commit follows.
- `Store.commit_eq_run`: a commit and a run in place agree, in success and in failure.
- `Store.run_eq_error_iff`: a run fails for the reason of the first operation that does.
- `StoreTransaction.commit_atomic`: **the main statement**.
-/

namespace PropertyGraph

namespace Store

/-! ## Running in place -/

@[simp] theorem run_nil (s : Store) : s.run [] = .ok s := rfl

@[simp] theorem run_cons (s : Store) (op : Operation) (ops : List Operation) :
    s.run (op :: ops) = s.apply op >>= fun t => t.run ops := rfl

theorem run_append (s : Store) (xs ys : List Operation) :
    s.run (xs ++ ys) = s.run xs >>= fun t => t.run ys :=
  List.foldlM_append

/-- What an operation does in place: it changes its partition and no other. -/
theorem apply_eq_ok_iff {s t : Store} {op : Operation} :
    s.apply op = .ok t ↔
      ∃ p, (s.partitionOrEmpty op.partition).apply op = .ok p ∧
        t = ⟨s.partitions.insert op.partition p⟩ := by
  rw [apply, bind_eq_ok_iff]
  refine exists_congr fun p => and_congr_right fun _ => ?_
  constructor
  · intro h
    cases h
    rfl
  · rintro rfl
    rfl

theorem partition?_apply {s t : Store} {op : Operation} (h : s.apply op = .ok t) {name : String}
    (hn : name ≠ op.partition) : t.partition? name = s.partition? name := by
  obtain ⟨p, -, rfl⟩ := apply_eq_ok_iff.1 h
  rw [partition?, NameMap.get?_insert, if_neg (Ne.symm hn), partition?]

/-- A run leaves the partitions alone that none of its operations names. -/
theorem partition?_run {s t : Store} {ops : List Operation} (h : s.run ops = .ok t)
    {name : String} (hn : name ∉ ops.map Operation.partition) :
    t.partition? name = s.partition? name := by
  induction ops generalizing s with
  | nil =>
    cases h
    rfl
  | cons op rest ih =>
    rw [List.map_cons, List.mem_cons, not_or] at hn
    obtain ⟨mid, hmid, h⟩ := bind_eq_ok_iff.1 h
    rw [ih h hn.2, partition?_apply hmid hn.1]

/-- A run fails exactly for the reason of the first operation that cannot be carried out
after all before it were. -/
theorem run_eq_error_iff {s : Store} {ops : List Operation} {e : StoreFault} :
    s.run ops = .error e ↔
      ∃ done op rest mid, ops = done ++ op :: rest ∧ s.run done = .ok mid ∧
        mid.apply op = .error e := by
  constructor
  · intro h
    -- the first operation fails, or it succeeds and the first failure is further on
    induction ops generalizing s with
    | nil => cases h
    | cons op rest ih =>
      rw [run_cons] at h
      cases hop : s.apply op with
      | error e' =>
        rw [hop] at h
        cases h
        exact ⟨[], op, rest, s, rfl, rfl, hop⟩
      | ok t =>
        rw [hop] at h
        obtain ⟨done, op', rest', mid, rfl, hdone, hmid⟩ := ih h
        refine ⟨op :: done, op', rest', mid, rfl, ?_, hmid⟩
        rw [run_cons, hop]
        exact hdone
  · rintro ⟨done, op, rest, mid, rfl, hdone, hmid⟩
    rw [run_append, hdone]
    show (mid.apply op >>= fun t => t.run rest) = .error e
    rw [hmid]
    rfl

/-! ## Working copies -/

/-- The store with working copies laid over its partitions. -/
def overlay (s : Store) (copies : NameMap Partition) : Store := ⟨s.partitions.union copies⟩

@[simp] theorem overlay_empty (s : Store) : s.overlay ∅ = s := by
  obtain ⟨partitions⟩ := s
  exact congrArg Store.mk (NameMap.ext_get? fun x => by simp)

theorem overlay_insert (s : Store) (copies : NameMap Partition) (name : String) (p : Partition) :
    s.overlay (copies.insert name p) = ⟨(s.overlay copies).partitions.insert name p⟩ := by
  refine congrArg Store.mk (NameMap.ext_get? fun x => ?_)
  rw [NameMap.get?_union, NameMap.get?_insert, NameMap.get?_insert, overlay, NameMap.get?_union]
  by_cases hx : name = x <;> simp [hx]

/-- A copy that was taken is what an operation finds; a partition without one is still as
in the store. -/
theorem partitionOrEmpty_overlay (s : Store) (copies : NameMap Partition) (name : String) :
    (s.overlay copies).partitionOrEmpty name =
      (copies.get? name).getD (s.partitionOrEmpty name) := by
  rw [partitionOrEmpty, partition?, overlay, NameMap.get?_union]
  cases copies.get? name <;> rfl

/-- **One operation on its working copy is one operation in place.** -/
theorem applyToCopy_overlay (s : Store) (copies : NameMap Partition) (op : Operation) :
    (s.applyToCopy copies op).map s.overlay = (s.overlay copies).apply op := by
  rw [applyToCopy, apply, partitionOrEmpty_overlay]
  cases ((copies.get? op.partition).getD (s.partitionOrEmpty op.partition)).apply op with
  | error e => rfl
  | ok p => exact congrArg Except.ok (overlay_insert s copies op.partition p)

/-- The simulation, for a whole run from any set of copies. -/
theorem foldlM_applyToCopy_overlay (s : Store) (copies : NameMap Partition)
    (ops : List Operation) :
    (ops.foldlM s.applyToCopy copies).map s.overlay = (s.overlay copies).run ops := by
  -- for all copies at once, because each operation leaves other ones
  induction ops generalizing copies with
  | nil => rfl
  | cons op rest ih =>
    rw [List.foldlM_cons, run_cons, ← applyToCopy_overlay]
    cases s.applyToCopy copies op with
    | error e => rfl
    | ok copies' => exact ih copies'

/-- A commit and a run in place agree, in success and in failure. -/
theorem commit_eq_run (s : Store) (ops : List Operation) : s.commit ops = s.run ops := by
  have h := foldlM_applyToCopy_overlay s ∅ ops
  rw [overlay_empty] at h
  rw [← h, commit, workingCopies]
  cases ops.foldlM s.applyToCopy ∅ <;> rfl

end Store

/-! ## The main statement -/

/-- **Commits are atomic.** From any store, a commit fails exactly if carrying out the
operations in place meets a fault, with the first such fault, and then the store is as it
was; otherwise the store is what carrying them out in place leaves. Either way the
partitions that no operation names are as they were. -/
theorem StoreTransaction.commit_atomic (s : Store) (ops : List Operation) :
    (∀ e, (StoreTransaction.commit ⟨s, ⟨ops⟩⟩).1 = .error e ↔
      ∃ done op rest mid, ops = done ++ op :: rest ∧ s.run done = .ok mid ∧
        mid.apply op = .error e) ∧
    (∀ e, (StoreTransaction.commit ⟨s, ⟨ops⟩⟩).1 = .error e →
      (StoreTransaction.commit ⟨s, ⟨ops⟩⟩).2.store = s) ∧
    (∀ t, (StoreTransaction.commit ⟨s, ⟨ops⟩⟩).1 = .ok () ∧
      (StoreTransaction.commit ⟨s, ⟨ops⟩⟩).2.store = t ↔ s.run ops = .ok t) ∧
    ∀ name, name ∉ ops.map Operation.partition →
      (StoreTransaction.commit ⟨s, ⟨ops⟩⟩).2.store.partition? name = s.partition? name := by
  simp only [← Store.run_eq_error_iff, StoreTransaction.commit, Store.commit_eq_run]
  cases hrun : s.run ops with
  | error e => simp
  | ok t =>
    refine ⟨by simp, by simp, by simp, fun name hn => ?_⟩
    exact Store.partition?_run hrun hn

end PropertyGraph
