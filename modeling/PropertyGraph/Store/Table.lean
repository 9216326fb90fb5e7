import PropertyGraph.NameMap

/-!
# Insertion-ordered tables

The entities of one kind are kept by key. Beside them a table lists the keys in the
order in which they were first stored; listings follow this order, look-ups do not
see it.

- `Table.get?`: the view by key.
- `Table.keys`, `Table.rows`: the view by order.
- `Table.put`: store under a key; a key that is already there keeps its place.
- `Table.erase`, `Table.eraseAll`: forget a key, or several.
- `Table.ext_get?`: a table is its two views. `Table.put_of_get?`,
  `Table.erase_of_get?_eq_none`: storing what is stored and forgetting what is not change
  nothing.
- `Table.Consistent`: **the two views agree**: every stored key is listed, once, and
  no other. `Consistent.put`, `Consistent.erase`, `Consistent.eraseAll`: the
  operations keep it so.
-/

universe u

namespace PropertyGraph

/-- Values by key, with the order in which the keys were first stored. -/
structure Table (α : Type u) where
  /-- The keys in the order of insertion. -/
  keys : List String
  /-- The values by key. -/
  entries : NameMap α

namespace Table

variable {α : Type u}

instance : EmptyCollection (Table α) := ⟨⟨[], ∅⟩⟩
instance : Inhabited (Table α) := ⟨∅⟩

/-- The value stored under a key. -/
def get? (t : Table α) (key : String) : Option α := t.entries.get? key

/-- Keys and values in the order of insertion. -/
def rows (t : Table α) : Bindings α :=
  t.keys.filterMap fun key => (t.get? key).map fun v => (key, v)

/-- How many values are stored. -/
def size (t : Table α) : Nat := t.entries.size

/-- Whether nothing is stored. -/
def isEmpty (t : Table α) : Bool := t.entries.isEmpty

/-- Store a value under a key. -/
def put (t : Table α) (key : String) (v : α) : Table α where
  keys := if (t.get? key).isSome then t.keys else t.keys ++ [key]
  entries := t.entries.insert key v

/-- Forget a key; nothing happens if nothing is stored under it. -/
def erase (t : Table α) (key : String) : Table α :=
  if (t.get? key).isSome then ⟨t.keys.filter (· ≠ key), t.entries.erase key⟩ else t

/-- Forget keys one after another. -/
def eraseAll (t : Table α) (keys : List String) : Table α := keys.foldl erase t

/-! ## The view by key -/

@[simp] theorem get?_empty (key : String) : (∅ : Table α).get? key = none := rfl

@[simp] theorem get?_put (t : Table α) (key : String) (v : α) (x : String) :
    (t.put key v).get? x = if key = x then some v else t.get? x :=
  NameMap.get?_insert t.entries key v x

@[simp] theorem get?_erase (t : Table α) (key x : String) :
    (t.erase key).get? x = if key = x then none else t.get? x := by
  unfold erase
  split
  · exact NameMap.get?_erase t.entries key x
  · next h =>
    split
    · next hx =>
      subst hx
      simpa using h
    · rfl

@[simp] theorem get?_eraseAll (t : Table α) (keys : List String) (x : String) :
    (t.eraseAll keys).get? x = if x ∈ keys then none else t.get? x := by
  induction keys generalizing t with
  | nil => simp [eraseAll]
  | cons key rest ih =>
    show ((t.erase key).eraseAll rest).get? x = _
    rw [ih, get?_erase]
    by_cases hr : x ∈ rest
    · simp [hr]
    · by_cases hx : key = x
      · simp [hx]
      · simp [hr, hx, Ne.symm hx]

/-- Forgetting a stored key makes the table smaller. -/
theorem size_erase_lt {t : Table α} {key : String} {v : α} (h : t.get? key = some v) :
    (t.erase key).size < t.size := by
  rw [erase, h, if_pos (by rfl)]
  exact NameMap.size_erase_lt h

/-- Forgetting a key never makes the table larger. -/
theorem size_erase_le (t : Table α) (key : String) : (t.erase key).size ≤ t.size := by
  unfold erase
  split
  · exact NameMap.size_erase_le t.entries key
  · exact Nat.le_refl _

/-- A table is its two views: the keys in their order and the values by key. -/
theorem ext_get? {t t' : Table α} (hkeys : t.keys = t'.keys) (h : ∀ x, t.get? x = t'.get? x) :
    t = t' := by
  obtain ⟨keys, entries⟩ := t
  obtain ⟨keys', entries'⟩ := t'
  obtain rfl : keys = keys' := hkeys
  obtain rfl : entries = entries' := NameMap.ext_get? h
  rfl

/-- Storing what is stored already changes nothing. -/
theorem put_of_get? {t : Table α} {key : String} {v : α} (h : t.get? key = some v) :
    t.put key v = t := by
  refine ext_get? ?_ fun x => ?_
  · rw [put, h]
    rfl
  · rw [get?_put]
    split
    · next hx => rw [← hx, h]
    · rfl

/-- Forgetting what is not stored changes nothing. -/
theorem erase_of_get?_eq_none {t : Table α} {key : String} (h : t.get? key = none) :
    t.erase key = t := by
  rw [erase, h]
  rfl

/-! ## The view by order -/

/-- The two views of a table agree. -/
structure Consistent (t : Table α) : Prop where
  /-- No key is listed twice. -/
  nodup : t.keys.Nodup
  /-- The listed keys are those with a value. -/
  listed : ∀ key, key ∈ t.keys ↔ (t.get? key).isSome

@[simp] theorem keys_empty : (∅ : Table α).keys = [] := rfl

theorem consistent_empty : (∅ : Table α).Consistent where
  nodup := List.nodup_nil
  listed key := by simp

/-- A key that is stored for the first time comes last; any other keeps its place. -/
theorem keys_put (t : Table α) (key : String) (v : α) :
    (t.put key v).keys = if (t.get? key).isSome then t.keys else t.keys ++ [key] := rfl

theorem Consistent.put {t : Table α} (h : t.Consistent) (key : String) (v : α) :
    (t.put key v).Consistent := by
  by_cases hk : (t.get? key).isSome
  · refine ⟨?_, fun x => ?_⟩
    · rw [keys_put, if_pos hk]
      exact h.nodup
    · rw [get?_put, keys_put, if_pos hk, h.listed x]
      by_cases hx : key = x
      · subst hx
        simp [hk]
      · rw [if_neg hx]
  · have hn : key ∉ t.keys := fun hm => hk ((h.listed key).1 hm)
    refine ⟨?_, fun x => ?_⟩
    · rw [keys_put, if_neg hk]
      exact List.nodup_append.2 ⟨h.nodup, by simp, fun a ha b hb hab => by
        rw [List.mem_singleton] at hb
        exact hn (hb ▸ hab ▸ ha)⟩
    · rw [get?_put, keys_put, if_neg hk, List.mem_append, List.mem_singleton, h.listed x]
      by_cases hx : key = x
      · simp [hx]
      · simp [hx, Ne.symm hx]

/-- Forgetting a key leaves the order of the others alone. -/
theorem Consistent.keys_erase {t : Table α} (h : t.Consistent) (key : String) :
    (t.erase key).keys = t.keys.filter (· ≠ key) := by
  unfold erase
  split
  · rfl
  · next hk =>
    refine (List.filter_eq_self.2 fun x hx => ?_).symm
    have : x ≠ key := by
      rintro rfl
      exact hk ((h.listed x).1 hx)
    simpa using this

theorem Consistent.erase {t : Table α} (h : t.Consistent) (key : String) :
    (t.erase key).Consistent where
  nodup := h.keys_erase key ▸ h.nodup.filter _
  listed x := by
    rw [h.keys_erase, List.mem_filter, get?_erase]
    by_cases hx : key = x
    · simp [hx]
    · simpa [hx, Ne.symm hx] using h.listed x

theorem Consistent.eraseAll {t : Table α} (h : t.Consistent) (keys : List String) :
    (t.eraseAll keys).Consistent := by
  induction keys generalizing t with
  | nil => exact h
  | cons key rest ih => exact ih (h.erase key)

/-- A row is a stored value under its key. -/
theorem get?_of_mem_rows {t : Table α} {key : String} {v : α} (h : (key, v) ∈ t.rows) :
    t.get? key = some v := by
  obtain ⟨x, -, hx⟩ := List.mem_filterMap.1 h
  obtain ⟨w, hw, heq⟩ := Option.map_eq_some_iff.1 hx
  cases heq
  exact hw

/-- The rows of a consistent table are all that it stores. -/
theorem Consistent.mem_rows_iff {t : Table α} (h : t.Consistent) {key : String} {v : α} :
    (key, v) ∈ t.rows ↔ t.get? key = some v := by
  refine ⟨get?_of_mem_rows, fun hv => ?_⟩
  have hm : key ∈ t.keys := (h.listed key).2 (by simp [hv])
  exact List.mem_filterMap.2 ⟨key, hm, by simp [hv]⟩

/-- The rows of a consistent table follow its keys. -/
theorem Consistent.map_fst_rows {t : Table α} (h : t.Consistent) :
    t.rows.map (·.1) = t.keys := by
  have hall : ∀ key ∈ t.keys, ((t.get? key).map fun v => (key, v)).map (·.1) = some key := by
    intro key hk
    obtain ⟨v, hv⟩ := Option.isSome_iff_exists.1 ((h.listed key).1 hk)
    simp [hv]
  rw [rows, List.map_filterMap]
  generalize t.keys = l at hall ⊢
  induction l with
  | nil => rfl
  | cons key rest ih =>
    rw [List.filterMap_cons, hall key List.mem_cons_self]
    exact congrArg _ (ih fun x hx => hall x (List.mem_cons_of_mem _ hx))

end Table

end PropertyGraph
