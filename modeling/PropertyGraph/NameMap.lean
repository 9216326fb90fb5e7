import PropertyGraph.Bindings

/-!
# Finite maps from names

A `NameMap α` binds names to values and lists its bindings in ascending byte
order of the names. Attribute maps, the kind tables of a partition and the
partitions of a store are all of this shape.

- `NameMap.get?`: the view of a map; every operation is described by what it
  does to this view.
- `NameMap.insert`, `NameMap.erase`, `NameMap.modify`, `NameMap.map`: bind a name,
  forget it, or change bound values in place.
- `NameMap.union`: lay one map over another; the second wins.
- `NameMap.ext_get?`: **a map is its view**: two maps that answer every look-up
  alike are equal, so the listing order carries no information of its own.
- `NameMap.insert_of_get?`, `NameMap.insert_insert`, `NameMap.ofList_entries`: what this means
  for names that are bound to what they have, bound twice, or listed and read back.

Strings compare by code point, which is the same order as comparing their
UTF-8 bytes.
-/

universe u v

namespace PropertyGraph

/-- A finite map from names to values, listed in ascending order of the names. -/
structure NameMap (α : Type u) where
  /-- The bindings, names ascending. -/
  entries : Bindings α
  /-- No name is bound twice and the listing is ordered. -/
  sorted : entries.Pairwise fun a b => a.1 < b.1

namespace NameMap

variable {α : Type u}

/-- Bind `name` in an ordered listing, replacing the value it had. -/
def insertEntry (name : String) (value : α) : Bindings α → Bindings α
  | [] => [(name, value)]
  | (n, v) :: rest =>
    if name = n then (name, value) :: rest
    else if name < n then (name, value) :: (n, v) :: rest
    else (n, v) :: insertEntry name value rest

theorem mem_insertEntry {name : String} {value : α} {l : Bindings α} {e : String × α}
    (h : e ∈ insertEntry name value l) : e = (name, value) ∨ e ∈ l := by
  induction l with
  | nil => exact Or.inl (by simpa [insertEntry] using h)
  | cons x rest ih =>
    obtain ⟨n, v⟩ := x
    rw [insertEntry] at h
    split at h
    · rcases List.mem_cons.1 h with h | h
      · exact Or.inl h
      · exact Or.inr (List.mem_cons_of_mem _ h)
    · split at h
      · rcases List.mem_cons.1 h with h | h
        · exact Or.inl h
        · exact Or.inr h
      · rcases List.mem_cons.1 h with h | h
        · exact Or.inr (h ▸ List.mem_cons_self)
        · exact (ih h).imp id (List.mem_cons_of_mem _)

theorem insertEntry_sorted {name : String} {value : α} {l : Bindings α}
    (h : l.Pairwise fun a b => a.1 < b.1) :
    (insertEntry name value l).Pairwise fun a b => a.1 < b.1 := by
  induction l with
  | nil => simp [insertEntry]
  | cons x rest ih =>
    obtain ⟨n, v⟩ := x
    rw [List.pairwise_cons] at h
    rw [insertEntry]
    split
    · next heq =>
      subst heq
      exact List.pairwise_cons.2 ⟨h.1, h.2⟩
    · next hne =>
      split
      · next hlt =>
        refine List.pairwise_cons.2 ⟨fun e he => ?_, List.pairwise_cons.2 h⟩
        rcases List.mem_cons.1 he with rfl | he
        · exact hlt
        · exact String.lt_trans hlt (h.1 e he)
      · next hge =>
        refine List.pairwise_cons.2 ⟨fun e he => ?_, ih h.2⟩
        rcases mem_insertEntry he with rfl | he
        · exact Std.lt_of_le_of_ne (String.not_lt.1 hge) (Ne.symm hne)
        · exact h.1 e he

/-- The map that binds nothing. -/
def empty : NameMap α := ⟨[], List.Pairwise.nil⟩

instance : EmptyCollection (NameMap α) := ⟨empty⟩
instance : Inhabited (NameMap α) := ⟨empty⟩

/-- The value bound to a name. -/
def get? (m : NameMap α) (name : String) : Option α := Bindings.get? name m.entries

/-- Bind a name, replacing the value it had. -/
def insert (m : NameMap α) (name : String) (value : α) : NameMap α :=
  ⟨insertEntry name value m.entries, insertEntry_sorted m.sorted⟩

/-- Bind the names of a listing one after another; later pairs win. -/
def insertAll (m : NameMap α) (l : Bindings α) : NameMap α :=
  l.foldl (fun m e => m.insert e.1 e.2) m

/-- The map of a listing in any order; of several values for a name the last counts. -/
def ofList (l : Bindings α) : NameMap α := (∅ : NameMap α).insertAll l

/-- Lay `n` over `m`: names bound in `n` take its value, all others keep theirs. -/
def union (m n : NameMap α) : NameMap α := m.insertAll n.entries

/-- Forget a name. -/
def erase (m : NameMap α) (name : String) : NameMap α where
  entries := m.entries.filter fun e => e.1 ≠ name
  sorted := m.sorted.filter _

/-- Change the value bound to a name; nothing happens if the name is unbound. -/
def modify (m : NameMap α) (name : String) (f : α → α) : NameMap α where
  entries := m.entries.map fun e => (e.1, if e.1 = name then f e.2 else e.2)
  sorted := List.pairwise_map.2 m.sorted

/-- Change every bound value. -/
def map {β : Type v} (m : NameMap α) (f : α → β) : NameMap β where
  entries := m.entries.map fun e => (e.1, f e.2)
  sorted := List.pairwise_map.2 m.sorted

/-- The bound names, ascending. -/
def names (m : NameMap α) : List String := m.entries.map (·.1)

/-- The bound values, by ascending name. -/
def values (m : NameMap α) : List α := m.entries.map (·.2)

/-- How many names are bound. -/
def size (m : NameMap α) : Nat := m.entries.length

/-- Whether no name is bound. -/
def isEmpty (m : NameMap α) : Bool := m.entries.isEmpty

/-! ## What each operation does to the view -/

@[simp] theorem get?_empty (name : String) : (∅ : NameMap α).get? name = none := rfl

theorem get?_insertEntry (l : Bindings α) (name : String) (value : α) (x : String) :
    Bindings.get? x (insertEntry name value l) =
      if name = x then some value else Bindings.get? x l := by
  induction l with
  | nil => simp [insertEntry]
  | cons e rest ih =>
    obtain ⟨n, v⟩ := e
    rw [insertEntry]
    by_cases hn : name = n
    · subst hn
      by_cases hx : name = x <;> simp [hx]
    · rw [if_neg hn]
      split
      · simp
      · by_cases hx : n = x
        · subst hx
          simp [hn]
        · simp [hx, ih]

@[simp] theorem get?_insert (m : NameMap α) (name : String) (value : α) (x : String) :
    (m.insert name value).get? x = if name = x then some value else m.get? x :=
  get?_insertEntry m.entries name value x

@[simp] theorem get?_erase (m : NameMap α) (name x : String) :
    (m.erase name).get? x = if name = x then none else m.get? x :=
  Bindings.get?_filter_ne name x m.entries

@[simp] theorem get?_modify (m : NameMap α) (name : String) (f : α → α) (x : String) :
    (m.modify name f).get? x = (m.get? x).map fun v => if x = name then f v else v :=
  Bindings.get?_map_value (fun n v => if n = name then f v else v) x m.entries

@[simp] theorem get?_map {β : Type v} (m : NameMap α) (f : α → β) (x : String) :
    (m.map f).get? x = (m.get? x).map f :=
  Bindings.get?_map_value (fun _ v => f v) x m.entries

/-- No name is listed twice. -/
theorem names_nodup (m : NameMap α) : m.names.Nodup :=
  List.pairwise_map.2 (m.sorted.imp String.ne_of_lt)

/-- A listed pair is what its name is bound to, and the other way round. -/
theorem mem_entries_iff {m : NameMap α} {name : String} {v : α} :
    (name, v) ∈ m.entries ↔ m.get? name = some v :=
  ⟨Bindings.get?_of_mem m.names_nodup, Bindings.mem_of_get?⟩

/-- The listed names are those that are bound. -/
theorem mem_names_iff {m : NameMap α} {name : String} :
    name ∈ m.names ↔ (m.get? name).isSome := by
  rw [Option.isSome_iff_exists]
  simp [names, mem_entries_iff]

/-- The names are listed in strictly ascending order. -/
theorem names_ascending (m : NameMap α) : m.names.Pairwise (· < ·) := List.pairwise_map.2 m.sorted

theorem get?_insertAll (m : NameMap α) {l : Bindings α} (hl : (l.map (·.1)).Nodup) (x : String) :
    (m.insertAll l).get? x = (Bindings.get? x l).or (m.get? x) := by
  induction l generalizing m with
  | nil => rfl
  | cons e rest ih =>
    obtain ⟨n, v⟩ := e
    rw [List.map_cons, List.nodup_cons] at hl
    show ((m.insert n v).insertAll rest).get? x = _
    rw [ih _ hl.2, get?_insert, Bindings.get?_cons]
    by_cases h : n = x
    · subst h
      simp [Bindings.get?_eq_none_iff.2 hl.1]
    · simp [h]

/-- The value that a listing has last for a name counts. -/
theorem get?_insertAll_reverse (m : NameMap α) (l : Bindings α) (x : String) :
    (m.insertAll l).get? x = (Bindings.get? x l.reverse).or (m.get? x) := by
  induction l generalizing m with
  | nil => rfl
  | cons e rest ih =>
    obtain ⟨n, v⟩ := e
    show ((m.insert n v).insertAll rest).get? x = _
    rw [ih, get?_insert, List.reverse_cons, Bindings.get?_append, Option.or_assoc,
      Bindings.get?_cons, Bindings.get?_nil]
    split <;> rfl

/-- Of several values for a name the last counts. -/
theorem get?_ofList (l : Bindings α) (x : String) :
    (ofList l).get? x = Bindings.get? x l.reverse := by
  rw [ofList, get?_insertAll_reverse, get?_empty, Option.or_none]

/-- A listing that is laid over a map binds the names that it lists, and no others. -/
theorem mem_names_insertAll {m : NameMap α} {l : Bindings α} {name : String} :
    name ∈ (m.insertAll l).names ↔ name ∈ m.names ∨ name ∈ l.map (·.1) := by
  induction l generalizing m with
  | nil => simp [insertAll]
  | cons e rest ih =>
    have hinsert : name ∈ (m.insert e.1 e.2).names ↔ name = e.1 ∨ name ∈ m.names := by
      rw [mem_names_iff, mem_names_iff, get?_insert]
      split
      · next h => simp [h]
      · next h => simp [Ne.symm h]
    show name ∈ ((m.insert e.1 e.2).insertAll rest).names ↔ _
    rw [ih, hinsert, List.map_cons, List.mem_cons, or_comm (a := name = e.1), or_assoc]

/-- A pair of a map with a listing laid over it comes from the one or the other. -/
theorem mem_entries_insertAll {m : NameMap α} {l : Bindings α} {e : String × α}
    (h : e ∈ (m.insertAll l).entries) : e ∈ m.entries ∨ e ∈ l := by
  induction l generalizing m with
  | nil => exact .inl h
  | cons x rest ih =>
    rcases ih (m := m.insert x.1 x.2) h with hmem | hmem
    · rcases mem_insertEntry hmem with rfl | hmem
      · exact .inr List.mem_cons_self
      · exact .inl hmem
    · exact .inr (List.mem_cons_of_mem _ hmem)

/-- The map of a listing holds pairs of the listing only. -/
theorem mem_of_mem_ofList {l : Bindings α} {e : String × α} (h : e ∈ (ofList l).entries) :
    e ∈ l := by
  rcases mem_entries_insertAll h with hmem | hmem
  · cases hmem
  · exact hmem

/-- Of two values for a name the one laid on top counts. -/
@[simp] theorem get?_union (m n : NameMap α) (x : String) :
    (m.union n).get? x = (n.get? x).or (m.get? x) :=
  get?_insertAll m n.names_nodup x

/-- Forgetting a bound name leaves fewer of them. -/
theorem size_erase_lt {m : NameMap α} {name : String} {v : α} (h : m.get? name = some v) :
    (m.erase name).size < m.size :=
  List.length_filter_lt_length_iff_exists.2 ⟨(name, v), Bindings.mem_of_get? h, by simp⟩

/-- Forgetting a name never leaves more of them. -/
theorem size_erase_le (m : NameMap α) (name : String) : (m.erase name).size ≤ m.size :=
  List.length_filter_le ..

/-- A name smaller than every listed one is not bound. -/
theorem get?_eq_none_of_lt {l : Bindings α} {x : String} (h : ∀ e ∈ l, x < e.1) :
    Bindings.get? x l = none := by
  refine Bindings.get?_eq_none_iff.2 fun hx => ?_
  obtain ⟨e, he, rfl⟩ := List.mem_map.1 hx
  exact String.lt_irrefl _ (h e he)

theorem entries_eq_of_get? {l₁ l₂ : Bindings α}
    (h₁ : l₁.Pairwise fun a b => a.1 < b.1) (h₂ : l₂.Pairwise fun a b => a.1 < b.1)
    (h : ∀ x, Bindings.get? x l₁ = Bindings.get? x l₂) : l₁ = l₂ := by
  induction l₁ generalizing l₂ with
  | nil =>
    cases l₂ with
    | nil => rfl
    | cons e rest => simpa [Bindings.get?] using h e.1
  | cons e₁ r₁ ih =>
    cases l₂ with
    | nil => simpa [Bindings.get?] using h e₁.1
    | cons e₂ r₂ =>
      obtain ⟨n₁, v₁⟩ := e₁
      obtain ⟨n₂, v₂⟩ := e₂
      rw [List.pairwise_cons] at h₁ h₂
      have hn : n₁ = n₂ := by
        rcases Std.lt_trichotomy n₁ n₂ with hlt | heq | hlt
        · have hx := h n₁
          rw [get?_eq_none_of_lt (l := (n₂, v₂) :: r₂) (x := n₁) fun e he => by
            rcases List.mem_cons.1 he with rfl | he
            · exact hlt
            · exact String.lt_trans hlt (h₂.1 e he)] at hx
          simp at hx
        · exact heq
        · have hx := h n₂
          rw [get?_eq_none_of_lt (l := (n₁, v₁) :: r₁) (x := n₂) fun e he => by
            rcases List.mem_cons.1 he with rfl | he
            · exact hlt
            · exact String.lt_trans hlt (h₁.1 e he)] at hx
          simp at hx
      subst hn
      have hv : v₁ = v₂ := by simpa using h n₁
      subst hv
      refine congrArg _ (ih h₁.2 h₂.2 fun x => ?_)
      by_cases hx : n₁ = x
      · subst hx
        rw [get?_eq_none_of_lt h₁.1, get?_eq_none_of_lt h₂.1]
      · simpa [hx] using h x

/-- **A map is its view**: maps that answer every look-up alike are equal. -/
theorem ext_get? {m₁ m₂ : NameMap α} (h : ∀ x, m₁.get? x = m₂.get? x) : m₁ = m₂ := by
  obtain ⟨l₁, h₁⟩ := m₁
  obtain ⟨l₂, h₂⟩ := m₂
  have : l₁ = l₂ := entries_eq_of_get? h₁ h₂ h
  subst this
  rfl

/-- Binding a name to the value that it has changes nothing. -/
theorem insert_of_get? {m : NameMap α} {name : String} {v : α} (h : m.get? name = some v) :
    m.insert name v = m := by
  refine ext_get? fun x => ?_
  rw [get?_insert]
  split
  · next hx => rw [← hx, h]
  · rfl

/-- A map is the map of its own listing. -/
theorem ofList_entries (m : NameMap α) : ofList m.entries = m := by
  refine ext_get? fun x => ?_
  rw [ofList, get?_insertAll _ m.names_nodup, get?_empty, Option.or_none, get?]

/-- Of two values that are bound to a name one after the other the second counts. -/
theorem insert_insert (m : NameMap α) (name : String) (v w : α) :
    (m.insert name v).insert name w = m.insert name w := by
  refine ext_get? fun x => ?_
  rw [get?_insert, get?_insert, get?_insert]
  split <;> rfl

end NameMap

end PropertyGraph
