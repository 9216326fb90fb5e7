/-!
# Lists of bindings

A list of name and value pairs, read from the front: the first pair with a name
says what the name is bound to. Sorted maps (`NameMap`) and insertion-ordered
tables (`Table`) list their contents in this form.

- `Bindings.get?`: the value a name is bound to.
- `Bindings.get?_eq_none_iff`, `Bindings.get?_map_value`, `Bindings.get?_filter_ne`:
  look-ups see the names that are listed, and nothing else.
-/

universe u v

namespace PropertyGraph

/-- Pairs of a name and a value; the first pair with a name counts. -/
abbrev Bindings (α : Type u) := List (String × α)

namespace Bindings

variable {α : Type u} {β : Type v}

/-- The value of the first pair with the given name. -/
def get? (name : String) : Bindings α → Option α
  | [] => none
  | (n, v) :: rest => if n = name then some v else get? name rest

@[simp] theorem get?_nil (name : String) : get? name ([] : Bindings α) = none := rfl

@[simp] theorem get?_cons (name n : String) (v : α) (rest : Bindings α) :
    get? name ((n, v) :: rest) = if n = name then some v else get? name rest := rfl

/-- Of two listings one after the other the first one counts. -/
theorem get?_append (name : String) (l l' : Bindings α) :
    get? name (l ++ l') = (get? name l).or (get? name l') := by
  induction l with
  | nil => rfl
  | cons e rest ih =>
    obtain ⟨n, v⟩ := e
    rw [List.cons_append, get?_cons, get?_cons, ih]
    split <;> rfl

/-- A name is unbound exactly when no pair carries it. -/
theorem get?_eq_none_iff {name : String} {l : Bindings α} :
    get? name l = none ↔ name ∉ l.map (·.1) := by
  induction l with
  | nil => simp
  | cons e rest ih =>
    obtain ⟨n, v⟩ := e
    by_cases h : n = name
    · simp [h]
    · simp [h, ih, Ne.symm h]

/-- A value that is found stands in the list. -/
theorem mem_of_get? {name : String} {v : α} {l : Bindings α} (h : get? name l = some v) :
    (name, v) ∈ l := by
  induction l with
  | nil => simp at h
  | cons e rest ih =>
    obtain ⟨n, w⟩ := e
    rw [get?_cons] at h
    split at h
    · next heq =>
      cases h
      exact heq ▸ List.mem_cons_self
    · exact List.mem_cons_of_mem _ (ih h)

/-- With names listed once, a pair of the list is what its name is bound to. -/
theorem get?_of_mem {name : String} {v : α} {l : Bindings α} (hn : (l.map (·.1)).Nodup)
    (h : (name, v) ∈ l) : get? name l = some v := by
  induction l with
  | nil => simp at h
  | cons e rest ih =>
    obtain ⟨n, w⟩ := e
    simp only [List.map_cons, List.nodup_cons] at hn
    rcases List.mem_cons.1 h with h | h
    · cases h
      simp
    · have : n ≠ name := by
        rintro rfl
        exact hn.1 (List.mem_map.2 ⟨_, h, rfl⟩)
      simp [this, ih hn.2 h]

/-- Dropping the pairs of a name unbinds it and leaves all other names alone. -/
theorem get?_filter_ne (name x : String) (l : Bindings α) :
    get? x (l.filter fun e => e.1 ≠ name) = if name = x then none else get? x l := by
  induction l with
  | nil => simp
  | cons e rest ih =>
    obtain ⟨n, v⟩ := e
    by_cases h : n = name
    · subst h
      by_cases hx : n = x
      · simp_all
      · simpa [hx] using ih
    · rw [List.filter_cons_of_pos (by simpa using h)]
      by_cases hx : n = x
      · subst hx
        simp [Ne.symm h]
      · simpa [hx] using ih

/-- Changing values in place changes look-ups by the same function. -/
theorem get?_map_value (f : String → α → β) (name : String) (l : Bindings α) :
    get? name (l.map fun e => (e.1, f e.1 e.2)) = (get? name l).map (f name) := by
  induction l with
  | nil => rfl
  | cons e rest ih =>
    obtain ⟨n, v⟩ := e
    by_cases h : n = name
    · subst h
      simp
    · simp [h, ih]

end Bindings

end PropertyGraph
