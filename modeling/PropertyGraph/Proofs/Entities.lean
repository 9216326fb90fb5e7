import PropertyGraph.Graph.Entity

/-!
# What an edge says about its ends

An edge describes each end in four attributes. This module reads the descriptions
through the view of the attribute map, so that later proofs need not open the readers.

- `Attributes.stringForm_union`: laying attributes over others keeps a string form that
  both agree on, however each of them spells it.
- `Edge.endpoint_eq_ok_iff`: **when an end can be read** and what it then says.
- `Edge.endpoint_setEnd_self`, `Edge.endpoint_setEnd_of_ne`,
  `Edge.get?_setEnd_of_notMem`: what describing an end anew changes.
-/

namespace PropertyGraph

/-- A sequence of two steps succeeds exactly if both do. -/
theorem bind_eq_ok_iff {ε α β : Type} {x : Except ε α} {f : α → Except ε β} {b : β} :
    x >>= f = .ok b ↔ ∃ a, x = .ok a ∧ f a = .ok b := by
  cases x <;> simp [bind, Except.bind]

/-- A sequence of two steps fails exactly if one of them does. -/
theorem bind_eq_error_iff {ε α β : Type} {x : Except ε α} {f : α → Except ε β} {e : ε} :
    x >>= f = .error e ↔ x = .error e ∨ ∃ a, x = .ok a ∧ f a = .error e := by
  cases x <;> simp [bind, Except.bind]

/-- To put an error in other terms changes no result. -/
theorem mapError_eq_ok_iff {ε ε' α : Type} {x : Except ε α} {f : ε → ε'} {a : α} :
    x.mapError f = .ok a ↔ x = .ok a := by
  cases x with
  | ok b =>
    exact ⟨fun h => congrArg _ (Except.ok.inj h), fun h => congrArg _ (Except.ok.inj h)⟩
  | error e => exact ⟨(nomatch ·), (nomatch ·)⟩

theorem mapError_eq_error_iff {ε ε' α : Type} {x : Except ε α} {f : ε → ε'} {e : ε'} :
    x.mapError f = .error e ↔ ∃ e', x = .error e' ∧ e = f e' := by
  cases x with
  | ok a => exact ⟨(nomatch ·), fun ⟨_, h, _⟩ => nomatch h⟩
  | error e' =>
    constructor
    · intro h
      exact ⟨e', rfl, (Except.error.inj h).symm⟩
    · rintro ⟨e'', h, rfl⟩
      exact congrArg (fun e => Except.error (f e)) (Except.error.inj h)

/-- A run of steps none of which changes a state ends in it. -/
theorem foldlM_of_fixed {ε α σ : Type} {f : σ → α → Except ε σ} {s : σ} {l : List α}
    (h : ∀ a ∈ l, f s a = .ok s) : l.foldlM f s = .ok s := by
  induction l with
  | nil => rfl
  | cons a rest ih =>
    obtain ⟨ha, hrest⟩ := List.forall_mem_cons.1 h
    rw [List.foldlM_cons, ha]
    exact ih hrest

/-- The string form of the laid-over attribute counts, and an attribute that is only below
keeps its own; where the two agree nothing changes. -/
theorem Attributes.stringForm_union {a b : Attributes} {name : String}
    (h : b.stringForm name = a.stringForm name) :
    Attributes.stringForm (a.union b) name = a.stringForm name := by
  rw [Attributes.stringForm, NameMap.get?_union]
  cases hb : b.get? name with
  | none => rfl
  | some v =>
    rw [← h, Attributes.stringForm, hb]
    rfl

namespace Node

theorem key_merge {n m : Node} (h : m.key = n.key) : (n.merge m).key = n.key :=
  Attributes.stringForm_union h

theorem kind_merge {n m : Node} (h : m.kind = n.kind) : (n.merge m).kind = n.kind :=
  Attributes.stringForm_union h

end Node

/-! ## Reading an end -/

/-- The attributes that describe an end. -/
def EndSide.names (side : EndSide) : List String :=
  [side.keyName, side.kindName, side.roleName, side.cascadingName]

/-- The attributes that describe the two ends. -/
def endNames : List String := EndSide.all.flatMap EndSide.names

theorem EndSide.names_subset (side : EndSide) : side.names ⊆ endNames := by
  intro name hn
  cases side
  · exact List.mem_append_left _ hn
  · exact List.mem_append_right _ (by simpa using hn)

/-- Opposite ends are described in different attributes. -/
theorem EndSide.notMem_names_of_ne {s t : EndSide} (h : s ≠ t) {name : String}
    (hn : name ∈ s.names) : name ∉ t.names := by
  cases s <;> cases t
  case first.first | second.second => exact absurd rfl h
  -- opposite sides: none of the four names of one is among the four of the other
  all_goals
    simp only [EndSide.names, EndSide.keyName, EndSide.kindName, EndSide.roleName,
      EndSide.cascadingName, List.mem_cons, List.not_mem_nil, or_false] at hn
    rcases hn with rfl | rfl | rfl | rfl <;>
      simp [EndSide.names, EndSide.keyName, EndSide.kindName, EndSide.roleName,
        EndSide.cascadingName]

/-- A description that an edge can carry: nothing in it is left empty. -/
structure EdgeEnd.Usable (d : EdgeEnd) : Prop where
  key : d.key ≠ ""
  kind : d.kind ≠ ""
  role : d.role ≠ ""

namespace Edge

theorem required_eq_ok_iff {e : Edge} {name s : String} :
    e.required name = .ok s ↔ e.attributes.stringForm name = s ∧ s ≠ "" := by
  unfold required
  by_cases h : e.attributes.stringForm name = ""
  · rw [if_pos h]
    constructor
    · intro h'
      cases h'
    · rintro ⟨rfl, hs⟩
      exact absurd h hs
  · rw [if_neg h]
    constructor
    · intro h'
      cases h'
      exact ⟨rfl, h⟩
    · rintro ⟨rfl, -⟩
      rfl

theorem requiredFlag_eq_ok_iff {e : Edge} {name : String} {b : Bool} :
    e.requiredFlag name = .ok b ↔ e.attributes.get? name = some (.bool b) := by
  unfold requiredFlag
  split
  · next c hc =>
    rw [hc]
    simp
  · next hne =>
    constructor
    · intro h
      cases h
    · intro h
      exact absurd h (hne b)

/-- **An end can be read** exactly if its key, kind and role have string forms that are
not empty and its flag is true or false. -/
theorem endpoint_eq_ok_iff {e : Edge} {side : EndSide} {d : EdgeEnd} :
    e.endpoint side = .ok d ↔
      d.Usable ∧ e.attributes.stringForm side.keyName = d.key ∧
        e.attributes.stringForm side.kindName = d.kind ∧
        e.attributes.stringForm side.roleName = d.role ∧
        e.attributes.get? side.cascadingName = some (.bool d.cascading) := by
  constructor
  · intro h
    obtain ⟨key, hk, h⟩ := bind_eq_ok_iff.1 h
    obtain ⟨kind, hi, h⟩ := bind_eq_ok_iff.1 h
    obtain ⟨role, hr, h⟩ := bind_eq_ok_iff.1 h
    obtain ⟨cascading, hc, h⟩ := bind_eq_ok_iff.1 h
    cases h
    rw [required_eq_ok_iff] at hk hi hr
    exact ⟨⟨hk.2, hi.2, hr.2⟩, hk.1, hi.1, hr.1, requiredFlag_eq_ok_iff.1 hc⟩
  · rintro ⟨hu, hk, hi, hr, hc⟩
    refine bind_eq_ok_iff.2 ⟨d.key, required_eq_ok_iff.2 ⟨hk, hu.key⟩, ?_⟩
    refine bind_eq_ok_iff.2 ⟨d.kind, required_eq_ok_iff.2 ⟨hi, hu.kind⟩, ?_⟩
    refine bind_eq_ok_iff.2 ⟨d.role, required_eq_ok_iff.2 ⟨hr, hu.role⟩, ?_⟩
    exact bind_eq_ok_iff.2 ⟨d.cascading, requiredFlag_eq_ok_iff.2 hc, rfl⟩

/-- What can be read at an end is usable. -/
theorem usable_of_endpoint {e : Edge} {side : EndSide} {d : EdgeEnd}
    (h : e.endpoint side = .ok d) : d.Usable :=
  (endpoint_eq_ok_iff.1 h).1

/-- Edges with the same attributes of an end say the same about it. -/
theorem endpoint_congr {e f : Edge} {side : EndSide}
    (h : ∀ name ∈ side.names, e.attributes.get? name = f.attributes.get? name) :
    e.endpoint side = f.endpoint side := by
  have hform : ∀ name ∈ side.names, e.required name = f.required name := by
    intro name hn
    unfold required Attributes.stringForm
    rw [h name hn]
  have hflag : e.requiredFlag side.cascadingName = f.requiredFlag side.cascadingName := by
    simp [requiredFlag, h side.cascadingName (by simp [EndSide.names])]
  unfold endpoint
  rw [hform side.keyName (by simp [EndSide.names]), hform side.kindName (by simp [EndSide.names]),
    hform side.roleName (by simp [EndSide.names]), hflag]

/-! ## Describing an end anew -/

/-- The attributes of other things stay as they are. -/
theorem get?_setEnd_of_notMem {e : Edge} {side : EndSide} {d : EdgeEnd} {name : String}
    (h : name ∉ side.names) :
    (e.setEnd side d).attributes.get? name = e.attributes.get? name := by
  simp only [EndSide.names, List.mem_cons, List.not_mem_nil, or_false, not_or] at h
  simp [setEnd, Ne.symm h.1, Ne.symm h.2.1, Ne.symm h.2.2.1, Ne.symm h.2.2.2]

/-- An end that was described can be read back. -/
theorem endpoint_setEnd_self {e : Edge} {side : EndSide} {d : EdgeEnd} (h : d.Usable) :
    (e.setEnd side d).endpoint side = .ok d := by
  rw [endpoint_eq_ok_iff]
  cases side <;>
    simp [h, setEnd, Attributes.stringForm, Json.stringForm, EndSide.keyName, EndSide.kindName,
      EndSide.roleName, EndSide.cascadingName]

/-- The opposite end is not touched. -/
theorem endpoint_setEnd_of_ne {e : Edge} {s t : EndSide} {d : EdgeEnd} (h : t ≠ s) :
    (e.setEnd s d).endpoint t = e.endpoint t :=
  endpoint_congr fun _ hn => get?_setEnd_of_notMem (EndSide.notMem_names_of_ne h hn)

end Edge

end PropertyGraph
