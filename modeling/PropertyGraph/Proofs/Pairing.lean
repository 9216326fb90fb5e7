import Mathlib.Data.List.Forall2
import PropertyGraph.Proofs.Utf8
import PropertyGraph.Request.Pairing

/-!
# Pairs are kept together

Both lists of a traversal are read in one order, which lists every place once. So no item is
found taken, none is left, and the edge of a node stays beside it.

- `readThrough_eq`: reading places that differ empties none of them too early.
- `readThrough_perm`, `zip_readThrough`: reading every place once loses nothing, and two lists
  that are read in one order stay aligned.
- `keyOrder_perm`, `keyOrder_pairwise`, `keyOrder_unique`: the order of keys lists every place
  once, lower keys first and equal keys as they come, and is the only one that does.
- `pairByKey_sorted`: **the main statement**.
-/

universe u v

namespace PropertyGraph

variable {α : Type u} {β : Type v}

/-! ## Reading in an order -/

/-- Emptying a slot does not change what is at the places that are still to be read. -/
theorem takeThrough_eq {slots : List (Option α)} {items : List α} {places : List Nat}
    (hnodup : places.Nodup) (hslots : ∀ i ∈ places, slots[i]? = items[i]?.map some) :
    takeThrough slots places = places.filterMap fun i => items[i]? := by
  induction places generalizing slots with
  | nil => rfl
  | cons i places ih =>
    obtain ⟨hi, hnodup⟩ := List.nodup_cons.mp hnodup
    have hslot := hslots i List.mem_cons_self
    have hrest := fun j hj => hslots j (List.mem_cons_of_mem _ hj)
    rw [takeThrough, hslot]
    cases hitem : items[i]? with
    | none =>
      rw [List.filterMap_cons_none hitem]
      exact ih hnodup hrest
    | some item =>
      rw [List.filterMap_cons_some hitem]
      refine congrArg (item :: ·) (ih hnodup fun j hj => ?_)
      have hij : i ≠ j := fun h => hi (h ▸ hj)
      rw [List.getElem?_set_ne hij]
      exact hrest j hj

theorem readThrough_eq (items : List α) {places : List Nat} (h : places.Nodup) :
    readThrough items places = places.filterMap fun i => items[i]? :=
  takeThrough_eq h fun _ _ => List.getElem?_map

/-- A list is found again at its places. -/
theorem filterMap_range (items : List α) :
    (List.range items.length).filterMap (fun i => items[i]?) = items := by
  have hmap : (List.range items.length).map (fun i => items[i]?) = items.map some := by
    refine List.ext_getElem (by simp) fun i _ hi => ?_
    simp
  have hfilter := congrArg (List.filterMap id) hmap
  rw [List.filterMap_map, List.filterMap_map] at hfilter
  exact hfilter.trans List.filterMap_some

/-- Reading every place once loses nothing. -/
theorem readThrough_perm (items : List α) {places : List Nat}
    (h : places.Perm (List.range items.length)) : (readThrough items places).Perm items := by
  rw [readThrough_eq items (h.nodup_iff.mpr List.nodup_range)]
  have hread := h.filterMap fun i => items[i]?
  rwa [filterMap_range] at hread

/-- What is read stands at the places it is read from. -/
theorem forall₂_readThrough {items : List α} {places : List Nat} (hnodup : places.Nodup)
    (h : ∀ i ∈ places, i < items.length) :
    List.Forall₂ (fun i item => items[i]? = some item) places (readThrough items places) := by
  rw [readThrough_eq items hnodup]
  clear hnodup
  induction places with
  | nil => exact .nil
  | cons i places ih =>
    have hitem := List.getElem?_eq_getElem (h i List.mem_cons_self)
    rw [List.filterMap_cons_some hitem]
    exact .cons hitem (ih fun j hj => h j (List.mem_cons_of_mem _ hj))

/-- Lists that are read in one order stay aligned. -/
theorem zip_readThrough {items : List α} {others : List β} {places : List Nat}
    (hlength : items.length = others.length) (hnodup : places.Nodup)
    (h : ∀ i ∈ places, i < items.length) :
    (readThrough items places).zip (readThrough others places) =
      readThrough (items.zip others) places := by
  rw [readThrough_eq items hnodup, readThrough_eq others hnodup, readThrough_eq _ hnodup]
  clear hnodup
  induction places with
  | nil => rfl
  | cons i places ih =>
    have hi := h i List.mem_cons_self
    have hitem := List.getElem?_eq_getElem hi
    have hother := List.getElem?_eq_getElem (hlength ▸ hi)
    have hpair : (items.zip others)[i]? = some (items[i], others[i]) :=
      List.getElem?_zip_eq_some.mpr ⟨hitem, hother⟩
    rw [List.filterMap_cons_some hitem, List.filterMap_cons_some hother,
      List.filterMap_cons_some hpair, List.zip_cons_cons,
      ih fun j hj => h j (List.mem_cons_of_mem _ hj)]

/-! ## The order of keys -/

/-- The order of keys lists every place once. -/
theorem keyOrder_perm (nodes : List Node) : (keyOrder nodes).Perm (List.range nodes.length) := by
  have h := (List.mergeSort_perm (nodes.map Node.key).zipIdx fun a b => a.1 ≤ b.1).map (·.2)
  rwa [List.zipIdx_map_snd, List.length_map, ← List.range_eq_range'] at h

/-- Of the nodes at two places the first has the key with the lower bytes, or the same key and
comes first. -/
def Before (nodes : List Node) (i j : Nat) : Prop :=
  ∀ m n, nodes[i]? = some m → nodes[j]? = some n →
    Utf8.encode m.key < Utf8.encode n.key ∨ m.key = n.key ∧ i < j

/-- Of two places only one is before the other. -/
theorem Before.asymm {nodes : List Node} {i j : Nat} (h : Before nodes i j)
    (hi : i < nodes.length) (hj : j < nodes.length) : ¬ Before nodes j i := by
  intro h'
  have hm := List.getElem?_eq_getElem hi
  have hn := List.getElem?_eq_getElem hj
  obtain hlt | ⟨hkey, hij⟩ := h _ _ hm hn
  · obtain hlt' | ⟨hkey', -⟩ := h' _ _ hn hm
    · exact List.lt_asymm hlt hlt'
    · exact List.lt_irrefl _ (hkey' ▸ hlt)
  · obtain hlt' | ⟨-, hji⟩ := h' _ _ hn hm
    · exact List.lt_irrefl _ (hkey ▸ hlt')
    · exact Nat.lt_asymm hij hji

/-- Keys that are marked with their places twice are marked with one place, where their node is. -/
theorem of_mem_marked {nodes : List Node} {p : (String × Nat) × Nat}
    (h : p ∈ (nodes.map Node.key).zipIdx.zipIdx) :
    p.1.2 = p.2 ∧ ∀ n, nodes[p.1.2]? = some n → n.key = p.1.1 := by
  rw [List.mem_zipIdx_iff_getElem?] at h
  have hkey := List.mem_zipIdx_iff_getElem?.mp (List.mem_of_getElem? h)
  constructor
  · rw [List.getElem?_zipIdx, Nat.zero_add] at h
    obtain ⟨key, -, hmarked⟩ := Option.map_eq_some_iff.mp h
    rw [← hmarked]
  · intro n hn
    rw [List.getElem?_map, hn] at hkey
    exact Option.some.inj hkey

/-- **Sorting keys with their places puts each place before those that follow.** -/
theorem keyOrder_pairwise (nodes : List Node) :
    (keyOrder nodes).Pairwise (Before nodes) := by
  have hnodup : (keyOrder nodes).Nodup := (keyOrder_perm nodes).nodup_iff.mpr List.nodup_range
  rw [List.Nodup] at hnodup
  unfold keyOrder at hnodup ⊢
  have htrans (p q r : String × Nat) (hpq : decide (p.1 ≤ q.1) = true)
      (hqr : decide (q.1 ≤ r.1) = true) : decide (p.1 ≤ r.1) = true :=
    decide_eq_true (String.le_trans (of_decide_eq_true hpq) (of_decide_eq_true hqr))
  have htotal (p q : String × Nat) : (decide (p.1 ≤ q.1) || decide (q.1 ≤ p.1)) = true := by
    simpa using String.le_total p.1 q.1
  -- the sort is stable: it is the sort by key and place
  rw [← List.mergeSort_zipIdx, List.map_map, List.pairwise_map] at hnodup ⊢
  have hsorted := List.pairwise_mergeSort (List.zipIdxLE_trans htrans) (List.zipIdxLE_total htotal)
    (nodes.map Node.key).zipIdx.zipIdx
  refine (hsorted.and hnodup).imp_of_mem ?_
  rintro p q hp hq ⟨hle, hne⟩ m n hm hn
  obtain ⟨hplace, hkey⟩ := of_mem_marked (List.mem_mergeSort.mp hp)
  obtain ⟨hplace', hkey'⟩ := of_mem_marked (List.mem_mergeSort.mp hq)
  rw [hkey m hm, hkey' n hn, Utf8.encode_lt_iff]
  show p.1.1 < q.1.1 ∨ p.1.1 = q.1.1 ∧ p.1.2 < q.1.2
  by_cases hge : q.1.1 ≤ p.1.1
  · have hboth : p.1.1 ≤ q.1.1 ∧ p.2 ≤ q.2 := by simpa [List.zipIdxLE, hge] using hle
    have hplaces : p.1.2 ≤ q.1.2 := by rw [hplace, hplace']; exact hboth.2
    exact .inr ⟨String.le_antisymm hboth.1 hge, Nat.lt_of_le_of_ne hplaces hne⟩
  · exact .inl (String.not_le.mp hge)

theorem lt_of_mem_keyOrder {nodes : List Node} {i : Nat} (h : i ∈ keyOrder nodes) :
    i < nodes.length :=
  List.mem_range.mp ((keyOrder_perm nodes).mem_iff.mp h)

/-- There is no other such order. -/
theorem keyOrder_unique {nodes : List Node} {order : List Nat}
    (hperm : order.Perm (List.range nodes.length)) (hordered : order.Pairwise (Before nodes)) :
    order = keyOrder nodes := by
  refine List.Perm.eq_of_pairwise ?_ hordered (keyOrder_pairwise nodes)
    (hperm.trans (keyOrder_perm nodes).symm)
  intro i j hi hj hij hji
  exact absurd hji (hij.asymm (List.mem_range.mp (hperm.mem_iff.mp hi)) (lt_of_mem_keyOrder hj))

/-! ## Pairs -/

/-- **Sorting a traversal is a stable sort of pairs.** Lists of different lengths are refused.
Otherwise both lists are read through the one order of all places in which the bytes of keys
ascend and places with the same key stay as they were, and every node keeps its edge. -/
theorem pairByKey_sorted (nodes : List Node) (edges : List Edge) :
    (nodes.length ≠ edges.length →
      ∃ fault, pairByKey nodes edges = .error (.fetchFailure fault)) ∧
    (nodes.length = edges.length →
      (keyOrder nodes).Perm (List.range nodes.length) ∧
      (keyOrder nodes).Pairwise (Before nodes) ∧
      (∀ order : List Nat, order.Perm (List.range nodes.length) → order.Pairwise (Before nodes) →
        order = keyOrder nodes) ∧
      ∃ ns es, pairByKey nodes edges = .ok (ns, es) ∧
        List.Forall₂ (fun i n => nodes[i]? = some n) (keyOrder nodes) ns ∧
        List.Forall₂ (fun i e => edges[i]? = some e) (keyOrder nodes) es ∧
        (ns.zip es).Perm (nodes.zip edges) ∧
        ns.Pairwise fun m n => Utf8.encode m.key ≤ Utf8.encode n.key) ∧
    ∀ n : Node, match n.attributes.get? keyName with
      | none | some .null => n.key = ""
      | some (.string s) => n.key = s
      | some v => n.key = v.text := by
  refine ⟨?_, ?_, ?_⟩
  · intro hlength
    rw [pairByKey, if_pos hlength]
    exact ⟨_, rfl⟩
  · intro hlength
    have hperm := keyOrder_perm nodes
    have hnodup : (keyOrder nodes).Nodup := hperm.nodup_iff.mpr List.nodup_range
    have hlt : ∀ i ∈ keyOrder nodes, i < nodes.length := fun _ => lt_of_mem_keyOrder
    have hordered := keyOrder_pairwise nodes
    refine ⟨hperm, hordered, fun order => keyOrder_unique, readThrough nodes (keyOrder nodes),
      readThrough edges (keyOrder nodes), if_neg (not_not.mpr hlength),
      forall₂_readThrough hnodup hlt, forall₂_readThrough hnodup (hlength ▸ hlt), ?_, ?_⟩
    · rw [zip_readThrough hlength hnodup hlt]
      refine readThrough_perm _ ?_
      rwa [List.length_zip, ← hlength, Nat.min_self]
    · rw [readThrough_eq nodes hnodup, List.pairwise_filterMap]
      refine hordered.imp fun {i j} hbefore m hm n hn => ?_
      obtain hkeys | ⟨hkeys, -⟩ := hbefore m n hm hn
      · exact List.le_of_lt hkeys
      · exact hkeys ▸ List.le_refl _
  · intro n
    rw [Node.key, Attributes.stringForm]
    split <;> simp_all [Json.stringForm]

-- no key comes first, and the text of 10 before that of 2
example :
    keyOrder [⟨(∅ : NameMap Json).insert keyName (.number (.int 10))⟩, ⟨∅⟩,
      ⟨(∅ : NameMap Json).insert keyName (.number (.int 2))⟩] = [1, 0, 2] := by
  cbv

end PropertyGraph
