import Mathlib.Data.List.Perm.Basic
import PropertyGraph.Proofs.Listings

/-!
# What the total of a list counts

A list request answers with rows of one partition and with a total. The rows come from the
tables of the partition. The total is counted over the tables of all partitions, so it says
how many nodes of the listed kinds the store has, and not how many could be listed.

- `Table.Consistent.size_eq`, `Partition.WellFormed.length_references`: in a partition that
  is in order the counts are those of a listing.
- `Store.elsewhere`: the nodes of the listed kinds in other partitions.
- `Endpoint.total_of_list`: **the main statement**: the total is the number of rows and of
  the nodes elsewhere together, whatever the window, and it is the number of rows exactly if
  there are no nodes elsewhere.
- `Endpoint.total_exceeds_rows`: one row of a total of two.
-/

namespace PropertyGraph

/-! ## Counts of a map, a table and a partition -/

/-- The total over a map is what is counted under a name and all that is counted elsewhere. -/
theorem NameMap.total_values {α : Type} (m : NameMap α) (f : α → Nat) (name : String) :
    total (m.values.map f) =
      (m.get? name).elim 0 f + total ((m.erase name).values.map f) := by
  have hnames := m.names_nodup
  obtain ⟨entries, hsorted⟩ := m
  simp only [values, erase, get?, names] at hnames ⊢
  clear hsorted
  induction entries with
  | nil => rfl
  | cons e rest ih =>
    obtain ⟨n, v⟩ := e
    rw [List.map_cons, List.nodup_cons] at hnames
    obtain ⟨hnew, hrest⟩ := hnames
    rw [Bindings.get?_cons, List.map_cons, List.map_cons, total_cons, ih hrest]
    by_cases hn : n = name
    · -- the name is not bound once more
      subst hn
      simp [Bindings.get?_eq_none_iff.2 hnew]
    · rw [if_neg hn, List.filter_cons_of_pos (by simpa using hn), List.map_cons, List.map_cons,
        total_cons]
      omega

/-- A consistent table has as many entries as it lists keys. -/
theorem Table.Consistent.size_eq {α : Type} {t : Table α} (h : t.Consistent) :
    t.size = t.keys.length := by
  have hperm : t.keys.Perm t.entries.names :=
    (List.perm_ext_iff_of_nodup h.nodup t.entries.names_nodup).2 fun key =>
      (h.listed key).trans NameMap.mem_names_iff.symm
  rw [hperm.length_eq, NameMap.names, List.length_map]
  rfl

/-- The nodes of some kinds are as many as their tables have entries. -/
theorem Partition.WellFormed.length_references {p : Partition} (h : p.WellFormed)
    (kinds : List String) :
    (p.references kinds).length = total (kinds.map fun kind => (p.nodeTable kind).size) := by
  rw [references, length_flatMap_eq_total]
  refine congrArg total (List.map_congr_left fun kind _ => ?_)
  rw [List.length_map]
  exact (h.nodes.table kind).size_eq.symm

namespace Store

variable {s : Store} {partition : String} {kinds : List String}

/-- How many nodes of some kinds the other partitions store. -/
def elsewhere (s : Store) (partition : String) (kinds : List String) : Nat :=
  total ((s.partitions.erase partition).values.map fun p => (p.references kinds).length)

theorem mem_values_erase {p : Partition} :
    p ∈ (s.partitions.erase partition).values ↔
      ∃ other, other ≠ partition ∧ s.partition? other = some p := by
  rw [NameMap.values, List.mem_map]
  constructor
  · rintro ⟨⟨other, p⟩, hmem, rfl⟩
    have hget := NameMap.mem_entries_iff.1 hmem
    rw [NameMap.get?_erase] at hget
    split at hget
    · cases hget
    · next hne => exact ⟨other, Ne.symm hne, hget⟩
  · rintro ⟨other, hne, hget⟩
    refine ⟨(other, p), NameMap.mem_entries_iff.2 ?_, rfl⟩
    rw [NameMap.get?_erase, if_neg (Ne.symm hne)]
    exact hget

/-- Nothing is stored elsewhere exactly if no other partition stores a node of the kinds. -/
theorem WellFormed.elsewhere_eq_zero_iff (h : s.WellFormed) :
    s.elsewhere partition kinds = 0 ↔
      ∀ other, other ≠ partition → ∀ r, (s.partitionOrEmpty other).Stores r → r.kind ∉ kinds := by
  rw [elsewhere, total_eq_zero_iff]
  constructor
  · intro hzero other hne r hr hkind
    have hmem : r ∈ (s.partitionOrEmpty other).references kinds :=
      (h other).mem_references_iff.2 ⟨hr, hkind⟩
    rw [partitionOrEmpty] at hmem
    cases hp : s.partition? other with
    | none =>
      rw [hp] at hmem
      exact absurd (Partition.wellFormed_empty.mem_references_iff.1 hmem).1 Bool.false_ne_true
    | some p =>
      rw [hp] at hmem
      have hlength := hzero _ (List.mem_map_of_mem (mem_values_erase.2 ⟨other, hne, hp⟩))
      rw [Option.getD_some, List.eq_nil_of_length_eq_zero hlength] at hmem
      cases hmem
  · intro hnone n hn
    obtain ⟨p, hmem, rfl⟩ := List.mem_map.1 hn
    obtain ⟨other, hne, hp⟩ := mem_values_erase.1 hmem
    rw [List.length_eq_zero_iff, List.eq_nil_iff_forall_not_mem]
    intro r hr
    obtain ⟨hstored, hkind⟩ := (h.of_partition? hp).mem_references_iff.1 hr
    refine hnone other hne r ?_ hkind
    rw [partitionOrEmpty, hp]
    exact hstored

/-- The count of nodes of some kinds goes through all partitions. -/
theorem WellFormed.total_nodeCount (h : s.WellFormed) (partition : String)
    (kinds : List String) :
    total (kinds.map s.nodeCount) =
      ((s.partitionOrEmpty partition).references kinds).length + s.elsewhere partition kinds := by
  have hrows : ∀ p ∈ s.partitions.values,
      total (kinds.map fun kind => (p.nodeTable kind).size) = (p.references kinds).length := by
    intro p hp
    obtain ⟨⟨name, p⟩, hentry, rfl⟩ := List.mem_map.1 hp
    exact ((h.of_partition? (NameMap.mem_entries_iff.1 hentry)).length_references kinds).symm
  have hempty : ((∅ : Partition).references kinds).length = 0 := by
    rw [Partition.wellFormed_empty.length_references, total_eq_zero_iff]
    intro n hn
    obtain ⟨kind, -, rfl⟩ := List.mem_map.1 hn
    rfl
  calc total (kinds.map s.nodeCount)
      = total (s.partitions.values.map fun p =>
          total (kinds.map fun kind => (p.nodeTable kind).size)) := total_total_comm _ _ _
    _ = total (s.partitions.values.map fun p => (p.references kinds).length) :=
        congrArg total (List.map_congr_left hrows)
    _ = _ := by
        rw [NameMap.total_values _ _ partition, elsewhere, partitionOrEmpty, Store.partition?]
        cases s.partitions.get? partition with
        | none => rw [Option.elim_none, Option.getD_none, hempty]
        | some p => rfl

end Store

namespace Endpoint

variable {s : Store} {partition : String}

theorem document_of_listed {nodes : List Node} {population : Nat} {w : Window} {a : Answer}
    (h : listed nodes population w = .ok a) :
    a = .document (encodeList (w.slice (nodes.map (·.attributes)))) (some population) := by
  unfold listed at h
  split at h
  · cases h
    rfl
  · cases h

/-- **The total of a list counts the store, not the list.** Take any store that clients can
bring about, and any list request that succeeds, for all nodes of a partition or for those of a
kind, whatever its window. Its rows are a slice of the complete listing. Its total is the length
of the listing and the number of nodes of the listed kinds in all other partitions, added up. The
same request without a window answers with the whole listing and with the same total. So the
total is the number of rows without a window exactly if no other partition stores a node of a
listed kind. -/
theorem total_of_list (hs : s.Reachable) (kind? : Option String) {q : Query} {a : Answer}
    (hget : get s (listPath partition kind?) q = .ok a) :
    ∃ w nodes, Window.ofQuery q = .ok w ∧
      (s.partitionOrEmpty partition).Listing (listedKinds s kind?) nodes ∧
      let population := nodes.length + s.elsewhere partition (listedKinds s kind?)
      a = .document (encodeList (w.slice (nodes.map (·.attributes)))) (some population) ∧
      (∀ q', Unwindowed q' → get s (listPath partition kind?) q' =
        .ok (.document (encodeList (nodes.map (·.attributes))) (some population))) ∧
      (population = nodes.length ↔ ∀ other, other ≠ partition → ∀ r,
        (s.partitionOrEmpty other).Stores r → r.kind ∉ listedKinds s kind?) := by
  have hformed := hs.wellFormed
  have hp : isPartitionName partition = true := isPartitionName_of_get kind? hget
  obtain ⟨nodes, hlist⟩ :=
    (hformed partition).exists_listing (listedKinds_ascending s kind?)
  have hpopulation : total ((listedKinds s kind?).map s.nodeCount) =
      nodes.length + s.elsewhere partition (listedKinds s kind?) := by
    rw [hformed.total_nodeCount partition, hlist.stored.length_eq]
  have hanswer := get_listPath hp kind? hlist
  rw [hpopulation] at hanswer
  rw [hanswer] at hget
  obtain ⟨w, hw, hget⟩ := bind_eq_ok_iff.1 hget
  have hw : Window.ofQuery q = .ok w := window_eq_ok_iff.1 hw
  split at hget
  · next hused =>
    refine ⟨w, nodes, hw, hlist, document_of_listed hget, fun q' hq' => ?_, ?_⟩
    · rw [hanswer, window_of_unwindowed hq']
      show (if _ then _ else _) = _
      rw [if_pos hused]
      exact if_pos (Nat.zero_le _)
    · rw [← hformed.elsewhere_eq_zero_iff]
      omega
  · cases hget

/-- A schedule that stores a node under one key and kind in two partitions. -/
def sharedSchedule : List SessionStep :=
  [.begin "t",
    .stage "t" (.storeNode "p" (.ofKey "1" "K")),
    .stage "t" (.storeNode "q" (.ofKey "1" "K")),
    .commit "t"]

/-- One node is listed in the first partition. -/
theorem shared_listing :
    ((Session.start.run sharedSchedule).store.partitionOrEmpty "p").Listing ["K"]
      [.ofKey "1" "K"] := by
  have hs : (Session.start.run sharedSchedule).store.Reachable := ⟨sharedSchedule, rfl⟩
  obtain ⟨nodes, hlist⟩ :=
    (hs.wellFormed "p").exists_listing (List.pairwise_singleton (· < ·) "K")
  have hstored : List.Forall₂ _ [(⟨"1", "K"⟩ : NodeRef)] nodes := hlist.stored
  obtain ⟨n, rest, hn, hrest, rfl⟩ := List.forall₂_cons_left_iff.1 hstored
  obtain rfl := List.forall₂_nil_left_iff.1 hrest
  obtain rfl : Node.ofKey "1" "K" = n := Option.some.inj hn
  exact hlist

/-- The node that is listed is the only row, and the total is two. -/
theorem shared_get :
    get (Session.start.run sharedSchedule).store ["p", "n", "K"] ∅ =
      .ok (.document (encodeList [(Node.ofKey "1" "K").attributes]) (some 2)) := by
  refine (get_listPath (by decide +kernel) (some "K") shared_listing ∅).trans ?_
  rw [window_of_unwindowed fun b => NameMap.get?_empty b.name]
  rfl

/-- The other node with the key and the kind makes up the rest of the total. -/
theorem total_of_list_shared :
    let s := (Session.start.run sharedSchedule).store
    ∃ nodes, (s.partitionOrEmpty "p").Listing ["K"] nodes ∧ s.elsewhere "p" ["K"] = 1 ∧
      nodes.length + s.elsewhere "p" ["K"] = 2 ∧
      ∀ q, Unwindowed q → get s ["p", "n", "K"] q =
        .ok (.document (encodeList (nodes.map (·.attributes))) (some 2)) := by
  intro s
  obtain ⟨w, nodes, -, hlist, ha, hall, -⟩ :=
    total_of_list ⟨sharedSchedule, rfl⟩ (some "K") shared_get
  have htotal : 2 = nodes.length + s.elsewhere "p" ["K"] :=
    Option.some.inj (Answer.document.inj ha).2
  refine ⟨nodes, hlist, rfl, htotal.symm, fun q hq => ?_⟩
  rw [htotal]
  exact hall q hq

/-- A list without a window whose total is not the number of its rows. -/
theorem total_exceeds_rows :
    let s := (Session.start.run sharedSchedule).store
    let rows := [(Node.ofKey "1" "K").attributes]
    s.Reachable ∧ Unwindowed ∅ ∧
      get s ["p", "n", "K"] ∅ = .ok (.document (encodeList rows) (some 2)) ∧ rows.length ≠ 2 :=
  ⟨⟨sharedSchedule, rfl⟩, fun b => NameMap.get?_empty b.name, shared_get, by decide⟩

end Endpoint

end PropertyGraph
