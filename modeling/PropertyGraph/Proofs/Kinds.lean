import Mathlib.Data.List.Nodup
import PropertyGraph.Http.Service
import PropertyGraph.Proofs.JsonText
import PropertyGraph.Proofs.Representation
import PropertyGraph.Proofs.Totals

/-!
# Kinds in use and their counts

A store is summed up by the kinds of its nodes and edges and by how many there are of each kind.
Kinds are gathered from the tables of all partitions, of which some may have been emptied; counts
are taken from the entries of tables and listings from their keys. This module shows that these
agree in every store that clients can leave.

- `Store.places`: where all partitions store something of a kind, by partition and key.
  `Store.length_places`: a count is the number of places.
- `Counted`: **kinds agree with counts**. `Store.counted`: those of nodes and of edges do.
- `Store.kinds_counted`: **the main statement**, also for the report of what a store holds.
-/

namespace PropertyGraph

/-- Kinds are listed in the order of their bytes, each once, and exactly those that have a count
are. -/
structure Counted (kinds : List String) (count : String → Nat) : Prop where
  ascending : kinds.Pairwise fun a b => Utf8.encode a < Utf8.encode b
  mem_iff : ∀ kind, kind ∈ kinds ↔ 0 < count kind

namespace Store

section Tables

variable {α : Type} {s : Store} {kind : String}

/-- A kind is in use in some tables exactly if its own table has entries. -/
theorem mem_usedKinds_iff {tables : NameMap (Table α)} :
    kind ∈ usedKinds tables ↔ 0 < ((tables.get? kind).getD ∅).size := by
  rw [usedKinds, List.mem_map]
  constructor
  · rintro ⟨⟨kind, t⟩, ht, rfl⟩
    obtain ⟨ht, hused⟩ := List.mem_filter.1 ht
    rw [NameMap.mem_entries_iff.1 ht]
    exact List.length_pos_iff.2 (by simpa [Table.isEmpty, NameMap.isEmpty] using hused)
  · intro h
    cases ht : tables.get? kind with
    | none =>
      rw [ht] at h
      cases h
    | some t =>
      rw [ht] at h
      refine ⟨(kind, t), List.mem_filter.2 ⟨NameMap.mem_entries_iff.2 ht, ?_⟩, rfl⟩
      simpa [Table.isEmpty, NameMap.isEmpty] using List.length_pos_iff.1 h

/-- **Kinds agree with counts**, in whichever tables of the partitions they are taken. -/
theorem counted (tables : Partition → NameMap (Table α)) (s : Store) :
    Counted (distinct (s.partitions.values.flatMap fun p => usedKinds (tables p)))
      (fun kind => total (s.partitions.values.map fun p => (((tables p).get? kind).getD ∅).size))
    where
  ascending := (NameMap.names_ascending _).imp Utf8.encode_lt_iff.2
  mem_iff kind := by
    rw [mem_distinct_iff, List.mem_flatMap, Nat.pos_iff_ne_zero, ne_eq, total_eq_zero_iff]
    simp only [mem_usedKinds_iff, List.forall_mem_map, not_forall, Nat.pos_iff_ne_zero, exists_prop]

/-! ## Where something of a kind is stored -/

/-- The places where all partitions store something of a kind, each given by a partition and a
key. -/
def places (tables : Partition → NameMap (Table α)) (s : Store) (kind : String) :
    List (String × String) :=
  s.partitions.entries.flatMap fun e =>
    (((tables e.2).get? kind).getD ∅).keys.map fun key => (e.1, key)

variable {tables : Partition → NameMap (Table α)}

theorem mem_places_iff
    (h : ∀ name p, s.partition? name = some p → AllConsistent (tables p)) {partition key : String} :
    (partition, key) ∈ places tables s kind ↔
      ∃ p a, s.partition? partition = some p ∧ lookUp (tables p) key kind = some a := by
  have hkeys : ∀ {p : Partition}, s.partition? partition = some p →
      (key ∈ (((tables p).get? kind).getD ∅).keys ↔ ∃ a, lookUp (tables p) key kind = some a) := by
    intro p hp
    rw [((h partition p hp).table kind).listed key, get?_getD_table, Option.isSome_iff_exists]
  simp only [places, List.mem_flatMap, List.mem_map]
  constructor
  · rintro ⟨⟨partition, p⟩, hp, key, hkey, heq⟩
    cases heq
    have hp : s.partition? partition = some p := NameMap.mem_entries_iff.1 hp
    obtain ⟨a, ha⟩ := (hkeys hp).1 hkey
    exact ⟨p, a, hp, ha⟩
  · rintro ⟨p, a, hp, ha⟩
    exact ⟨(partition, p), NameMap.mem_entries_iff.2 hp, key, (hkeys hp).2 ⟨a, ha⟩, rfl⟩

theorem nodup_places (h : ∀ name p, s.partition? name = some p → AllConsistent (tables p)) :
    (places tables s kind).Nodup := by
  refine List.nodup_flatMap.2 ⟨fun ⟨name, p⟩ hp => ?_, s.partitions.sorted.imp fun hlt => ?_⟩
  · have hp : s.partition? name = some p := NameMap.mem_entries_iff.1 hp
    exact ((h name p hp).table kind).nodup.map fun key key' heq => (Prod.mk.inj heq).2
  · -- different partitions share no place
    intro place hplace hplace'
    obtain ⟨_, -, rfl⟩ := List.mem_map.1 hplace
    obtain ⟨_, -, heq⟩ := List.mem_map.1 hplace'
    exact String.ne_of_lt hlt (Prod.mk.inj heq).1.symm

/-- **A count is the number of places.** -/
theorem length_places (h : ∀ name p, s.partition? name = some p → AllConsistent (tables p)) :
    (places tables s kind).length =
      total (s.partitions.values.map fun p => (((tables p).get? kind).getD ∅).size) := by
  rw [places, length_flatMap_eq_total, NameMap.values, List.map_map]
  refine congrArg total (List.map_congr_left fun e he => ?_)
  rw [List.length_map]
  exact ((h e.1 e.2 (NameMap.mem_entries_iff.1 he)).table kind).size_eq.symm

end Tables

/-! ## Counts and reads -/

variable {s : Store} {partition key kind : String}

/-- How many keys a listing of keys has; none if there is no listing. -/
def keyCount : Except StoreFault (Option (List String)) → Nat
  | .ok (some keys) => keys.length
  | _ => 0

theorem keyCount_nodeKeys {p : Partition} (hp : s.partition? partition = some p)
    (hname : isPartitionName partition = true) :
    keyCount (s.nodeKeys partition kind) = (p.nodeTable kind).keys.length := by
  rw [nodeKeys_of_valid s hname, partitionOrEmpty, hp, Option.getD_some, Partition.nodeTable]
  cases p.nodes.get? kind <;> rfl

/-- Where nothing was ever written no keys are listed. -/
theorem keyCount_eq_zero (h : partition ∉ s.partitions.names) :
    keyCount (s.nodeKeys partition kind) = 0 := by
  have hnone : s.partition? partition = none := Bindings.get?_eq_none_iff.2 h
  rw [nodeKeys, readPartition, hnone]
  cases checkPartition partition <;> rfl

/-- A count of nodes is the number of keys that all partitions list. -/
theorem nodeCount_eq (hformed : s.WellFormed) (hnamed : s.AllNamed) (kind : String) :
    s.nodeCount kind =
      total (s.partitions.names.map fun partition => keyCount (s.nodeKeys partition kind)) := by
  rw [nodeCount, NameMap.values, NameMap.names, List.map_map, List.map_map]
  refine congrArg total (List.map_congr_left fun e he => ?_)
  have hp : s.partition? e.1 = some e.2 := NameMap.mem_entries_iff.1 he
  show (e.2.nodeTable kind).size = keyCount (s.nodeKeys e.1 kind)
  rw [keyCount_nodeKeys hp (hnamed e.1 e.2 hp).1]
  exact ((hformed.of_partition? hp).nodes.table kind).size_eq

/-- An edge is fetched from exactly the places where one is stored. -/
theorem AllNamed.fetchEdge_eq_some_iff (h : s.AllNamed) {e : Edge} :
    s.fetchEdge partition key kind = .ok (some e) ↔
      ∃ p, s.partition? partition = some p ∧ p.edge? key kind = some e := by
  constructor
  · intro hfetch
    rw [fetchEdge, readPartition] at hfetch
    split at hfetch
    · cases hfetch
    · have hfound := Option.join_eq_some_iff.1 (Except.ok.inj hfetch)
      obtain ⟨p, hp, he⟩ := Option.map_eq_some_iff.1 hfound
      exact ⟨p, hp, he⟩
  · rintro ⟨p, hp, he⟩
    rw [fetchEdge, readPartition_of_valid s (h partition p hp).1, hp]
    exact congrArg Except.ok he

/-- A count of edges is the number of places from which an edge is fetched. -/
theorem edgeCount_eq (hformed : s.WellFormed) (hnamed : s.AllNamed) (kind : String) :
    ∃ places : List (String × String), places.Nodup ∧
      (∀ partition key, (partition, key) ∈ places ↔
        ∃ e, s.fetchEdge partition key kind = .ok (some e)) ∧
      s.edgeCount kind = places.length := by
  have hall : ∀ name p, s.partition? name = some p → AllConsistent p.edges := fun _ _ hp =>
    (hformed.of_partition? hp).edges.allConsistent
  refine ⟨s.places Partition.edges kind, nodup_places hall, fun partition key => ?_,
    (length_places hall).symm⟩
  simp only [mem_places_iff hall, hnamed.fetchEdge_eq_some_iff]
  exact exists_comm

end Store

/-! ## The report of what a store holds -/

namespace Http

/-- Kinds in order are reported in this order. -/
theorem kindCounts_of_counted {kinds : List String} {count : String → Nat}
    (h : Counted kinds count) :
    kindCounts kinds count =
      .object (kinds.map fun kind => (kind, .number (.int (count kind)))) :=
  Json.ofBindings_of_sorted (List.pairwise_map.2 (h.ascending.imp Utf8.encode_lt_iff.1))

/-- Whoever reads the report is answered with it. -/
theorem respond_info {s : Store} {limit : Nat} {r : Request} (hmethod : r.method = "GET")
    (hroute : Route.ofPath? (Target.ofText r.target).path = some .info) :
    (Service.respond ⟨s, limit⟩ r).response = crossOrigin (infoReport s) := by
  have hget : Route.action? .info "GET" = some (.read true) := rfl
  simp [Service.respond, hroute, hmethod, Service.act, hget, Service.read]

end Http

/-! ## The main statement -/

/-- **Kinds and counts agree.** In every reachable store the kinds of nodes and of edges are listed
in the order of their bytes, each once, and they are exactly those with a positive count. The count
of a kind of nodes is the number of keys that all partitions list for it; the count of a kind of
edges is the number of places, each a partition and a key, from which an edge of the kind is
fetched. The report of what the store holds lists exactly these kinds with these counts. -/
theorem Store.kinds_counted {s : Store} (hs : s.Reachable) :
    Counted s.nodeKinds s.nodeCount ∧
    (∀ kind, s.nodeCount kind =
        total (s.partitions.names.map fun partition => keyCount (s.nodeKeys partition kind)) ∧
      ∀ partition, partition ∉ s.partitions.names → keyCount (s.nodeKeys partition kind) = 0) ∧
    Counted s.edgeKinds s.edgeCount ∧
    (∀ kind, ∃ places : List (String × String), places.Nodup ∧
      (∀ partition key, (partition, key) ∈ places ↔
        ∃ e, s.fetchEdge partition key kind = .ok (some e)) ∧
      s.edgeCount kind = places.length) ∧
    ∀ (limit : Nat) (r : Http.Request), r.method = "GET" →
      Http.Route.ofPath? (Http.Target.ofText r.target).path = some .info →
      (Http.Service.respond ⟨s, limit⟩ r).response = Http.crossOrigin (Http.report
        [("name", .string Http.serviceName), ("version", .string Http.serviceVersion),
          ("node_kinds", .object (s.nodeKinds.map fun kind =>
            (kind, .number (.int (s.nodeCount kind))))),
          ("edge_kinds", .object (s.edgeKinds.map fun kind =>
            (kind, .number (.int (s.edgeCount kind)))))]) := by
  have hnodes : Counted s.nodeKinds s.nodeCount := counted Partition.nodes s
  have hedges : Counted s.edgeKinds s.edgeCount := counted Partition.edges s
  refine ⟨hnodes, fun kind => ⟨?_, fun partition h => keyCount_eq_zero h⟩, hedges,
    edgeCount_eq hs.wellFormed hs.allNamed, fun limit r hmethod hroute => ?_⟩
  · exact nodeCount_eq hs.wellFormed hs.allNamed kind
  · rw [Http.respond_info hmethod hroute, ← Http.kindCounts_of_counted hnodes,
      ← Http.kindCounts_of_counted hedges]
    rfl

/-- A schedule that stores nodes in two partitions and edges of two kinds, and takes the only edge
of one of the kinds away again. -/
def vacatedKindSchedule : List SessionStep :=
  let edge (key kind : String) :=
    Edge.ofEnds key kind ⟨"1", "Person", "from", false⟩ ⟨"2", "Person", "to", false⟩
  [.begin "t",
    .stage "t" (.storeNode "p" (.ofKey "1" "Person")),
    .stage "t" (.storeNode "q" (.ofKey "1" "Person")),
    .stage "t" (.storeNode "q" (.ofKey "2" "Person")),
    .stage "t" (.storeEdge "q" (edge "e" "Knows")),
    .stage "t" (.storeEdge "q" (edge "f" "Likes")),
    .commit "t",
    .begin "t", .stage "t" (.removeEdge "q" "f" "Likes"), .commit "t"]

/-- The kind without edges is neither listed nor reported, although it still has a table. -/
theorem Store.kinds_counted_vacated :
    let s := (Session.start.run vacatedKindSchedule).store
    Counted s.edgeKinds s.edgeCount ∧ s.edgeKinds = ["Knows"] ∧ s.edgeCount "Likes" = 0 ∧
      ((s.partitionOrEmpty "q").edges.get? "Likes").isSome ∧
      (Http.Service.respond ⟨s, 0⟩ ⟨"GET", "/info", []⟩).response = Http.crossOrigin (Http.report
        [("name", .string Http.serviceName), ("version", .string Http.serviceVersion),
          ("node_kinds", .object [("Person", .number (.int 3))]),
          ("edge_kinds", .object [("Knows", .number (.int 1))])]) := by
  intro s
  obtain ⟨-, -, hedges, -, hinfo⟩ := Store.kinds_counted (s := s) ⟨vacatedKindSchedule, rfl⟩
  have hroute : Http.Route.ofPath? (Http.Target.ofText "/info").path = some .info := rfl
  exact ⟨hedges, rfl, rfl, rfl, hinfo 0 ⟨"GET", "/info", []⟩ rfl hroute⟩

end PropertyGraph
