import PropertyGraph.Proofs.Listings
import PropertyGraph.Proofs.Windows

/-!
# Pages tile a list

A long list is read page by page, each page from where the one before it ends. A page may run
from the nodes of one kind into those of the next, it may end where the list ends, and it may
start there.

- `flatten_pages`: slices of one length, laid end to end.
- `Endpoint.get_page`: **one page**: a slice of the rows, or the end of the list if the page
  starts beyond it.
- `Endpoint.pages_tile`: **the main statement**.
-/

universe u

namespace PropertyGraph

/-! ## Slices of a list -/

variable {α : Type u}

/-- Slices of one length, laid end to end, are the front of a list. -/
theorem flatten_slices (l : List α) (limit count : Nat) :
    ((List.range count).map fun i => (l.drop (i * limit)).take limit).flatten =
      l.take (count * limit) := by
  induction count with
  | zero => simp
  | succ count ih =>
    rw [List.range_succ, List.map_append, List.flatten_append, ih, Nat.succ_mul, List.take_add]
    simp

/-- The slices that start inside a list or at its end are the whole list. -/
theorem flatten_pages (l : List α) {limit : Nat} (hlimit : 1 ≤ limit) :
    ((List.range (l.length / limit + 1)).map fun i => (l.drop (i * limit)).take limit).flatten =
      l := by
  have hend : l.length ≤ (l.length / limit + 1) * limit := by
    rw [Nat.mul_comm]
    exact Nat.le_of_lt (Nat.lt_mul_div_succ l.length hlimit)
  rw [flatten_slices, List.take_of_length_le hend]

namespace Endpoint

variable {s : Store} {partition : String}

/-! ## One page -/

/-- A page of a listing: a slice of its rows, or an error if it starts beyond the end. -/
theorem listed_page (nodes : List Node) (population offset limit : Nat) :
    listed nodes population ⟨some offset, some limit⟩ =
      if offset ≤ nodes.length then
        .ok (.document (.array (((nodes.map (·.attributes.toJson)).drop offset).take limit))
          (some population))
      else .error (.offsetOutOfRange offset nodes.length) := by
  have hrows : encodeList (((nodes.map (·.attributes)).drop offset).take limit) =
      .array (((nodes.map (·.attributes.toJson)).drop offset).take limit) := by
    rw [encodeList, List.map_take, List.map_drop, List.map_map]
    rfl
  rw [← hrows]
  rfl

/-- Without a window a list request answers with all rows, if there is a table to list from. -/
theorem get_unwindowed (hp : isPartitionName partition = true) (kind? : Option String)
    {nodes : List Node}
    (h : (s.partitionOrEmpty partition).Listing (listedKinds s kind?) nodes) {q : Query}
    (hq : Unwindowed q) :
    get s (listPath partition kind?) q =
      if ∃ kind ∈ listedKinds s kind?, ((s.partitionOrEmpty partition).nodes.get? kind).isSome then
        .ok (.document (.array (nodes.map (·.attributes.toJson)))
          (some (total ((listedKinds s kind?).map s.nodeCount))))
      else .error (nothingListed kind?) := by
  have hrows : encodeList (nodes.map (·.attributes)) =
      .array (nodes.map (·.attributes.toJson)) := by
    rw [encodeList, List.map_map]
    rfl
  rw [get_listPath hp kind? h, window_of_unwindowed hq, ← hrows, ← listed_all]
  rfl

/-- **One page.** If a list request succeeds without a window, it answers with some rows, and a
request for a page answers with a slice of these and with the same total, or says that the page
starts beyond the end. -/
theorem get_page (hs : s.Reachable) (kind? : Option String) {q : Query} (hq : Unwindowed q)
    {a : Answer} (hget : get s (listPath partition kind?) q = .ok a) :
    ∃ rows population, a = .document (.array rows) (some population) ∧
      ∀ q' offset limit, AsksPage q' offset limit → offset < countBound → limit < countBound →
        get s (listPath partition kind?) q' =
          if offset ≤ rows.length then
            .ok (.document (.array ((rows.drop offset).take limit)) (some population))
          else .error (.offsetOutOfRange offset rows.length) := by
  have hp : isPartitionName partition = true := isPartitionName_of_get kind? hget
  obtain ⟨nodes, hlist⟩ :=
    (hs.wellFormed partition).exists_listing (listedKinds_ascending s kind?)
  rw [get_unwindowed hp kind? hlist hq] at hget
  split at hget
  · next hused =>
    cases hget
    refine ⟨_, _, rfl, ?_⟩
    intro q' offset limit hasks hoffset hlimit
    rw [get_listPath hp kind? hlist, window_of_asksPage hasks hoffset hlimit, List.length_map,
      ← listed_page]
    exact if_pos hused
  · cases hget

/-! ## The main statement -/

/-- **Pages tile a list.** Take any reachable store and any list request that succeeds without a
window, for all nodes of a partition or for those of a kind, and any number of items that a page
may have, at least one. Both bounds of a page are given in decimal digits. A page that starts
inside the list or at its end is answered with the rows from there on, as many as there are up to
the limit, and with the total of the whole list. A page that starts beyond the end is refused with
its offset and the number of rows. The pages that start at multiples of the limit, as long as
these are no more than the number of rows, are answered one by one with rows that are the whole
list when they are laid end to end. -/
theorem pages_tile (hs : s.Reachable) (kind? : Option String) {q : Query} (hq : Unwindowed q)
    {a : Answer} (hget : get s (listPath partition kind?) q = .ok a) :
    ∃ rows population, a = .document (.array rows) (some population) ∧
      ∀ limit, 1 ≤ limit → limit < countBound →
        (∀ q' offset, AsksPage q' offset limit → offset < countBound → offset ≤ rows.length →
          ∃ page, get s (listPath partition kind?) q' =
              .ok (.document (.array page) (some population)) ∧
            page = (rows.drop offset).take limit ∧
            page.length = min limit (rows.length - offset)) ∧
        (∀ q' offset, AsksPage q' offset limit → offset < countBound → rows.length < offset →
          get s (listPath partition kind?) q' = .error (.offsetOutOfRange offset rows.length)) ∧
        -- the rows are held in memory, so that a count can number them
        (rows.length < countBound → ∀ queries : Nat → Query,
          (∀ i, AsksPage (queries i) (i * limit) limit) →
          ∃ pages, List.Forall₂ (fun i page => get s (listPath partition kind?) (queries i) =
              .ok (.document (.array page) (some population)))
              (List.range (rows.length / limit + 1)) pages ∧
            pages.flatten = rows) := by
  obtain ⟨rows, population, ha, hpage⟩ := get_page hs kind? hq hget
  refine ⟨rows, population, ha, fun limit hpositive hlimit => ⟨?_, ?_, ?_⟩⟩
  · intro q' offset hasks hoffset hinside
    refine ⟨_, ?_, rfl, by rw [List.length_take, List.length_drop]⟩
    rw [hpage q' offset limit hasks hoffset hlimit, if_pos hinside]
  · intro q' offset hasks hoffset hbeyond
    rw [hpage q' offset limit hasks hoffset hlimit, if_neg (by omega)]
  · intro hrows queries hasks
    refine ⟨(List.range (rows.length / limit + 1)).map fun i => (rows.drop (i * limit)).take limit,
      ?_, flatten_pages rows hpositive⟩
    rw [List.forall₂_map_right_iff, List.forall₂_same]
    intro i hi
    have hinside : i * limit ≤ rows.length := by
      rw [List.mem_range, Nat.lt_succ_iff] at hi
      exact (Nat.le_div_iff_mul_le hpositive).1 hi
    rw [hpage (queries i) (i * limit) limit (hasks i) (by omega) hlimit, if_pos hinside]

/-- Three nodes of two kinds in pages of two: the first page runs from the cities into the persons.
A page that starts at the end has no rows, and one that starts behind it is refused. -/
theorem pages_tile_places :
    let s := (Session.start.run placesSchedule).store
    ∃ rows population,
      get s ["main", "n"] ∅ = .ok (.document (.array rows) (some population)) ∧ rows.length = 3 ∧
      get s ["main", "n"] (pageQuery 0 2) =
        .ok (.document (.array (rows.take 2)) (some population)) ∧
      get s ["main", "n"] (pageQuery 2 2) =
        .ok (.document (.array (rows.drop 2)) (some population)) ∧
      get s ["main", "n"] (pageQuery 3 2) = .ok (.document (.array []) (some population)) ∧
      get s ["main", "n"] (pageQuery 4 2) = .error (.offsetOutOfRange 4 3) := by
  intro s
  have hs : s.Reachable := ⟨placesSchedule, rfl⟩
  have hp : isPartitionName "main" = true := by decide +kernel
  have hq : Unwindowed ∅ := fun b => NameMap.get?_empty b.name
  obtain ⟨nodes, hlist⟩ := (hs.wellFormed "main").exists_listing (listedKinds_ascending s none)
  have hused : ∃ kind ∈ listedKinds s none,
      ((s.partitionOrEmpty "main").nodes.get? kind).isSome := ⟨"City", by decide, rfl⟩
  have hget := get_unwindowed hp none hlist hq
  rw [if_pos hused] at hget
  obtain ⟨rows, population, ha, hpages⟩ := pages_tile hs none hq hget
  obtain ⟨hinside, hbeyond, -⟩ := hpages 2 (by decide) (by decide)
  have hrows : rows.length = 3 := by
    rw [← Json.array.inj (Answer.document.inj ha).1, List.length_map]
    exact hlist.stored.length_eq.symm
  have hpage : ∀ offset ≤ 3, get s ["main", "n"] (pageQuery offset 2) =
      .ok (.document (.array ((rows.drop offset).take 2)) (some population)) := by
    intro offset hoffset
    obtain ⟨page, hget, rfl, -⟩ := hinside _ offset (asksPage_pageQuery offset 2)
      (Nat.lt_of_le_of_lt hoffset (by decide)) (hrows ▸ hoffset)
    exact hget
  refine ⟨rows, population, hget.trans (congrArg _ ha), hrows, hpage 0 (by decide), ?_, ?_, ?_⟩
  · have hlast : (rows.drop 2).take 2 = rows.drop 2 :=
      List.take_of_length_le (by rw [List.length_drop, hrows]; decide)
    rw [hpage 2 (by decide), hlast]
  · have hnone : rows.drop 3 = [] := List.drop_of_length_le (Nat.le_of_eq hrows)
    rw [hpage 3 (by decide), hnone, List.take_nil]
  · have hrefused := hbeyond _ 4 (asksPage_pageQuery 4 2) (by decide) (by omega)
    rwa [hrows] at hrefused

end Endpoint

end PropertyGraph
