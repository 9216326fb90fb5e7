import Mathlib.Data.List.TakeWhile
import PropertyGraph.Proofs.Entities
import PropertyGraph.Proofs.JsonLexemes
import PropertyGraph.Request.Endpoint

/-!
# What the parameters of a window are read as

A parameter of a window is a count: decimal digits with an optional plus sign in front and any
white space around, and a number that sixty-four bits hold. Exactly these texts are read, each as
its number.

- `Spells`: a text of decimal digits and the number that it spells.
- `IsCount`: **which texts are counts**, and of what.
- `countFrom_eq_some_iff`, `count?_eq_some_iff`: digits are read as their number, in both
  directions.
- `trimBlanks_parts`, `trimBlanks_around`: a text is what is left of it and white space around.
- `BoundIs`, `BadBound`: what the parameters of a request say about a window.
- `Endpoint.window_exact`: **the main statement**.
- `AsksPage`: parameters that ask for a page. `Endpoint.window_of_asksPage`: the window that they
  are read as. `pageQuery`: such parameters, for any page.
-/

namespace PropertyGraph

/-- A text of decimal digits that spells a number. Zeros may stand in front. -/
def Spells (text : String) (n : Nat) : Prop :=
  ∃ ds : List Nat, ds ≠ [] ∧ (∀ d ∈ ds, d < 10) ∧ text.toList = ds.map digitChar ∧
    ofDigitsIn 10 ds = n

/-- Decimal digits spell their number. -/
theorem spells_decimal (n : Nat) : Spells (decimal n) n := by
  obtain ⟨d, ds, heq, -⟩ := Json.digitsIn_eq_cons (n := n) (h := (by decide : 2 ≤ 10))
  refine ⟨digitsIn 10 (by decide) n, ?_, ?_, ?_, ofDigitsIn_digitsIn 10 (by decide) n⟩
  · rw [heq]
    exact List.cons_ne_nil d ds
  · intro x hx
    exact Json.lt_of_mem_digitsIn hx
  · exact String.toList_ofList

/-! ## Digits -/

theorem digitChar_bounds : ∀ d < 10, '0' ≤ digitChar d ∧ digitChar d ≤ '9' := by decide

theorem toNat_digitChar : ∀ d < 10, (digitChar d).toNat - '0'.toNat = d := by decide

theorem isBlank_digitChar : ∀ d < 10, isBlank (digitChar d) = false := by decide

/-- Digits are read as the number that they spell, unless it reaches the bound. -/
theorem countFrom_digits {n : Nat} (hn : n < countBound) {ds : List Nat} (hds : ∀ d ∈ ds, d < 10) :
    countFrom n (ds.map digitChar) =
      if ds.foldl (fun n d => n * 10 + d) n < countBound then
        some (ds.foldl (fun n d => n * 10 + d) n)
      else none := by
  induction ds generalizing n with
  | nil =>
    show some n = if n < countBound then some n else none
    rw [if_pos hn]
  | cons d rest ih =>
    obtain ⟨hd, hrest⟩ := List.forall_mem_cons.1 hds
    rw [List.map_cons, countFrom, if_pos (digitChar_bounds d hd), toNat_digitChar d hd,
      List.foldl_cons]
    by_cases hbound : n * 10 + d < countBound
    · rw [if_pos hbound]
      exact ih hbound hrest
    · -- the number is too large already, and no digit makes it smaller
      have hle := le_foldl_digits (by decide : 0 < 10) (n * 10 + d) rest
      rw [if_neg hbound, if_neg (by omega)]

/-- A decimal digit is the character of its value. -/
theorem digitChar_of_bounds {c : Char} (h : '0' ≤ c ∧ c ≤ '9') :
    c.toNat - '0'.toNat < 10 ∧ digitChar (c.toNat - '0'.toNat) = c := by
  have hlo : '0'.toNat ≤ c.toNat := h.1
  have hhi : c.toNat ≤ '9'.toNat := h.2
  have hzero : '0'.toNat = 0x30 := rfl
  have hnine : '9'.toNat = 0x39 := rfl
  have hlt : c.toNat - '0'.toNat < 10 := by omega
  refine ⟨hlt, ?_⟩
  rw [digitChar, if_pos hlt, hzero, Nat.add_sub_cancel' (hzero ▸ hlo), Char.ofNat_toNat]

/-- **Exactly rows of digits are read**, as the number that they spell behind what was read
before. -/
theorem countFrom_eq_some_iff {n m : Nat} {cs : List Char} (hn : n < countBound) :
    countFrom n cs = some m ↔
      ∃ ds : List Nat, (∀ d ∈ ds, d < 10) ∧ cs = ds.map digitChar ∧
        ds.foldl (fun n d => n * 10 + d) n = m ∧ m < countBound := by
  constructor
  · intro h
    induction cs generalizing n with
    | nil =>
      cases h
      exact ⟨[], List.forall_mem_nil _, rfl, rfl, hn⟩
    | cons c rest ih =>
      rw [countFrom] at h
      split at h
      · next hc =>
        simp only at h
        split at h
        · next hlt =>
          obtain ⟨hd, hchar⟩ := digitChar_of_bounds hc
          obtain ⟨ds, hds, rfl, hm⟩ := ih hlt h
          refine ⟨(c.toNat - '0'.toNat) :: ds, List.forall_mem_cons.2 ⟨hd, hds⟩, ?_, hm⟩
          rw [List.map_cons, hchar]
        · cases h
      · cases h
  · rintro ⟨ds, hds, rfl, rfl, hm⟩
    rw [countFrom_digits hn hds, if_pos hm]

/-- The same from the start: at least one digit, and the number that the digits spell. -/
theorem countFrom_zero_iff {n : Nat} {digits : String} :
    (digits.toList ≠ [] ∧ countFrom 0 digits.toList = some n) ↔
      Spells digits n ∧ n < countBound := by
  rw [countFrom_eq_some_iff (by decide)]
  constructor
  · rintro ⟨hne, ds, hds, htext, hn, hlt⟩
    refine ⟨⟨ds, ?_, hds, htext, hn⟩, hlt⟩
    rintro rfl
    exact hne htext
  · rintro ⟨⟨ds, hne, hds, htext, hn⟩, hlt⟩
    refine ⟨?_, ds, hds, htext, hn, hlt⟩
    rw [htext]
    exact mt List.map_eq_nil_iff.1 hne

/-- **Exactly signs and digits are read.** -/
theorem count?_eq_some_iff {n : Nat} {cs : List Char} :
    count? cs = some n ↔
      ∃ (sign : List Char) (digits : String), cs = sign ++ digits.toList ∧
        (sign = [] ∨ sign = ['+']) ∧ Spells digits n ∧ n < countBound := by
  simp only [← countFrom_zero_iff]
  constructor
  · intro h
    unfold count? at h
    split at h
    · cases h
    · next c cs =>
      split at h
      · next hplus =>
        split at h
        · cases h
        · next d ds =>
          refine ⟨['+'], String.ofList (d :: ds), ?_, .inr rfl, ?_⟩
          · rw [hplus, String.toList_ofList]
            rfl
          · rw [String.toList_ofList]
            exact ⟨List.cons_ne_nil d ds, h⟩
      · refine ⟨[], String.ofList (c :: cs), ?_, .inl rfl, ?_⟩
        · rw [String.toList_ofList]
          rfl
        · rw [String.toList_ofList]
          exact ⟨List.cons_ne_nil c cs, h⟩
  · rintro ⟨sign, digits, rfl, rfl | rfl, hne, hread⟩
    · obtain ⟨c, cs, hcs⟩ := List.exists_cons_of_ne_nil hne
      rw [List.nil_append, hcs]
      rw [hcs] at hread
      have hplus : c ≠ '+' := by
        rintro rfl
        cases hread
      exact (if_neg hplus).trans hread
    · obtain ⟨c, cs, hcs⟩ := List.exists_cons_of_ne_nil hne
      rw [hcs] at hread ⊢
      exact hread

/-! ## White space around a text -/

/-- What is trimmed off is white space. -/
theorem trimBlanks_parts (cs : List Char) :
    ∃ before after, cs = before ++ trimBlanks cs ++ after ∧
      (∀ c ∈ before, isBlank c = true) ∧ ∀ c ∈ after, isBlank c = true := by
  have hfront := List.takeWhile_append_dropWhile (p := isBlank) (l := cs)
  have hback := List.takeWhile_append_dropWhile (p := isBlank) (l := (cs.dropWhile isBlank).reverse)
  refine ⟨cs.takeWhile isBlank, ((cs.dropWhile isBlank).reverse.takeWhile isBlank).reverse,
    ?_, fun c hc => List.mem_takeWhile_imp hc, fun c hc => ?_⟩
  · rw [trimBlanks, List.append_assoc, ← List.reverse_append, hback, List.reverse_reverse, hfront]
  · exact List.mem_takeWhile_imp (List.mem_reverse.1 hc)

theorem dropWhile_isBlank {cs : List Char} (hne : cs ≠ []) (h : ∀ c ∈ cs, isBlank c = false)
    (rest : List Char) : (cs ++ rest).dropWhile isBlank = cs ++ rest := by
  cases cs with
  | nil => exact absurd rfl hne
  | cons c cs => exact List.dropWhile_cons_of_neg (by simp [h c List.mem_cons_self])

/-- White space around a text is trimmed off, and nothing else if the text has none. -/
theorem trimBlanks_around {before cs after : List Char} (hbefore : ∀ c ∈ before, isBlank c = true)
    (hcs : ∀ c ∈ cs, isBlank c = false) (hne : cs ≠ []) (hafter : ∀ c ∈ after, isBlank c = true) :
    trimBlanks (before ++ cs ++ after) = cs := by
  have hfront : (before ++ (cs ++ after)).dropWhile isBlank = cs ++ after := by
    rw [List.dropWhile_append_of_pos hbefore, dropWhile_isBlank hne hcs]
  have hback : (after.reverse ++ cs.reverse).dropWhile isBlank = cs.reverse := by
    have hkept := dropWhile_isBlank (mt List.reverse_eq_nil_iff.1 hne)
      (fun c hc => hcs c (List.mem_reverse.1 hc)) []
    rw [List.append_nil] at hkept
    rw [List.dropWhile_append_of_pos fun c hc => hafter c (List.mem_reverse.1 hc), hkept]
  rw [trimBlanks, List.append_assoc, hfront, List.reverse_append, hback, List.reverse_reverse]

/-! ## Counts -/

/-- A text that is a count, with white space around it. Zeros may stand in front. -/
def IsCount (text : String) (n : Nat) : Prop :=
  n ≤ Nat.pow 2 64 - 1 ∧ ∃ (before sign after : List Char) (digits : String),
    text.toList = before ++ (sign ++ digits.toList) ++ after ∧
      (∀ c ∈ before, isBlank c = true) ∧ (∀ c ∈ after, isBlank c = true) ∧
      (sign = [] ∨ sign = ['+']) ∧ Spells digits n

theorem lt_countBound_iff {n : Nat} : n < countBound ↔ n ≤ Nat.pow 2 64 - 1 := by
  have hpos : 0 < countBound := by decide
  exact Nat.lt_iff_le_pred hpos

/-- A text is read, white space aside, exactly if it is a count. -/
theorem count?_trimBlanks_iff {text : String} {n : Nat} :
    count? (trimBlanks text.toList) = some n ↔ IsCount text n := by
  rw [count?_eq_some_iff, IsCount]
  constructor
  · rintro ⟨sign, digits, htrim, hsign, hspells, hlt⟩
    obtain ⟨before, after, htext, hbefore, hafter⟩ := trimBlanks_parts text.toList
    exact ⟨lt_countBound_iff.1 hlt, before, sign, after, digits, htrim ▸ htext, hbefore, hafter,
      hsign, hspells⟩
  · rintro ⟨hle, before, sign, after, digits, htext, hbefore, hafter, hsign, hspells⟩
    refine ⟨sign, digits, ?_, hsign, hspells, lt_countBound_iff.2 hle⟩
    obtain ⟨ds, hne, hds, hdigits, -⟩ := hspells
    have hblank : ∀ c ∈ sign ++ digits.toList, isBlank c = false := by
      intro c hc
      rcases List.mem_append.1 hc with hc | hc
      · rcases hsign with rfl | rfl
        · cases hc
        · rw [List.mem_singleton.1 hc]
          decide
      · rw [hdigits] at hc
        obtain ⟨d, hd, rfl⟩ := List.mem_map.1 hc
        exact isBlank_digitChar d (hds d hd)
    rw [htext]
    refine trimBlanks_around hbefore hblank ?_ hafter
    rw [hdigits]
    exact List.append_ne_nil_of_right_ne_nil _ (mt List.map_eq_nil_iff.1 hne)

/-! ## The bounds of a window -/

/-- What the parameters of a request say about a bound: nothing without the parameter, else the
count that it is. -/
inductive BoundIs (q : Query) (b : WindowBound) : Option Nat → Prop where
  | unset (h : q.get? b.name = none) : BoundIs q b none
  | count {text : String} {n : Nat} (h : q.get? b.name = some text) (hn : IsCount text n) :
    BoundIs q b (some n)

/-- The parameter for a bound is there, but is no count. -/
def BadBound (q : Query) (b : WindowBound) : Prop :=
  ∃ text, q.get? b.name = some text ∧ ∀ n, ¬ IsCount text n

variable {q : Query} {b : WindowBound}

theorem bound_eq_ok_iff {n : Option Nat} : Window.bound q b = .ok n ↔ BoundIs q b n := by
  rw [Window.bound]
  constructor
  · intro h
    split at h
    · next hget =>
      cases h
      exact .unset hget
    · next text hget =>
      split at h
      · next m hm =>
        cases h
        exact .count hget (count?_trimBlanks_iff.1 hm)
      · cases h
  · rintro (hget | ⟨hget, hn⟩)
    · simp only [hget]
    · simp only [hget, count?_trimBlanks_iff.2 hn]

theorem bound_eq_error_iff {b' : WindowBound} :
    Window.bound q b = .error b' ↔ b' = b ∧ BadBound q b := by
  rw [Window.bound]
  constructor
  · intro h
    split at h
    · cases h
    · next text hget =>
      split at h
      · cases h
      · next hnone =>
        cases h
        refine ⟨rfl, text, hget, fun n hn => ?_⟩
        rw [count?_trimBlanks_iff.2 hn] at hnone
        cases hnone
  · rintro ⟨rfl, text, hget, hbad⟩
    have hnone : count? (trimBlanks text.toList) = none :=
      Option.eq_none_iff_forall_ne_some.2 fun n hn => hbad n (count?_trimBlanks_iff.1 hn)
    simp only [hget, hnone]

/-- A bound is read exactly if it is not bad. -/
theorem exists_boundIs_iff : (∃ n, BoundIs q b n) ↔ ¬ BadBound q b := by
  cases hread : Window.bound q b with
  | ok n =>
    refine iff_of_true ⟨n, bound_eq_ok_iff.1 hread⟩ fun hbad => ?_
    cases hread.symm.trans (bound_eq_error_iff.2 ⟨rfl, hbad⟩)
  | error b' =>
    refine iff_of_false ?_ (not_not_intro (bound_eq_error_iff.1 hread).2)
    rintro ⟨n, hn⟩
    cases hread.symm.trans (bound_eq_ok_iff.2 hn)

theorem ofQuery_eq_ok_iff {w : Window} :
    Window.ofQuery q = .ok w ↔ BoundIs q .offset w.offset ∧ BoundIs q .limit w.limit := by
  constructor
  · intro h
    obtain ⟨offset, hoffset, h⟩ := bind_eq_ok_iff.1 h
    obtain ⟨limit, hlimit, h⟩ := bind_eq_ok_iff.1 h
    cases h
    exact ⟨bound_eq_ok_iff.1 hoffset, bound_eq_ok_iff.1 hlimit⟩
  · rintro ⟨hoffset, hlimit⟩
    exact bind_eq_ok_iff.2 ⟨_, bound_eq_ok_iff.2 hoffset,
      bind_eq_ok_iff.2 ⟨_, bound_eq_ok_iff.2 hlimit, rfl⟩⟩

/-- The limit is to blame only if the offset is not. -/
theorem ofQuery_eq_error_iff :
    Window.ofQuery q = .error b ↔ BadBound q b ∧ (b = .limit → ¬ BadBound q .offset) := by
  constructor
  · intro h
    rcases bind_eq_error_iff.1 h with hoffset | ⟨offset, hoffset, h⟩
    · obtain ⟨rfl, hbad⟩ := bound_eq_error_iff.1 hoffset
      exact ⟨hbad, fun hlimit => by cases hlimit⟩
    · rcases bind_eq_error_iff.1 h with hlimit | ⟨limit, -, h⟩
      · obtain ⟨rfl, hbad⟩ := bound_eq_error_iff.1 hlimit
        exact ⟨hbad, fun _ => exists_boundIs_iff.1 ⟨offset, bound_eq_ok_iff.1 hoffset⟩⟩
      · cases h
  · rintro ⟨hbad, hfirst⟩
    cases b with
    | offset => exact bind_eq_error_iff.2 (.inl (bound_eq_error_iff.2 ⟨rfl, hbad⟩))
    | limit =>
      obtain ⟨offset, hoffset⟩ := exists_boundIs_iff.2 (hfirst rfl)
      exact bind_eq_error_iff.2 (.inr ⟨offset, bound_eq_ok_iff.2 hoffset,
        bind_eq_error_iff.2 (.inl (bound_eq_error_iff.2 ⟨rfl, hbad⟩))⟩)

/-! ## The main statement -/

namespace Endpoint

/-- **Windows are read exactly.** The window of a request has the bounds that its parameters say,
each the count that the parameter is, or unset without the parameter. A request with a parameter
that is no count is refused as invalid, in words that name the parameter; the offset is looked at
first. No other parameter makes a difference. -/
theorem window_exact (q : Query) :
    (∀ w, window q = .ok w ↔ BoundIs q .offset w.offset ∧ BoundIs q .limit w.limit) ∧
    (∀ e, window q = .error e ↔
      ∃ b : WindowBound, BadBound q b ∧ (b = .limit → ¬ BadBound q .offset) ∧
        e = .invalidRequest ("Parameter " ++ b.name ++ " should be a positive integer number")) ∧
    ∀ q' : Query, (∀ b : WindowBound, q'.get? b.name = q.get? b.name) → window q' = window q := by
  refine ⟨fun w => ?_, fun e => ?_, fun q' h => ?_⟩
  · rw [window, mapError_eq_ok_iff, ofQuery_eq_ok_iff]
  · rw [window, mapError_eq_error_iff]
    simp only [ofQuery_eq_error_iff, and_assoc]
    rfl
  · have hbound : ∀ b, Window.bound q' b = Window.bound q b := by
      intro b
      rw [Window.bound, Window.bound, h b]
    rw [window, window, Window.ofQuery, Window.ofQuery, hbound, hbound]

/-- Parameters with zeros, a sign and white space that is not ASCII, and one that is no bound. -/
def paddedQuery : Query :=
  NameMap.ofList [("offset", "\u00A0+007\t"), ("limit", "18446744073709551615"), ("page", "1.5")]

/-- `paddedQuery` asks for all items from the eighth on, and so it does without its third
parameter. -/
theorem window_exact_padded :
    window paddedQuery = .ok ⟨some 7, some (Nat.pow 2 64 - 1)⟩ ∧
      BoundIs paddedQuery .offset (some 7) ∧
      BoundIs paddedQuery .limit (some (Nat.pow 2 64 - 1)) ∧
      (∀ b : WindowBound, (paddedQuery.erase "page").get? b.name = paddedQuery.get? b.name) ∧
      window (paddedQuery.erase "page") = window paddedQuery := by
  have hread : window paddedQuery = .ok ⟨some 7, some (Nat.pow 2 64 - 1)⟩ := by decide
  have hsame : ∀ b : WindowBound,
      (paddedQuery.erase "page").get? b.name = paddedQuery.get? b.name := by
    intro b
    cases b <;> decide
  obtain ⟨hoffset, hlimit⟩ := ((window_exact paddedQuery).1 _).1 hread
  exact ⟨hread, hoffset, hlimit, hsame, (window_exact paddedQuery).2.2 _ hsame⟩

end Endpoint

/-! ## Parameters of a page -/

/-- The parameters ask for a page: where it starts and how many items it has at most, each in
decimal digits. There may be other parameters. -/
structure AsksPage (q : Query) (offset limit : Nat) : Prop where
  offset : ∃ text, q.get? WindowBound.offset.name = some text ∧ Spells text offset
  limit : ∃ text, q.get? WindowBound.limit.name = some text ∧ Spells text limit

/-- Digits alone are a count of the number that they spell. -/
theorem isCount_of_spells {text : String} {n : Nat} (h : Spells text n) (hn : n < countBound) :
    IsCount text n := by
  refine ⟨lt_countBound_iff.1 hn, [], [], [], text, ?_, List.forall_mem_nil _,
    List.forall_mem_nil _, .inl rfl, h⟩
  simp

/-- Parameters that ask for a page are read as the window of the page. -/
theorem Endpoint.window_of_asksPage {q : Query} {offset limit : Nat} (h : AsksPage q offset limit)
    (hoffset : offset < countBound) (hlimit : limit < countBound) :
    Endpoint.window q = .ok ⟨some offset, some limit⟩ := by
  obtain ⟨⟨text, hget, htext⟩, ⟨text', hget', htext'⟩⟩ := h
  rw [Endpoint.window, mapError_eq_ok_iff, ofQuery_eq_ok_iff]
  exact ⟨.count hget (isCount_of_spells htext hoffset),
    .count hget' (isCount_of_spells htext' hlimit)⟩

/-- The parameters for a page, in plain decimal digits. -/
def pageQuery (offset limit : Nat) : Query :=
  ((∅ : Query).insert WindowBound.offset.name (decimal offset)).insert WindowBound.limit.name
    (decimal limit)

theorem asksPage_pageQuery (offset limit : Nat) : AsksPage (pageQuery offset limit) offset limit := by
  constructor
  · refine ⟨decimal offset, ?_, spells_decimal offset⟩
    rw [pageQuery, NameMap.get?_insert, if_neg (by decide), NameMap.get?_insert, if_pos rfl]
  · refine ⟨decimal limit, ?_, spells_decimal limit⟩
    rw [pageQuery, NameMap.get?_insert, if_pos rfl]

end PropertyGraph
