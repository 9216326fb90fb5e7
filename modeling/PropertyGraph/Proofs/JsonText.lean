import PropertyGraph.Proofs.JsonLexemes

/-!
# Values read back

The text of a value is read as this value. Three things may be lost on the way, and a value
that was read before has only one of them in it: brackets deeper than a reader follows, members
out of order, and numbers that are no integers.

- `Json.Reads`, `Json.ReadsItems`, `Json.ReadsMembers`: what the readers find and leave, each
  with the equivalence that says how.
- `Json.Within`: the values that a reader can find with so many brackets left to open.
- `Json.within_of_reads`: **a reader finds no others**. `Json.read_eq_ok_iff`: whole texts.
- `Json.FloatFree`: all numbers are integers.
- `Json.readsBack_value`: **what has both properties is read back**, inside of any other text.
- `Json.read_text`: a whole text.
-/

namespace PropertyGraph

open Utf8 (encodeChars encodeChars_cons encodeChars_append)

namespace Json

/-! ## What readers find -/

/-- A reader finds a value at the front of `s` and leaves `rest`. -/
def Reads (expected : Expected) (depth : Nat) (s : Bytes) (v : Json) (rest : Bytes) : Prop :=
  ∃ r, readValue expected depth s = .ok (v, r) ∧ r.1 = rest

/-- A reader that holds the items of `acc` finds all the others of a list. -/
def ReadsItems (expected : Expected) (depth : Nat) (first : Bool) (acc : List Json) (s : Bytes)
    (items : List Json) (rest : Bytes) : Prop :=
  ∃ r, readItems expected depth first acc s = .ok (items, r) ∧ r.1 = rest

/-- A reader that holds the members of `acc` finds all the others of an object. -/
def ReadsMembers (depth : Nat) (first : Bool) (acc : Bindings Json) (s : Bytes)
    (members : Bindings Json) (rest : Bytes) : Prop :=
  ∃ r, readMembers depth first acc s = .ok (members, r) ∧ r.1 = rest

variable {expected : Expected} {depth : Nat} {first : Bool} {s rest : Bytes} {v : Json}
  {items acc : List Json} {members accM : Bindings Json}

/-- Nothing is read from blanks. -/
theorem not_reads_of_blank (hs : skipBlanks s = []) : ¬ Reads expected depth s v rest := by
  rintro ⟨r, h, -⟩
  rw [readValue] at h
  split at h
  · cases h
  · next hs' => cases hs.symm.trans hs'

/-- A bracket opens a list, if one is expected and a bracket is left to open. -/
theorem reads_list_iff {t : Bytes} (hs : skipBlanks s = 0x5B :: t) :
    Reads expected depth s v rest ↔ expected.allowsList = true ∧
      ∃ d items, depth = d + 1 ∧ v = .array items ∧
        ReadsItems expected.items d true [] t items rest := by
  rw [Reads, readValue]
  split
  · next hnil => cases hs.symm.trans hnil
  · next hs' =>
    cases hs.symm.trans hs'
    rw [if_pos rfl]
    constructor
    · rintro ⟨r, h, rfl⟩
      split at h
      · next hallows =>
        split at h
        · cases h
        · next d =>
          split at h
          · cases h
          · next items r' hitems =>
            cases h
            exact ⟨hallows, d, items, rfl, rfl, r', hitems, rfl⟩
      · cases h
    · rintro ⟨hallows, d, items, rfl, rfl, r, hitems, rfl⟩
      rw [if_pos hallows]
      simp only [hitems]
      exact ⟨_, rfl, rfl⟩

/-- A brace opens an object, if one is expected and a brace is left to open. -/
theorem reads_object_iff {t : Bytes} (hs : skipBlanks s = 0x7B :: t) :
    Reads expected depth s v rest ↔ expected.allowsObject = true ∧
      ∃ d members, depth = d + 1 ∧ v = ofBindings members ∧
        ReadsMembers d true [] t members rest := by
  rw [Reads, readValue]
  split
  · next hnil => cases hs.symm.trans hnil
  · next hs' =>
    cases hs.symm.trans hs'
    rw [if_neg (by decide), if_pos rfl]
    constructor
    · rintro ⟨r, h, rfl⟩
      split at h
      · next hallows =>
        split at h
        · cases h
        · next d =>
          split at h
          · cases h
          · next members r' hmembers =>
            cases h
            exact ⟨hallows, d, members, rfl, rfl, r', hmembers, rfl⟩
      · cases h
    · rintro ⟨hallows, d, members, rfl, rfl, r, hmembers, rfl⟩
      rw [if_pos hallows]
      simp only [hmembers]
      exact ⟨_, rfl, rfl⟩

/-- All other values are scalars, and only where any value is expected. -/
theorem reads_scalar_iff {b : UInt8} {t : Bytes} (hs : skipBlanks s = b :: t) (hlist : b ≠ 0x5B)
    (hobject : b ≠ 0x7B) :
    Reads expected depth s v rest ↔ expected = .value ∧ readScalar b t = .ok (v, rest) := by
  rw [Reads, readValue]
  split
  · next hnil => cases hs.symm.trans hnil
  · next hs' =>
    cases hs.symm.trans hs'
    rw [if_neg hlist, if_neg hobject]
    constructor
    · rintro ⟨r, h, rfl⟩
      split at h
      · cases h
      · next hscalar =>
        split at h
        · cases h
        · next haccept =>
          cases h
          obtain ⟨he, rfl, rfl⟩ := acceptScalar_eq haccept
          exact ⟨he, hscalar⟩
    · rintro ⟨rfl, hscalar⟩
      have haccept : acceptScalar .value v rest = .ok (v, rest) := if_pos rfl
      split
      · next heq => cases hscalar.symm.trans heq
      · next heq =>
        cases hscalar.symm.trans heq
        split
        · next heq' => cases haccept.symm.trans heq'
        · next heq' =>
          cases haccept.symm.trans heq'
          exact ⟨_, rfl, rfl⟩

theorem reads_iff :
    Reads expected depth s v rest ↔
      ∃ b t, skipBlanks s = b :: t ∧
        (b = 0x5B ∧ expected.allowsList = true ∧ (∃ d items, depth = d + 1 ∧ v = .array items ∧
            ReadsItems expected.items d true [] t items rest) ∨
          b = 0x7B ∧ expected.allowsObject = true ∧ (∃ d members, depth = d + 1 ∧
            v = ofBindings members ∧ ReadsMembers d true [] t members rest) ∨
          b ≠ 0x5B ∧ b ≠ 0x7B ∧ expected = .value ∧ readScalar b t = .ok (v, rest)) := by
  constructor
  · intro h
    rcases hs : skipBlanks s with _ | ⟨b, t⟩
    · exact absurd h (not_reads_of_blank hs)
    refine ⟨b, t, rfl, ?_⟩
    by_cases hlist : b = 0x5B
    · subst hlist
      exact .inl ⟨rfl, (reads_list_iff hs).1 h⟩
    by_cases hobject : b = 0x7B
    · subst hobject
      exact .inr (.inl ⟨rfl, (reads_object_iff hs).1 h⟩)
    · exact .inr (.inr ⟨hlist, hobject, (reads_scalar_iff hs hlist hobject).1 h⟩)
  · rintro ⟨b, t, hs, ⟨rfl, h⟩ | ⟨rfl, h⟩ | ⟨hlist, hobject, h⟩⟩
    · exact (reads_list_iff hs).2 h
    · exact (reads_object_iff hs).2 h
    · exact (reads_scalar_iff hs hlist hobject).2 h

theorem readsItems_iff :
    ReadsItems expected depth first acc s items rest ↔
      nextItem first s = .ok (.stop rest) ∧ items = acc.reverse ∨
        ∃ start v mid, nextItem first s = .ok (.entry start) ∧
          Reads expected depth start v mid ∧
          ReadsItems expected depth false (v :: acc) mid items rest := by
  constructor
  · rintro ⟨r, h, rfl⟩
    rw [readItems] at h
    split at h
    · cases h
    · next hn =>
      cases h
      exact .inl ⟨hn, rfl⟩
    · next start hn =>
      split at h
      · cases h
      · next v mid hv =>
        split at h
        · cases h
        · next items r' hitems =>
          cases h
          exact .inr ⟨start, v, mid, hn, ⟨mid, hv, rfl⟩, r', hitems, rfl⟩
  · intro h
    rw [ReadsItems, readItems]
    rcases h with ⟨hn, rfl⟩ | ⟨start, v, mid, hn, ⟨r, hv, rfl⟩, r', hitems, rfl⟩
    · split
      · next heq => cases hn.symm.trans heq
      · next heq =>
        cases hn.symm.trans heq
        exact ⟨_, rfl, rfl⟩
      · next heq => cases hn.symm.trans heq
    · split
      · next heq => cases hn.symm.trans heq
      · next heq => cases hn.symm.trans heq
      · next heq =>
        cases hn.symm.trans heq
        simp only [hv, hitems]
        exact ⟨_, rfl, rfl⟩

theorem readsMembers_iff :
    ReadsMembers depth first accM s members rest ↔
      nextMember first s = .ok (.stop rest) ∧ members = accM.reverse ∨
        ∃ start name t v mid, nextMember first s = .ok (.entry start) ∧
          readName start = .ok (name, t) ∧ Reads .value depth t v mid ∧
          ReadsMembers depth false ((name, v) :: accM) mid members rest := by
  constructor
  · rintro ⟨r, h, rfl⟩
    rw [readMembers] at h
    split at h
    · cases h
    · next hn =>
      cases h
      exact .inl ⟨hn, rfl⟩
    · next start hn =>
      split at h
      · cases h
      · next name t hname =>
        split at h
        · cases h
        · next v mid hv =>
          split at h
          · cases h
          · next members r' hmembers =>
            cases h
            exact .inr ⟨start, name, t, v, mid, hn, hname, ⟨mid, hv, rfl⟩, r', hmembers, rfl⟩
  · intro h
    rw [ReadsMembers, readMembers]
    rcases h with ⟨hn, rfl⟩ | ⟨start, name, t, v, mid, hn, hname, ⟨r, hv, rfl⟩, r', hmembers, rfl⟩
    · split
      · next heq => cases hn.symm.trans heq
      · next heq =>
        cases hn.symm.trans heq
        exact ⟨_, rfl, rfl⟩
      · next heq => cases hn.symm.trans heq
    · split
      · next heq => cases hn.symm.trans heq
      · next heq => cases hn.symm.trans heq
      · next heq =>
        cases hn.symm.trans heq
        split
        · next heq' => cases hname.symm.trans heq'
        · next heq' =>
          cases hname.symm.trans heq'
          simp only [hv, hmembers]
          exact ⟨_, rfl, rfl⟩

/-! ## What a reader can find -/

/-- The values that a text can hold in which so many brackets more may be open at once. -/
inductive Within : Nat → Json → Prop where
  | null {depth : Nat} : Within depth .null
  | bool {depth : Nat} (b : Bool) : Within depth (.bool b)
  | number {depth : Nat} {n : Number} (h : n.Fits) : Within depth (.number n)
  | string {depth : Nat} (t : String) : Within depth (.string t)
  | array {depth : Nat} {items : List Json} (h : ∀ v ∈ items, Within depth v) :
      Within (depth + 1) (.array items)
  | object {depth : Nat} {members : Bindings Json}
      (sorted : members.Pairwise fun a b => a.1 < b.1) (h : ∀ m ∈ members, Within depth m.2) :
      Within (depth + 1) (.object members)

/-- Where more brackets may be open, more values can be found. -/
theorem Within.mono {d e : Nat} {v : Json} (h : Within d v) (hde : d ≤ e) : Within e v := by
  induction h generalizing e with
  | null => exact .null
  | bool b => exact .bool b
  | number hn => exact .number hn
  | string t => exact .string t
  | array _ ih =>
    obtain ⟨e, rfl⟩ := Nat.exists_eq_add_of_lt hde
    exact .array fun v hv => ih v hv (by omega)
  | object hsorted _ ih =>
    obtain ⟨e, rfl⟩ := Nat.exists_eq_add_of_lt hde
    exact .object hsorted fun m hm => ih m hm (by omega)

section Numbers

variable {negative : Bool} {significand dropped : Nat} {e : Int} {n : Number}

theorem fits_integer (h : significand < Nat.pow 2 64) : (integer negative significand).Fits := by
  have hpow : Nat.pow 2 64 = 2 * Nat.pow 2 63 := rfl
  rw [integer]
  split
  · split
    · trivial
    · show -(Nat.pow 2 63 : Int) ≤ -significand ∧ -(significand : Int) < (Nat.pow 2 64 : Int)
      omega
  · show -(Nat.pow 2 63 : Int) ≤ significand ∧ (significand : Int) < (Nat.pow 2 64 : Int)
    omega

theorem fits_of_float (h : float negative significand e s = .ok (n, rest)) : n.Fits := by
  unfold float at h
  split at h <;> cases h
  trivial

theorem fits_of_readExponentValue {down : Bool}
    (h : readExponentValue negative significand e down s = .ok (n, rest)) : n.Fits := by
  unfold readExponentValue at h
  split at h
  · cases h
  · split at h
    · split at h
      · exact fits_of_float h
      · split at h <;> cases h
        trivial
    · cases h

theorem fits_of_readExponent (h : readExponent negative significand e s = .ok (n, rest)) :
    n.Fits := by
  unfold readExponent at h
  split at h
  · exact fits_of_float h
  · split at h
    · exact fits_of_readExponentValue h
    · exact fits_of_float h

theorem fits_of_readFraction (h : readFraction negative significand dropped s = .ok (n, rest)) :
    n.Fits := by
  unfold readFraction at h
  split at h
  · split at h <;> cases h
  · exact fits_of_readExponent h

theorem fits_of_readTail (hlt : significand < Nat.pow 2 64)
    (h : readTail negative significand dropped s = .ok (n, rest)) : n.Fits := by
  unfold readTail at h
  split at h
  · split at h
    · cases h
      exact fits_integer hlt
    · exact fits_of_float h
  · split at h
    · exact fits_of_readFraction h
    · split at h
      · exact fits_of_readExponent h
      · split at h
        · cases h
          exact fits_integer hlt
        · exact fits_of_float h

/-- The significand stays below `2 ^ 64`. -/
theorem absorb_lt {ds : List Nat} (h : significand < Nat.pow 2 64) :
    (absorb significand ds).1 < Nat.pow 2 64 := by
  induction ds generalizing significand with
  | nil => exact h
  | cons d ds ih =>
    rw [absorb]
    split
    · next hlt => exact ih hlt
    · exact h

theorem fits_of_readNumber (h : readNumber negative s = .ok (n, rest)) : n.Fits := by
  have hzero : 0 < Nat.pow 2 64 := by decide
  unfold readNumber at h
  split at h
  · cases h
  · split at h
    · split at h
      · exact fits_of_readTail hzero h
      · split at h
        · cases h
        · exact fits_of_readTail hzero h
    · split at h
      · exact fits_of_readTail (absorb_lt hzero) h
      · cases h

end Numbers

/-- A scalar can be found anywhere. -/
theorem within_of_readScalar {b : UInt8} {t : Bytes} (h : readScalar b t = .ok (v, rest)) :
    Within depth v := by
  unfold readScalar at h
  split at h
  · obtain ⟨⟨t, r⟩, -, heq⟩ := map_eq_ok h
    cases heq
    exact .string t
  split at h
  · obtain ⟨⟨n, r⟩, hn, heq⟩ := map_eq_ok h
    cases heq
    exact .number (fits_of_readNumber hn)
  split at h
  · obtain ⟨⟨n, r⟩, hn, heq⟩ := map_eq_ok h
    cases heq
    exact .number (fits_of_readNumber hn)
  split at h
  · obtain ⟨r, -, heq⟩ := map_eq_ok h
    cases heq
    exact .null
  split at h
  · obtain ⟨r, -, heq⟩ := map_eq_ok h
    cases heq
    exact .bool true
  split at h
  · obtain ⟨r, -, heq⟩ := map_eq_ok h
    cases heq
    exact .bool false
  · cases h

theorem Reads.length_lt (h : Reads expected depth s v rest) : rest.length < s.length := by
  obtain ⟨r, -, rfl⟩ := h
  exact r.2

/-- An item takes bytes from a list. -/
theorem Reads.length_lt_of_nextItem {start : Bytes} (h : Reads expected depth start v rest)
    (hn : nextItem first s = .ok (.entry start)) : rest.length < s.length :=
  Nat.lt_of_lt_of_le h.length_lt (nextItem_within hn)

/-- If values in so many bytes can be found, the items of a list in as many bytes can. -/
theorem within_of_readsItems {n : Nat}
    (hvalue : ∀ s v rest, s.length ≤ n → Reads expected depth s v rest → Within depth v)
    (hs : s.length ≤ n) (hacc : ∀ v ∈ acc, Within depth v)
    (h : ReadsItems expected depth first acc s items rest) : ∀ v ∈ items, Within depth v := by
  induction hlen : s.length using Nat.strongRecOn generalizing s first acc with
  | ind k ih =>
    subst hlen
    rcases readsItems_iff.1 h with ⟨-, rfl⟩ | ⟨start, v, mid, hn, hv, hitems⟩
    · exact fun v hv => hacc v (List.mem_reverse.1 hv)
    · have hmid : mid.length < s.length := hv.length_lt_of_nextItem hn
      have hfound : Within depth v := hvalue start v mid (Nat.le_trans (nextItem_within hn) hs) hv
      exact ih mid.length hmid (Nat.le_trans (Nat.le_of_lt hmid) hs)
        (List.forall_mem_cons.2 ⟨hfound, hacc⟩) hitems rfl

/-- If values in so many bytes can be found, the members of an object in as many bytes can. -/
theorem within_of_readsMembers {n : Nat}
    (hvalue : ∀ s v rest, s.length ≤ n → Reads .value depth s v rest → Within depth v)
    (hs : s.length ≤ n) (hacc : ∀ m ∈ accM, Within depth m.2)
    (h : ReadsMembers depth first accM s members rest) : ∀ m ∈ members, Within depth m.2 := by
  induction hlen : s.length using Nat.strongRecOn generalizing s first accM with
  | ind k ih =>
    subst hlen
    rcases readsMembers_iff.1 h with ⟨-, rfl⟩ | ⟨start, name, t, v, mid, hn, hname, hv, hmembers⟩
    · exact fun m hm => hacc m (List.mem_reverse.1 hm)
    · have hstart : start.length ≤ s.length := nextMember_within hn
      have ht : t.length < s.length := Nat.lt_of_lt_of_le (readName_length hname) hstart
      have hmid : mid.length < s.length := Nat.lt_trans hv.length_lt ht
      have hfound : Within depth v := hvalue t v mid (Nat.le_trans (Nat.le_of_lt ht) hs) hv
      exact ih mid.length hmid (Nat.le_trans (Nat.le_of_lt hmid) hs)
        (List.forall_mem_cons.2 ⟨hfound, hacc⟩) hmembers rfl

/-- **A reader finds no others**: what it finds can be found. -/
theorem within_of_reads (h : Reads expected depth s v rest) : Within depth v := by
  induction hlen : s.length using Nat.strongRecOn generalizing expected depth s v rest with
  | ind k ih =>
    subst hlen
    obtain ⟨b, t, hs, h⟩ := reads_iff.1 h
    have ht : t.length < s.length := skipBlanks_cons_length hs
    rcases h with ⟨-, -, d, items, rfl, rfl, hitems⟩ | ⟨-, -, d, members, rfl, rfl, hmembers⟩ |
        ⟨-, -, -, hscalar⟩
    · have hall := within_of_readsItems
        (fun u w r hu hw => ih u.length (Nat.lt_of_le_of_lt hu ht) hw rfl)
        (Nat.le_refl t.length) (List.forall_mem_nil _) hitems
      exact .array hall
    · have hall := within_of_readsMembers
        (fun u w r hu hw => ih u.length (Nat.lt_of_le_of_lt hu ht) hw rfl)
        (Nat.le_refl t.length) (List.forall_mem_nil _) hmembers
      exact .object (NameMap.ofList members).sorted fun m hm =>
        hall m (NameMap.mem_of_mem_ofList hm)
    · exact within_of_readScalar hscalar

/-- A whole text holds a value, found with all brackets left to open, and only blanks after it. -/
theorem read_eq_ok_iff :
    read expected s = .ok v ↔ ∃ rest, Reads expected depthLimit s v rest ∧ skipBlanks rest = [] := by
  unfold read
  constructor
  · intro h
    split at h
    · cases h
    · next w r hread =>
      split at h
      · next hblank =>
        cases h
        exact ⟨r, ⟨r, hread, rfl⟩, hblank⟩
      · cases h
  · rintro ⟨rest, ⟨r, hread, rfl⟩, hblank⟩
    simp only [hread, hblank]

theorem within_of_read (h : read expected s = .ok v) : Within depthLimit v := by
  obtain ⟨rest, hread, -⟩ := read_eq_ok_iff.1 h
  exact within_of_reads hread

/-! ## What is read back -/

/-- A value with no numbers but integers. -/
inductive FloatFree : Json → Prop where
  | null : FloatFree .null
  | bool (b : Bool) : FloatFree (.bool b)
  | int (i : Int) : FloatFree (.number (.int i))
  | string (t : String) : FloatFree (.string t)
  | array {items : List Json} (h : ∀ v ∈ items, FloatFree v) : FloatFree (.array items)
  | object {members : Bindings Json} (h : ∀ m ∈ members, FloatFree m.2) :
      FloatFree (.object members)

/-- The text of a value is read as the value, in front of anything that ends a number. It
starts with a byte that a list does not take for a blank or for its end. -/
def ReadsBack (expected : Expected) (depth : Nat) (v : Json) : Prop :=
  ∀ rest, Ends rest → ∃ b t, encodeChars v.chars ++ rest = b :: t ∧
    isSpace b = false ∧ b ≠ 0x5D ∧ Reads expected depth (b :: t) v rest

theorem skipBlanks_of_not_space {b : UInt8} (h : isSpace b = false) (t : Bytes) :
    skipBlanks (b :: t) = b :: t :=
  List.dropWhile_cons_of_neg (by simp [h])

/-- No scalar starts with a blank or a bracket. -/
theorem first_of_readScalar {b : UInt8} {t : Bytes} (h : readScalar b t = .ok (v, rest)) :
    isSpace b = false ∧ b ≠ 0x5B ∧ b ≠ 0x5D ∧ b ≠ 0x7B := by
  have hrefused : ∀ c : UInt8, c ∈ [0x20, 0x0A, 0x09, 0x0D, 0x5B, 0x5D, 0x7B] → b ≠ c := by
    rintro c hc rfl
    simp only [List.mem_cons, List.not_mem_nil, or_false] at hc
    rcases hc with rfl | rfl | rfl | rfl | rfl | rfl | rfl <;> cases h
  refine ⟨?_, hrefused _ (by decide), hrefused _ (by decide), hrefused _ (by decide)⟩
  have h1 := hrefused 0x20 (by decide)
  have h2 := hrefused 0x0A (by decide)
  have h3 := hrefused 0x09 (by decide)
  have h4 := hrefused 0x0D (by decide)
  simp [isSpace, h1, h2, h3, h4]

theorem readsBack_scalar
    (h : ∀ rest, Ends rest →
      ∃ b t, encodeChars v.chars ++ rest = b :: t ∧ readScalar b t = .ok (v, rest)) :
    ReadsBack .value depth v := by
  intro rest hrest
  obtain ⟨b, t, hbytes, hread⟩ := h rest hrest
  obtain ⟨hspace, hopen, hclose, hbrace⟩ := first_of_readScalar hread
  exact ⟨b, t, hbytes, hspace, hclose, reads_iff.2
    ⟨b, t, skipBlanks_of_not_space hspace t, .inr (.inr ⟨hopen, hbrace, rfl, hread⟩)⟩⟩

/-- What a comma or a bracket begins ends a number. -/
theorem ends_cons {b : UInt8} (t : Bytes) (h : b = 0x2C ∨ b = 0x5D ∨ b = 0x7D) :
    Ends (b :: t) := by
  intro c hc
  obtain rfl := Option.some.inj hc
  rcases h with rfl | rfl | rfl <;> decide

/-- The items after the first one are read back, with the bracket at their end. -/
theorem readsItems_itemsChars (h : ∀ v ∈ items, ReadsBack expected depth v) (acc : List Json)
    (rest : Bytes) :
    (∃ b t, encodeChars (itemsChars items) ++ rest = b :: t ∧ (b = 0x2C ∨ b = 0x5D ∨ b = 0x7D)) ∧
      ReadsItems expected depth false acc (encodeChars (itemsChars items) ++ rest)
        (acc.reverse ++ items) rest := by
  induction items generalizing acc with
  | nil =>
    refine ⟨⟨0x5D, rest, rfl, .inr (.inl rfl)⟩, readsItems_iff.2 (.inl ⟨rfl, ?_⟩)⟩
    rw [List.append_nil]
  | cons v vs ih =>
    obtain ⟨hv, hvs⟩ := List.forall_mem_cons.1 h
    obtain ⟨⟨c, u, hc, hcomma⟩, hrest⟩ := ih hvs (v :: acc)
    have hbytes : encodeChars (itemsChars (v :: vs)) ++ rest =
        0x2C :: (encodeChars v.chars ++ (encodeChars (itemsChars vs) ++ rest)) := by
      have hmark : String.utf8EncodeChar ',' = [0x2C] := rfl
      rw [itemsChars, List.cons_append, encodeChars_cons, encodeChars_append, hmark,
        List.append_assoc, List.append_assoc, List.singleton_append]
    rw [hbytes]
    obtain ⟨b, t, hfront, hspace, hclose, hread⟩ := hv _ (hc ▸ ends_cons u hcomma)
    refine ⟨⟨0x2C, _, rfl, .inl rfl⟩, readsItems_iff.2 (.inr ⟨b :: t, v, _, ?_, hread, ?_⟩)⟩
    · rw [hfront]
      show itemAfterComma (b :: t) = .ok (.entry (b :: t))
      rw [itemAfterComma, skipBlanks_of_not_space hspace]
      exact if_neg hclose
    · rw [List.reverse_cons, List.append_assoc, List.singleton_append] at hrest
      exact hrest

theorem readsBack_array (hallows : expected.allowsList = true)
    (h : ∀ v ∈ items, ReadsBack expected.items depth v) :
    ReadsBack expected (depth + 1) (.array items) := by
  intro rest _
  have hopen : String.utf8EncodeChar '[' = [0x5B] := rfl
  cases items with
  | nil =>
    refine ⟨0x5B, 0x5D :: rest, rfl, rfl, by decide, reads_iff.2 ⟨_, _, rfl, .inl ?_⟩⟩
    exact ⟨rfl, hallows, depth, [], rfl, rfl, readsItems_iff.2 (.inl ⟨rfl, rfl⟩)⟩
  | cons v vs =>
    obtain ⟨hv, hvs⟩ := List.forall_mem_cons.1 h
    obtain ⟨⟨c, u, hc, hcomma⟩, hrest⟩ := readsItems_itemsChars hvs [v] rest
    obtain ⟨b, t, hfront, hspace, hclose, hread⟩ := hv _ (hc ▸ ends_cons u hcomma)
    refine ⟨0x5B, b :: t, ?_, rfl, by decide, reads_iff.2 ⟨_, _, rfl, .inl ?_⟩⟩
    · rw [chars, List.cons_append, encodeChars_cons, encodeChars_append, hopen,
        List.append_assoc, List.append_assoc, hfront, List.singleton_append]
    · refine ⟨rfl, hallows, depth, v :: vs, rfl, rfl, readsItems_iff.2 (.inr ⟨b :: t, v, _, ?_,
        hread, hrest⟩)⟩
      rw [nextItem, skipBlanks_of_not_space hspace]
      simp only [if_neg hclose, if_true]

/-- A member is read back: its name, the colon and its value. -/
theorem reads_memberChars (name : String) (hv : ReadsBack .value depth v) (hrest : Ends rest) :
    ∃ start t, encodeChars (memberChars (name, v)) ++ rest = 0x22 :: start ∧
      readName start = .ok (name, t) ∧ Reads .value depth t v rest := by
  obtain ⟨b, t, hfront, -, -, hread⟩ := hv rest hrest
  have hcolon : String.utf8EncodeChar ':' = [0x3A] := rfl
  refine ⟨encodeChars (name.toList.flatMap escape) ++ 0x22 :: 0x3A :: b :: t, b :: t, ?_, ?_,
    hread⟩
  · rw [memberChars, encodeChars_append, List.append_assoc, encodeChars_stringChars,
      encodeChars_cons, hcolon, List.append_assoc, hfront, List.singleton_append]
  · simp only [readName, readString_escape]
    rfl

/-- The members after the first one are read back, with the brace at their end. -/
theorem readsMembers_membersChars (h : ∀ m ∈ members, ReadsBack .value depth m.2)
    (acc : Bindings Json) (rest : Bytes) :
    (∃ b t, encodeChars (membersChars members) ++ rest = b :: t ∧
        (b = 0x2C ∨ b = 0x5D ∨ b = 0x7D)) ∧
      ReadsMembers depth false acc (encodeChars (membersChars members) ++ rest)
        (acc.reverse ++ members) rest := by
  induction members generalizing acc with
  | nil =>
    refine ⟨⟨0x7D, rest, rfl, .inr (.inr rfl)⟩, readsMembers_iff.2 (.inl ⟨rfl, ?_⟩)⟩
    rw [List.append_nil]
  | cons m ms ih =>
    obtain ⟨name, v⟩ := m
    obtain ⟨hv, hms⟩ := List.forall_mem_cons.1 h
    obtain ⟨⟨c, u, hc, hcomma⟩, hrest⟩ := ih hms ((name, v) :: acc)
    obtain ⟨start, t, hfront, hname, hread⟩ :=
      reads_memberChars name hv (hc ▸ ends_cons u hcomma)
    have hmark : String.utf8EncodeChar ',' = [0x2C] := rfl
    have hbytes : encodeChars (membersChars ((name, v) :: ms)) ++ rest =
        0x2C :: 0x22 :: start := by
      rw [membersChars, List.cons_append, encodeChars_cons, encodeChars_append, hmark,
        List.append_assoc, List.append_assoc, hfront, List.singleton_append]
    rw [hbytes]
    refine ⟨⟨0x2C, _, rfl, .inl rfl⟩, readsMembers_iff.2 (.inr ⟨start, name, t, v, _, rfl, hname,
      hread, ?_⟩)⟩
    rw [List.reverse_cons, List.append_assoc, List.singleton_append] at hrest
    exact hrest

/-- Members in order are those of the map that they make up. -/
theorem ofBindings_of_sorted (h : members.Pairwise fun a b => a.1 < b.1) :
    ofBindings members = .object members :=
  congrArg (fun m : NameMap Json => Json.object m.entries)
    (NameMap.ofList_entries ⟨members, h⟩)

theorem readsBack_object (hallows : expected.allowsObject = true)
    (hsorted : members.Pairwise fun a b => a.1 < b.1)
    (h : ∀ m ∈ members, ReadsBack .value depth m.2) :
    ReadsBack expected (depth + 1) (.object members) := by
  intro rest _
  have hopen : String.utf8EncodeChar '\x7b' = [0x7B] := rfl
  have hobject : .object members = ofBindings members := (ofBindings_of_sorted hsorted).symm
  cases members with
  | nil =>
    refine ⟨0x7B, 0x7D :: rest, rfl, rfl, by decide, reads_iff.2 ⟨_, _, rfl, .inr (.inl ?_)⟩⟩
    exact ⟨rfl, hallows, depth, [], rfl, rfl, readsMembers_iff.2 (.inl ⟨rfl, rfl⟩)⟩
  | cons m ms =>
    obtain ⟨name, v⟩ := m
    obtain ⟨hv, hms⟩ := List.forall_mem_cons.1 h
    obtain ⟨⟨c, u, hc, hcomma⟩, hrest⟩ := readsMembers_membersChars hms [(name, v)] rest
    obtain ⟨start, t, hfront, hname, hread⟩ :=
      reads_memberChars name hv (hc ▸ ends_cons u hcomma)
    refine ⟨0x7B, 0x22 :: start, ?_, rfl, by decide, reads_iff.2 ⟨_, _, rfl, .inr (.inl ?_)⟩⟩
    · rw [chars, List.cons_append, encodeChars_cons, encodeChars_append, hopen,
        List.append_assoc, List.append_assoc, hfront, List.singleton_append]
    · exact ⟨rfl, hallows, depth, (name, v) :: ms, rfl, hobject, readsMembers_iff.2
        (.inr ⟨start, name, t, v, _, rfl, hname, hread, hrest⟩)⟩

/-- **A value that a reader can find, and that has no numbers but integers, is read back.** -/
theorem readsBack_value (hwithin : Within depth v) (hfree : FloatFree v) :
    ReadsBack .value depth v := by
  induction hwithin with
  | null => exact readsBack_scalar fun rest _ => ⟨_, _, rfl, rfl⟩
  | bool b =>
    cases b with
    | true => exact readsBack_scalar fun rest _ => ⟨_, _, rfl, rfl⟩
    | false => exact readsBack_scalar fun rest _ => ⟨_, _, rfl, rfl⟩
  | number hn =>
    cases hfree with
    | int i =>
      refine readsBack_scalar fun rest hrest => ?_
      exact readScalar_int hn hrest
  | string t =>
    refine readsBack_scalar fun rest _ => ?_
    exact ⟨_, _, encodeChars_stringChars t rest, readScalar_string t rest⟩
  | array _ ih =>
    cases hfree with
    | array hitems => exact readsBack_array rfl fun v hv => ih v hv (hitems v hv)
  | object hsorted _ ih =>
    cases hfree with
    | object hmembers => exact readsBack_object rfl hsorted fun m hm => ih m hm (hmembers m hm)

/-- **A whole text is read back.** -/
theorem read_text (h : ReadsBack expected depthLimit v) :
    read expected (Utf8.encode v.text) = .ok v := by
  obtain ⟨b, t, hbytes, -, -, hread⟩ := h [] (fun b hb => by cases hb)
  have htext : Utf8.encode v.text = b :: t := by
    rw [Utf8.encode, text, String.toList_ofList, ← hbytes, List.append_nil]
  rw [htext]
  exact read_eq_ok_iff.2 ⟨[], hread, rfl⟩

end Json

end PropertyGraph
