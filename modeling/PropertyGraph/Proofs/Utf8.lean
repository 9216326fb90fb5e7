import PropertyGraph.Text.Utf8

/-!
# Reading undoes writing, character by character

The bytes that encode a character are read as this character, whatever follows them. A first
byte says how many bytes belong to it and which range the second one lies in; the four lengths
of an encoding are the four cases here.

- `Utf8.next_of_encoding`: **one character**.
- `Utf8.decode_encodeChars`: a whole text.
- `Utf8.mem_encoding_cases`: a character of ASCII is its own byte, and no other character has a
  byte of ASCII in its encoding.
- `Utf8.encode_le_iff`: **strings are ordered like their bytes**.
-/

namespace PropertyGraph

namespace Utf8

/-- A byte given by its number. -/
theorem toNat_byte {n : Nat} (h : n < 256) : (UInt8.ofNat n).toNat = n :=
  UInt8.toNat_ofNat_of_lt h

/-- A byte in its range adds its six bits. -/
theorem continuation_byte (value : Nat) {lo hi x : Nat} (more : List (Nat × Nat)) (s : Bytes)
    (hx : x < 64) (hlo : lo ≤ x + 128) (hhi : x + 128 ≤ hi) :
    continuation value ((lo, hi) :: more) (UInt8.ofNat (x + 128) :: s) =
      continuation (value * 64 + x) more s := by
  have hbyte : (UInt8.ofNat (x + 128)).toNat = x + 128 := toNat_byte (by omega)
  rw [continuation, hbyte, if_pos ⟨hlo, hhi⟩, Nat.add_sub_cancel]

/-- A byte after the first one whose range is not restricted. -/
theorem continuation_tail (value : Nat) {x : Nat} (more : List (Nat × Nat)) (s : Bytes)
    (hx : x < 64) :
    continuation value (tail :: more) (UInt8.ofNat (x + 128) :: s) =
      continuation (value * 64 + x) more s :=
  continuation_byte value more s hx (by omega) (by omega)

/-- The bytes of a character follow the promise of the first one. -/
theorem next_of_continuation {b : UInt8} {s r : Bytes} {value : Nat} {ranges : List (Nat × Nat)}
    {c : Char} (hb : leading b = some (value, ranges))
    (hs : continuation value ranges s = (some c.toNat, r)) : next b s = (some c, r) := by
  unfold next
  rw [hb]
  simp only [hs, Char.ofNat_toNat]

/-! ## First bytes -/

theorem leading_one {n : Nat} (h : n < 0x80) : leading (UInt8.ofNat n) = some (n, []) := by
  rw [leading, toNat_byte (by omega), if_pos h]

theorem leading_two {x : Nat} (hlo : 2 ≤ x) (hhi : x < 32) :
    leading (UInt8.ofNat (x + 192)) = some (x, [tail]) := by
  have hbyte : (UInt8.ofNat (x + 192)).toNat = x + 192 := toNat_byte (by omega)
  rw [leading, hbyte, if_neg (by omega), if_neg (by omega), if_pos (by omega), Nat.add_sub_cancel]

/-- The first byte of three; the range of the second leaves out what two bytes can spell, and
surrogates. -/
theorem leading_three {x : Nat} (hx : x < 16) :
    ∃ lo hi, leading (UInt8.ofNat (x + 224)) = some (x, [(lo, hi), tail]) ∧
      ∀ y < 64, (x = 0 → 32 ≤ y) → (x = 13 → y < 32) → lo ≤ y + 128 ∧ y + 128 ≤ hi := by
  have hbyte : (UInt8.ofNat (x + 224)).toNat = x + 224 := toNat_byte (by omega)
  rw [leading, hbyte, if_neg (by omega), if_neg (by omega), if_neg (by omega)]
  by_cases h0 : x = 0
  · subst h0
    exact ⟨_, _, rfl, by omega⟩
  · rw [if_neg (by omega)]
    by_cases h13 : x = 13
    · subst h13
      exact ⟨_, _, rfl, by omega⟩
    · rw [if_neg (by omega), if_pos (by omega), Nat.add_sub_cancel]
      exact ⟨_, _, rfl, by omega⟩

/-- The first byte of four; the range of the second leaves out what three bytes can spell, and
what is no character any more. -/
theorem leading_four {x : Nat} (hx : x ≤ 4) :
    ∃ lo hi, leading (UInt8.ofNat (x + 240)) = some (x, [(lo, hi), tail, tail]) ∧
      ∀ y < 64, (x = 0 → 16 ≤ y) → (x = 4 → y < 16) → lo ≤ y + 128 ∧ y + 128 ≤ hi := by
  have hbyte : (UInt8.ofNat (x + 240)).toNat = x + 240 := toNat_byte (by omega)
  rw [leading, hbyte, if_neg (by omega), if_neg (by omega), if_neg (by omega), if_neg (by omega),
    if_neg (by omega), if_neg (by omega)]
  by_cases h0 : x = 0
  · subst h0
    exact ⟨_, _, rfl, by omega⟩
  · rw [if_neg (by omega)]
    by_cases h4 : x = 4
    · subst h4
      exact ⟨_, _, rfl, by omega⟩
    · rw [if_pos (by omega), Nat.add_sub_cancel]
      exact ⟨_, _, rfl, by omega⟩

/-! ## Characters -/

/-- The numbers that are no characters: surrogates, and what is too large. -/
theorem toNat_bounds (c : Char) :
    c.toNat < 0xD800 ∨ 0xDFFF < c.toNat ∧ c.toNat < 0x110000 := c.valid

/-- The encoding of a character, by the number of its bytes. -/
theorem encoding_eq (c : Char) :
    String.utf8EncodeChar c =
      if c.toNat ≤ 0x7F then [UInt8.ofNat c.toNat]
      else if c.toNat ≤ 0x7FF then
        [UInt8.ofNat (c.toNat / 64 % 32 + 192), UInt8.ofNat (c.toNat % 64 + 128)]
      else if c.toNat ≤ 0xFFFF then
        [UInt8.ofNat (c.toNat / 4096 % 16 + 224), UInt8.ofNat (c.toNat / 64 % 64 + 128),
          UInt8.ofNat (c.toNat % 64 + 128)]
      else
        [UInt8.ofNat (c.toNat / 262144 % 8 + 240), UInt8.ofNat (c.toNat / 4096 % 64 + 128),
          UInt8.ofNat (c.toNat / 64 % 64 + 128), UInt8.ofNat (c.toNat % 64 + 128)] := rfl

/-- **One character**: its encoding is read as the character, and what follows stays. -/
theorem next_of_encoding (c : Char) (r : Bytes) :
    ∃ b s, String.utf8EncodeChar c = b :: s ∧ next b (s ++ r) = (some c, r) := by
  rw [encoding_eq]
  have hvalid := toNat_bounds c
  generalize hv : c.toNat = v at hvalid ⊢
  by_cases h1 : v ≤ 0x7F
  · rw [if_pos h1]
    refine ⟨_, _, rfl, next_of_continuation (leading_one (by omega)) ?_⟩
    rw [hv]
    rfl
  rw [if_neg h1]
  by_cases h2 : v ≤ 0x7FF
  · rw [if_pos h2]
    refine ⟨_, _, rfl, next_of_continuation (leading_two (by omega) (by omega)) ?_⟩
    have hvalue : v / 64 % 32 * 64 + v % 64 = v := by omega
    rw [List.cons_append, List.nil_append, continuation_tail _ _ _ (by omega), hvalue, hv]
    rfl
  rw [if_neg h2]
  by_cases h3 : v ≤ 0xFFFF
  · rw [if_pos h3]
    obtain ⟨lo, hi, hleading, hrange⟩ := leading_three (x := v / 4096 % 16) (by omega)
    obtain ⟨hlo, hhi⟩ := hrange (v / 64 % 64) (by omega) (by omega) (by omega)
    refine ⟨_, _, rfl, next_of_continuation hleading ?_⟩
    have hvalue : (v / 4096 % 16 * 64 + v / 64 % 64) * 64 + v % 64 = v := by omega
    rw [List.cons_append, continuation_byte _ _ _ (by omega) hlo hhi, List.cons_append,
      List.nil_append, continuation_tail _ _ _ (by omega), hvalue, hv]
    rfl
  · rw [if_neg h3]
    obtain ⟨lo, hi, hleading, hrange⟩ := leading_four (x := v / 262144 % 8) (by omega)
    obtain ⟨hlo, hhi⟩ := hrange (v / 4096 % 64) (by omega) (by omega) (by omega)
    refine ⟨_, _, rfl, next_of_continuation hleading ?_⟩
    have hvalue :
        ((v / 262144 % 8 * 64 + v / 4096 % 64) * 64 + v / 64 % 64) * 64 + v % 64 = v := by omega
    rw [List.cons_append, continuation_byte _ _ _ (by omega) hlo hhi, List.cons_append,
      continuation_tail _ _ _ (by omega), List.cons_append, List.nil_append,
      continuation_tail _ _ _ (by omega), hvalue, hv]
    rfl

/-- A character of ASCII is its own byte; the encoding of any other lies above ASCII. -/
theorem mem_encoding_cases (c : Char) :
    c.toNat < 0x80 ∧ String.utf8EncodeChar c = [UInt8.ofNat c.toNat] ∨
      0x80 ≤ c.toNat ∧ ∀ b ∈ String.utf8EncodeChar c, 0x80 ≤ b.toNat := by
  rw [encoding_eq]
  generalize c.toNat = v
  have hbyte : ∀ n, 128 ≤ n → n < 256 → 0x80 ≤ (UInt8.ofNat n).toNat := by
    intro n hlo hhi
    rw [toNat_byte hhi]
    exact hlo
  by_cases h1 : v ≤ 0x7F
  · left
    exact ⟨by omega, if_pos h1⟩
  right
  refine ⟨by omega, ?_⟩
  rw [if_neg h1]
  split
  · simp only [List.forall_mem_cons]
    exact ⟨hbyte _ (by omega) (by omega), hbyte _ (by omega) (by omega), List.forall_mem_nil _⟩
  split
  · simp only [List.forall_mem_cons]
    exact ⟨hbyte _ (by omega) (by omega), hbyte _ (by omega) (by omega),
      hbyte _ (by omega) (by omega), List.forall_mem_nil _⟩
  · simp only [List.forall_mem_cons]
    exact ⟨hbyte _ (by omega) (by omega), hbyte _ (by omega) (by omega),
      hbyte _ (by omega) (by omega), hbyte _ (by omega) (by omega), List.forall_mem_nil _⟩

/-! ## Texts -/

theorem encodeChars_cons (c : Char) (cs : List Char) :
    encodeChars (c :: cs) = String.utf8EncodeChar c ++ encodeChars cs := by
  rw [encodeChars, List.flatMap_cons, encodeChars]

theorem encodeChars_append (cs ds : List Char) :
    encodeChars (cs ++ ds) = encodeChars cs ++ encodeChars ds := by
  rw [encodeChars, List.flatMap_append, encodeChars, encodeChars]

theorem decodeFrom_encodeChars (acc cs : List Char) :
    decodeFrom acc (encodeChars cs) = (acc.reverse ++ cs, []) := by
  induction cs generalizing acc with
  | nil =>
    rw [List.append_nil]
    exact decodeFrom.eq_1 acc
  | cons c cs ih =>
    obtain ⟨b, s, henc, hnext⟩ := next_of_encoding c (encodeChars cs)
    rw [encodeChars_cons, henc, List.cons_append, decodeFrom]
    split
    · next c' r heq =>
      rw [hnext] at heq
      cases heq
      rw [ih, List.reverse_cons, List.append_assoc, List.singleton_append]
    · next r heq =>
      rw [hnext] at heq
      cases heq

/-- **Reading undoes writing**: the bytes of a text are read as this text, to their end. -/
theorem decode_encodeChars (cs : List Char) : decode (encodeChars cs) = (cs, []) :=
  decodeFrom_encodeChars [] cs

/-! ## Order -/

/-- Bytes given by their numbers are compared by these, and the rest decides between equal ones. -/
theorem byte_cons_lt {m n : Nat} (hm : m < 256) (hn : n < 256) (s t : Bytes) :
    UInt8.ofNat m :: s < UInt8.ofNat n :: t ↔ m < n ∨ m = n ∧ s < t := by
  rw [List.cons_lt_cons_iff, UInt8.lt_iff_toNat_lt, ← UInt8.toNat_inj, toNat_byte hm, toNat_byte hn]

/-- The encoding of a lower character is lower, whatever follows. -/
theorem encoding_append_lt {c d : Char} (h : c < d) (s t : Bytes) :
    String.utf8EncodeChar c ++ s < String.utf8EncodeChar d ++ t := by
  have hlt : c.toNat < d.toNat := h
  have hd := toNat_bounds d
  rw [encoding_eq, encoding_eq]
  generalize c.toNat = v at hlt
  generalize d.toNat = w at hlt hd
  have hv : v = ((v / 262144 % 8 * 64 + v / 4096 % 64) * 64 + v / 64 % 64) * 64 + v % 64 := by omega
  have hw : w = ((w / 262144 % 8 * 64 + w / 4096 % 64) * 64 + w / 64 % 64) * 64 + w % 64 := by omega
  -- first bytes decide between encodings of different lengths, digits of the number between others
  repeat' split
  all_goals
    simp (disch := omega) only [List.cons_append, List.nil_append, byte_cons_lt]
    omega

/-- The encoding of a lower text is lower. -/
theorem encodeChars_lt {cs ds : List Char} (h : cs < ds) : encodeChars cs < encodeChars ds := by
  induction h with
  | nil =>
    obtain ⟨b, s, henc, -⟩ := next_of_encoding _ []
    rw [encodeChars_cons, henc]
    exact List.nil_lt_cons _ _
  | rel hlt =>
    rw [encodeChars_cons, encodeChars_cons]
    exact encoding_append_lt hlt _ _
  | cons _ ih =>
    rw [encodeChars_cons, encodeChars_cons]
    exact List.append_left_lt ih

/-- **Strings are ordered like their bytes.** -/
theorem encode_le_iff {a b : String} : encode a ≤ encode b ↔ a ≤ b := by
  constructor
  · intro h
    refine String.not_lt.mp fun hlt => ?_
    exact List.not_lt.mpr h (encodeChars_lt (String.lt_iff.mp hlt))
  · intro h
    by_cases heq : a = b
    · rw [heq]
      exact List.le_refl _
    · have hlt : a < b := String.not_le.mp fun hle => heq (String.le_antisymm h hle)
      exact List.le_of_lt (encodeChars_lt (String.lt_iff.mp hlt))

theorem encode_lt_iff {a b : String} : encode a < encode b ↔ a < b := by
  rw [← List.not_le, encode_le_iff, String.not_le]

end Utf8

end PropertyGraph
