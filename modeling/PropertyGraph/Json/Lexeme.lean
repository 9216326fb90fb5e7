import PropertyGraph.Json.Fault

/-!
# Strings, words and blanks in a JSON text

- `Json.skipBlanks`: leave out blanks between lexemes.
- `Json.readWord`: the rest of a word whose first letter has been read.
- `Json.readHex`: four hexadecimal digits.
- `Json.readEscape`: the bytes an escape stands for. Two escapes that spell the
  halves of a surrogate pair stand for one character together.
- `Json.readStringBytes`: the bytes a string stands for, up to its closing quote.
- `Json.readString`: those bytes as text.

Every reader answers with the bytes it leaves, fewer than it was given.
-/

namespace PropertyGraph

namespace Json

/-- Whether a byte is a blank between lexemes. -/
def isSpace (b : UInt8) : Bool := b = 0x20 || b = 0x0A || b = 0x09 || b = 0x0D

/-- The text from its first byte that is not a blank. -/
def skipBlanks (s : Bytes) : Bytes := s.dropWhile isSpace

theorem skipBlanks_length (s : Bytes) : (skipBlanks s).length ≤ s.length :=
  (List.dropWhile_sublist isSpace).length_le

/-- Read the bytes of a word. -/
def readWord : List UInt8 → Bytes → Except Fault Bytes
  | [], s => .ok s
  | _ :: _, [] => .error ⟨.endOfValue, 0⟩
  | w :: word, b :: s => if b = w then readWord word s else .error ⟨.expectedWord, s.length⟩

theorem readWord_length {word : List UInt8} {s r : Bytes} (h : readWord word s = .ok r) :
    r.length ≤ s.length := by
  induction word generalizing s with
  | nil =>
    rw [readWord] at h
    cases h
    exact Nat.le_refl _
  | cons w word ih =>
    cases s with
    | nil => cases h
    | cons b s =>
      rw [readWord] at h
      split at h
      · exact Nat.le_trans (ih h) (Nat.le_succ _)
      · cases h

/-- Read four hexadecimal digits as one number. -/
def readHex : Bytes → Except Fault (Nat × Bytes)
  | a :: b :: c :: d :: s =>
    match hexValue? a.toNat, hexValue? b.toNat, hexValue? c.toNat, hexValue? d.toNat with
    | some a, some b, some c, some d => .ok (((a * 16 + b) * 16 + c) * 16 + d, s)
    | _, _, _, _ => .error ⟨.invalidEscape, s.length⟩
  | _ => .error ⟨.endOfString, 0⟩

theorem readHex_length {s r : Bytes} {n : Nat} (h : readHex s = .ok (n, r)) :
    r.length < s.length := by
  unfold readHex at h
  split at h
  · split at h <;> cases h
    simp only [List.length_cons]
    omega
  · cases h

/-- The bytes of a code point that is no surrogate. -/
def codePointBytes (n : Nat) : Bytes := String.utf8EncodeChar (Char.ofNat n)

/-- Read one expected byte in front of the second half of a surrogate pair. -/
def readPairByte (expected : UInt8) : Bytes → Except Fault Bytes
  | [] => .error ⟨.endOfString, 0⟩
  | b :: s => if b = expected then .ok s else .error ⟨.unfinishedSurrogatePair, s.length⟩

/-- Read the second half of a surrogate pair and give the bytes of the character. -/
def readLowSurrogate (high : Nat) (s : Bytes) : Except Fault (Bytes × Bytes) :=
  match readPairByte 0x5C s with
  | .error f => .error f
  | .ok s =>
    match readPairByte 0x75 s with
    | .error f => .error f
    | .ok s =>
      match readHex s with
      | .error f => .error f
      | .ok (low, rest) =>
        if 0xDC00 ≤ low ∧ low ≤ 0xDFFF then
          .ok (codePointBytes ((high - 0xD800) * 0x400 + (low - 0xDC00) + 0x10000), rest)
        else .error ⟨.loneSurrogate, rest.length⟩

/-- Read a code point spelled by four digits, or by two times four digits. -/
def readCodePoint (s : Bytes) : Except Fault (Bytes × Bytes) :=
  match readHex s with
  | .error f => .error f
  | .ok (n, rest) =>
    if 0xDC00 ≤ n ∧ n ≤ 0xDFFF then .error ⟨.loneSurrogate, rest.length⟩
    else if 0xD800 ≤ n ∧ n ≤ 0xDBFF then readLowSurrogate n rest
    else .ok (codePointBytes n, rest)

/-- The byte a letter stands for after a backslash. -/
def escapedByte? (b : UInt8) : Option UInt8 :=
  if b = 0x22 then some 0x22
  else if b = 0x5C then some 0x5C
  else if b = 0x2F then some 0x2F
  else if b = 0x62 then some 0x08
  else if b = 0x66 then some 0x0C
  else if b = 0x6E then some 0x0A
  else if b = 0x72 then some 0x0D
  else if b = 0x74 then some 0x09
  else none

/-- Read an escape after its backslash: the bytes it stands for, and the bytes left. -/
def readEscape : Bytes → Except Fault (Bytes × Bytes)
  | [] => .error ⟨.endOfString, 0⟩
  | b :: s =>
    if b = 0x75 then readCodePoint s
    else
      match escapedByte? b with
      | some c => .ok ([c], s)
      | none => .error ⟨.invalidEscape, s.length⟩

theorem readPairByte_length {expected : UInt8} {s r : Bytes}
    (h : readPairByte expected s = .ok r) : r.length < s.length := by
  unfold readPairByte at h
  split at h
  · cases h
  · split at h <;> cases h
    exact Nat.lt_succ_self _

theorem readLowSurrogate_length {high : Nat} {s c r : Bytes}
    (h : readLowSurrogate high s = .ok (c, r)) : r.length < s.length := by
  unfold readLowSurrogate at h
  split at h
  · cases h
  · next heq₁ =>
    split at h
    · cases h
    · next heq₂ =>
      split at h
      · cases h
      · next heq₃ =>
        split at h
        · simp only [Except.ok.injEq, Prod.mk.injEq] at h
          obtain ⟨-, rfl⟩ := h
          exact Nat.lt_trans (readHex_length heq₃)
            (Nat.lt_trans (readPairByte_length heq₂) (readPairByte_length heq₁))
        · cases h

theorem readCodePoint_length {s c r : Bytes} (h : readCodePoint s = .ok (c, r)) :
    r.length < s.length := by
  unfold readCodePoint at h
  split at h
  · cases h
  · next heq =>
    split at h
    · cases h
    · split at h
      · exact Nat.lt_trans (readLowSurrogate_length h) (readHex_length heq)
      · cases h
        exact readHex_length heq

theorem readEscape_length {s c r : Bytes} (h : readEscape s = .ok (c, r)) :
    r.length < s.length := by
  unfold readEscape at h
  split at h
  · cases h
  · split at h
    · exact Nat.lt_trans (readCodePoint_length h) (Nat.lt_succ_self _)
    · split at h <;> cases h
      exact Nat.lt_succ_self _

/-- Read a string after its opening quote. `acc` holds the bytes it stands for so far,
last first. -/
def readStringBytes (acc : Bytes) : Bytes → Except Fault (Bytes × Bytes)
  | [] => .error ⟨.endOfString, 0⟩
  | b :: s =>
    if b = 0x22 then .ok (acc.reverse, s)
    else if b = 0x5C then
      match _h : readEscape s with
      | .ok (c, rest) => readStringBytes (c.reverse ++ acc) rest
      | .error f => .error f
    else if b < 0x20 then .error ⟨.controlCharacter, s.length⟩
    else readStringBytes (b :: acc) s
termination_by s => s.length
decreasing_by
  · exact Nat.lt_trans (readEscape_length _h) (Nat.lt_succ_self _)
  · exact Nat.lt_succ_self _

/-- Read a string after its opening quote. Bytes that are no UTF-8 are refused at the
place they would have in an unescaped string. -/
def readString (s : Bytes) : Except Fault (String × Bytes) :=
  match readStringBytes [] s with
  | .error f => .error f
  | .ok (bytes, rest) =>
    match Utf8.decode bytes with
    | (cs, []) => .ok (String.ofList cs, rest)
    | (_, bad) => .error ⟨.invalidCodePoint, rest.length + bad.length⟩

theorem readStringBytes_length {acc s c r : Bytes} (h : readStringBytes acc s = .ok (c, r)) :
    r.length < s.length := by
  fun_induction readStringBytes acc s with
  | case1 => cases h
  | case2 =>
    cases h
    exact Nat.lt_succ_self _
  | case3 _ _ _ _ heq =>
    next ih =>
      exact Nat.lt_trans (ih h) (Nat.lt_trans (readEscape_length heq) (Nat.lt_succ_self _))
  | case4 => cases h
  | case5 => cases h
  | case6 =>
    next ih => exact Nat.lt_trans (ih h) (Nat.lt_succ_self _)

theorem readString_length {s r : Bytes} {t : String} (h : readString s = .ok (t, r)) :
    r.length < s.length := by
  unfold readString at h
  split at h
  · cases h
  · next heq =>
    split at h <;> cases h
    exact readStringBytes_length heq

end Json

end PropertyGraph
