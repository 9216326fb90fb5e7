import PropertyGraph.Json.Reader
import PropertyGraph.Json.Text
import PropertyGraph.Proofs.Utf8

/-!
# Strings and integers read back

What is written for a string or for an integer is read as this string or this integer, up to
its end.

- `Json.readStringBytes_escape`: **one character**. It stands for itself, or behind a backslash
  as a letter, or behind a backslash as a code point of four digits.
- `Json.readString_escape`: a string, from the byte after its first quote on.
- `Json.Ends`: bytes that no number goes on with.
- `Json.readNumber_digits`: the digits of a number below `2 ^ 64`.
- `Json.readScalar_string`, `Json.readScalar_int`: both as values.
-/

namespace PropertyGraph

open Utf8 (encodeChars encodeChars_cons encodeChars_append)

namespace Json

/-! ## Digits -/

/-- The byte of a digit below sixteen. -/
def digitByte (d : Nat) : UInt8 := UInt8.ofNat (digitChar d).toNat

theorem encoding_digitChar : ∀ d < 16, String.utf8EncodeChar (digitChar d) = [digitByte d] := by
  decide

theorem hexValue?_digitByte : ∀ d < 16, hexValue? (digitByte d).toNat = some d := by decide

theorem isDigit_digitByte : ∀ d < 10, isDigit (digitByte d) = true := by decide

theorem digitValue_digitByte : ∀ d < 10, digitValue (digitByte d) = d := by decide

theorem digitByte_eq_zero_iff : ∀ d < 10, digitByte d = 0x30 ↔ d = 0 := by decide

/-! ## Strings -/

/-- A byte that stands for itself inside a string. -/
def Plain (b : UInt8) : Prop := b ≠ 0x22 ∧ b ≠ 0x5C ∧ ¬ b < 0x20

/-- Plain bytes are taken as they are. -/
theorem readStringBytes_plain {bs : Bytes} (h : ∀ b ∈ bs, Plain b) (acc s : Bytes) :
    readStringBytes acc (bs ++ s) = readStringBytes (bs.reverse ++ acc) s := by
  induction bs generalizing acc with
  | nil => rfl
  | cons b bs ih =>
    obtain ⟨⟨hquote, hslash, hcontrol⟩, hbs⟩ := List.forall_mem_cons.1 h
    rw [List.cons_append, readStringBytes, if_neg hquote, if_neg hslash, if_neg hcontrol, ih hbs,
      List.reverse_cons, List.append_assoc, List.singleton_append]

/-- Behind a backslash the bytes that the escape stands for are taken. -/
theorem readStringBytes_backslash {s c rest : Bytes} (h : readEscape s = .ok (c, rest))
    (acc : Bytes) :
    readStringBytes acc (0x5C :: s) = readStringBytes (c.reverse ++ acc) rest := by
  rw [readStringBytes, if_neg (by decide), if_pos rfl]
  split
  · next c' rest' heq =>
    rw [h] at heq
    cases heq
    rfl
  · next f heq =>
    rw [h] at heq
    cases heq

/-- How a character is written: as a letter behind a backslash, as a code point, or plainly. -/
theorem escape_cases (c : Char) :
    (∃ letter byte, encodeChars (escape c) = [0x5C, letter] ∧ letter ≠ 0x75 ∧
        escapedByte? letter = some byte ∧ String.utf8EncodeChar c = [byte]) ∨
      (c.toNat < 0x20 ∧ escape c =
        ['\\', 'u', '0', '0', digitChar (c.toNat / 16), digitChar (c.toNat % 16)]) ∨
      (escape c = [c] ∧ c ≠ '"' ∧ c ≠ '\\' ∧ 0x20 ≤ c.toNat) := by
  have hletter : ∀ (c' : Char) (letter byte : UInt8) (out : List Char), c = c' →
      escape c' = out → encodeChars out = [0x5C, letter] → letter ≠ 0x75 →
      escapedByte? letter = some byte → String.utf8EncodeChar c' = [byte] →
      ∃ letter byte, encodeChars (escape c) = [0x5C, letter] ∧ letter ≠ 0x75 ∧
        escapedByte? letter = some byte ∧ String.utf8EncodeChar c = [byte] := by
    rintro c' letter byte out rfl rfl hbytes hu hbyte hc
    exact ⟨letter, byte, hbytes, hu, hbyte, hc⟩
  by_cases h1 : c = '"'
  · exact .inl (hletter '"' 0x22 0x22 _ h1 rfl rfl (by decide) rfl rfl)
  by_cases h2 : c = '\\'
  · exact .inl (hletter '\\' 0x5C 0x5C _ h2 rfl rfl (by decide) rfl rfl)
  by_cases h3 : c = '\x08'
  · exact .inl (hletter '\x08' 0x62 0x08 _ h3 rfl rfl (by decide) rfl rfl)
  by_cases h4 : c = '\x0c'
  · exact .inl (hletter '\x0c' 0x66 0x0C _ h4 rfl rfl (by decide) rfl rfl)
  by_cases h5 : c = '\n'
  · exact .inl (hletter '\n' 0x6E 0x0A _ h5 rfl rfl (by decide) rfl rfl)
  by_cases h6 : c = '\r'
  · exact .inl (hletter '\r' 0x72 0x0D _ h6 rfl rfl (by decide) rfl rfl)
  by_cases h7 : c = '\t'
  · exact .inl (hletter '\t' 0x74 0x09 _ h7 rfl rfl (by decide) rfl rfl)
  right
  rw [escape, if_neg h1, if_neg h2, if_neg h3, if_neg h4, if_neg h5, if_neg h6, if_neg h7]
  by_cases h8 : c.toNat < 0x20
  · exact .inl ⟨h8, if_pos h8⟩
  · exact .inr ⟨if_neg h8, h1, h2, Nat.le_of_not_lt h8⟩

/-- Four digits spell a code point below two hundred fifty-six. -/
theorem readCodePoint_digits {n : Nat} (h : n < 256) (s : Bytes) :
    readCodePoint (digitByte 0 :: digitByte 0 :: digitByte (n / 16) :: digitByte (n % 16) :: s) =
      .ok (codePointBytes n, s) := by
  have hhigh : hexValue? (digitByte (n / 16)).toNat = some (n / 16) :=
    hexValue?_digitByte _ (by omega)
  have hlow : hexValue? (digitByte (n % 16)).toNat = some (n % 16) :=
    hexValue?_digitByte _ (by omega)
  have hread : readHex (digitByte 0 :: digitByte 0 :: digitByte (n / 16) :: digitByte (n % 16) ::
      s) = .ok (n, s) := by
    simp only [readHex, hexValue?_digitByte 0 (by decide), hhigh, hlow]
    have hn : ((0 * 16 + 0) * 16 + n / 16) * 16 + n % 16 = n := by omega
    rw [hn]
  simp only [readCodePoint, hread]
  rw [if_neg (by omega), if_neg (by omega)]

/-- The bytes of a character that needs no escape have no meaning of their own. -/
theorem plain_encoding {c : Char} (hquote : c ≠ '"') (hslash : c ≠ '\\') (hlow : 0x20 ≤ c.toNat) :
    ∀ b ∈ String.utf8EncodeChar c, Plain b := by
  intro b hb
  rcases Utf8.mem_encoding_cases c with ⟨hascii, henc⟩ | ⟨-, habove⟩
  · -- the only byte is the number of the character
    rw [henc] at hb
    obtain rfl := List.mem_singleton.1 hb
    have hnum : (UInt8.ofNat c.toNat).toNat = c.toNat := Utf8.toNat_byte (by omega)
    have hne : ∀ d : Char, d.toNat < 256 → c ≠ d → UInt8.ofNat c.toNat ≠ UInt8.ofNat d.toNat := by
      intro d hd hcd heq
      have hval := congrArg UInt8.toNat heq
      rw [hnum, Utf8.toNat_byte hd] at hval
      exact hcd (Char.toNat_inj.1 hval)
    refine ⟨hne '"' (by decide) hquote, hne '\\' (by decide) hslash, ?_⟩
    rw [UInt8.lt_iff_toNat_lt, hnum]
    exact Nat.not_lt.2 hlow
  · have hb := habove b hb
    refine ⟨?_, ?_, ?_⟩
    · rintro rfl
      exact absurd hb (by decide)
    · rintro rfl
      exact absurd hb (by decide)
    · rw [UInt8.lt_iff_toNat_lt]
      exact Nat.not_lt.2 (Nat.le_trans (by decide) hb)

/-- **One character**: what is written for it stands for its bytes. -/
theorem readStringBytes_escape (c : Char) (acc s : Bytes) :
    readStringBytes acc (encodeChars (escape c) ++ s) =
      readStringBytes ((String.utf8EncodeChar c).reverse ++ acc) s := by
  rcases escape_cases c with ⟨letter, byte, hbytes, hu, hbyte, hc⟩ | ⟨hlow, hc⟩ |
      ⟨hc, hquote, hslash, hlow⟩
  · have hread : readEscape (letter :: s) = .ok ([byte], s) := by
      simp only [readEscape, if_neg hu, hbyte]
    rw [hbytes, hc, List.cons_append, List.singleton_append, readStringBytes_backslash hread]
  · have hread : readEscape (0x75 :: digitByte 0 :: digitByte 0 :: digitByte (c.toNat / 16) ::
        digitByte (c.toNat % 16) :: s) = .ok (String.utf8EncodeChar c, s) := by
      rw [readEscape, if_pos rfl, readCodePoint_digits (by omega), codePointBytes,
        Char.ofNat_toNat]
    have hbytes : encodeChars (escape c) =
        [0x5C, 0x75, digitByte 0, digitByte 0, digitByte (c.toNat / 16),
          digitByte (c.toNat % 16)] := by
      rw [hc, encodeChars]
      simp only [List.flatMap_cons, List.flatMap_nil, encoding_digitChar (c.toNat / 16) (by omega),
        encoding_digitChar (c.toNat % 16) (by omega)]
      rfl
    rw [hbytes]
    exact readStringBytes_backslash hread acc
  · have hbytes : encodeChars (escape c) = String.utf8EncodeChar c := by
      rw [hc, encodeChars, List.flatMap_singleton]
    rw [hbytes, readStringBytes_plain (plain_encoding hquote hslash hlow)]

theorem readStringBytes_escapes (cs : List Char) (acc s : Bytes) :
    readStringBytes acc (encodeChars (cs.flatMap escape) ++ 0x22 :: s) =
      .ok (acc.reverse ++ encodeChars cs, s) := by
  induction cs generalizing acc with
  | nil =>
    have hnil : encodeChars [] = [] := rfl
    rw [List.flatMap_nil, hnil, List.nil_append, readStringBytes, if_pos rfl, List.append_nil]
  | cons c cs ih =>
    rw [List.flatMap_cons, encodeChars_append, List.append_assoc, readStringBytes_escape, ih,
      List.reverse_append, List.reverse_reverse, encodeChars_cons, List.append_assoc]

/-- **A string is read back**, from the byte after its first quote on. -/
theorem readString_escape (t : String) (s : Bytes) :
    readString (encodeChars (t.toList.flatMap escape) ++ 0x22 :: s) = .ok (t, s) := by
  simp only [readString, readStringBytes_escapes, List.reverse_nil, List.nil_append,
    Utf8.decode_encodeChars, String.ofList_toList]

/-- The bytes of a string in quotes. -/
theorem encodeChars_stringChars (t : String) (s : Bytes) :
    encodeChars (stringChars t) ++ s =
      0x22 :: (encodeChars (t.toList.flatMap escape) ++ 0x22 :: s) := by
  have hquote : String.utf8EncodeChar '"' = [0x22] := rfl
  rw [stringChars, encodeChars_append, encodeChars_cons, hquote, List.append_assoc]
  rfl

theorem readScalar_string (t : String) (s : Bytes) :
    readScalar 0x22 (encodeChars (t.toList.flatMap escape) ++ 0x22 :: s) =
      .ok (.string t, s) := by
  rw [readScalar, if_pos rfl, readString_escape]
  rfl

/-! ## Integers -/

/-- Bytes that no number goes on with. -/
def Ends (s : Bytes) : Prop :=
  ∀ b ∈ s.head?, isDigit b = false ∧ b ≠ 0x2E ∧ isExponentMark b = false

theorem afterDigits_of_ends {s : Bytes} (h : Ends s) : afterDigits s = s := by
  cases s with
  | nil => rfl
  | cons b s => rw [afterDigits, List.dropWhile_cons_of_neg (by simp [(h b rfl).1])]

theorem digitRun_of_ends {s : Bytes} (h : Ends s) : digitRun s = [] := by
  cases s with
  | nil => rfl
  | cons b s => rw [digitRun, List.takeWhile_cons_of_neg (by simp [(h b rfl).1]), List.map_nil]

/-- Digits in front are all of the run, and nothing but the run. -/
theorem digitRun_digits {ds : List Nat} (hds : ∀ d ∈ ds, d < 10) {s : Bytes} (hs : Ends s) :
    digitRun (ds.map digitByte ++ s) = ds ∧ afterDigits (ds.map digitByte ++ s) = s := by
  induction ds with
  | nil => exact ⟨digitRun_of_ends hs, afterDigits_of_ends hs⟩
  | cons d ds ih =>
    obtain ⟨hd, hds⟩ := List.forall_mem_cons.1 hds
    obtain ⟨hrun, hafter⟩ := ih hds
    have hdigit := isDigit_digitByte d hd
    constructor
    · rw [List.map_cons, List.cons_append, digitRun, List.takeWhile_cons_of_pos hdigit,
        List.map_cons, digitValue_digitByte d hd]
      exact congrArg (d :: ·) hrun
    · rw [List.map_cons, List.cons_append, afterDigits, List.dropWhile_cons_of_pos hdigit]
      exact hafter

/-- As long as the value of the digits stays below `2 ^ 64`, none is dropped. -/
theorem absorb_of_lt {significand : Nat} {ds : List Nat}
    (h : ds.foldl (fun n d => n * 10 + d) significand < Nat.pow 2 64) :
    absorb significand ds = (ds.foldl (fun n d => n * 10 + d) significand, 0) := by
  induction ds generalizing significand with
  | nil => rfl
  | cons d ds ih =>
    rw [List.foldl_cons] at h ⊢
    have hlt : significand * 10 + d < Nat.pow 2 64 :=
      Nat.lt_of_le_of_lt (le_foldl_digits (by decide) _ ds) h
    rw [absorb, if_pos hlt, ih h]

theorem lt_of_mem_digitsIn {base n d : Nat} {h : 2 ≤ base} (hd : d ∈ digitsIn base h n) :
    d < base := by
  fun_induction digitsIn base h n with
  | case1 n hn =>
    obtain rfl := List.mem_singleton.1 hd
    exact hn
  | case2 n hn ih =>
    rcases List.mem_append.1 hd with hd | hd
    · exact ih hd
    · obtain rfl := List.mem_singleton.1 hd
      exact Nat.mod_lt n (by omega)

/-- There is no leading zero, except that zero is one. -/
theorem digitsIn_eq_cons {base n : Nat} {h : 2 ≤ base} :
    ∃ d ds, digitsIn base h n = d :: ds ∧ (d = 0 → n = 0 ∧ ds = []) := by
  fun_induction digitsIn base h n with
  | case1 n hn => exact ⟨n, [], rfl, fun h0 => ⟨h0, rfl⟩⟩
  | case2 n hn ih =>
    obtain ⟨d, ds, heq, hzero⟩ := ih
    refine ⟨d, ds ++ [n % base], by rw [heq, List.cons_append], fun h0 => ?_⟩
    have hquot : n / base = 0 := (hzero h0).1
    exact absurd (Nat.div_eq_zero_iff_lt (by omega) |>.1 hquot) hn

/-- Each digit is written as its byte. -/
theorem encodeChars_map_digitChar {ds : List Nat} (hds : ∀ d ∈ ds, d < 16) :
    encodeChars (ds.map digitChar) = ds.map digitByte := by
  induction ds with
  | nil => rfl
  | cons d ds ih =>
    obtain ⟨hd, hds⟩ := List.forall_mem_cons.1 hds
    rw [List.map_cons, encodeChars_cons, encoding_digitChar d hd, ih hds]
    rfl

/-- The bytes of the digits of a number. -/
theorem encodeChars_digits (n : Nat) :
    encodeChars (digits n) = (digitsIn 10 (by decide) n).map digitByte :=
  encodeChars_map_digitChar fun _ hd => Nat.lt_trans (lt_of_mem_digitsIn hd) (by decide)

theorem readTail_of_ends {negative : Bool} {magnitude : Nat} {s : Bytes} (h : Ends s) :
    readTail negative magnitude 0 s = .ok (integer negative magnitude, s) := by
  cases s with
  | nil => rfl
  | cons b s =>
    obtain ⟨-, hpoint, hmark⟩ := h b rfl
    rw [readTail, if_neg hpoint, if_neg (by simp [hmark]), if_pos rfl]

/-- **The digits of a number are read back**, in front of anything that ends a number. -/
theorem readNumber_digits (negative : Bool) {n : Nat} (hn : n < Nat.pow 2 64) {s : Bytes}
    (hs : Ends s) :
    readNumber negative (encodeChars (digits n) ++ s) = .ok (integer negative n, s) := by
  have hlt : ∀ d ∈ digitsIn 10 (by decide) n, d < 10 := fun d hd => lt_of_mem_digitsIn hd
  have hvalue := ofDigitsIn_digitsIn 10 (by decide) n
  rw [encodeChars_digits]
  obtain ⟨d, ds, heq, hzero⟩ := digitsIn_eq_cons (n := n) (h := (by decide : 2 ≤ 10))
  rw [heq] at hlt hvalue ⊢
  obtain ⟨hd, hds⟩ := List.forall_mem_cons.1 hlt
  rw [List.map_cons, List.cons_append, readNumber.eq_def]
  by_cases h0 : d = 0
  · -- a zero stands alone
    obtain ⟨rfl, rfl⟩ := hzero h0
    simp only [if_pos ((digitByte_eq_zero_iff d hd).2 h0), List.map_nil, List.nil_append]
    cases s with
    | nil => rfl
    | cons b s =>
      simp only [(hs b rfl).1, Bool.false_eq_true, if_false]
      exact readTail_of_ends hs
  · obtain ⟨hrun, hafter⟩ := digitRun_digits hds hs
    have habsorb : absorb 0 (d :: ds) = (n, 0) := by
      have hfold : (d :: ds).foldl (fun n d => n * 10 + d) 0 = n := hvalue
      rw [absorb_of_lt (by rw [hfold]; exact hn), hfold]
    have hbyte : digitByte d ≠ 0x30 := fun h => h0 ((digitByte_eq_zero_iff d hd).1 h)
    simp only [if_neg hbyte, if_pos (isDigit_digitByte d hd), hrun, hafter,
      digitValue_digitByte d hd, habsorb]
    exact readTail_of_ends hs

/-- Integers have sixty-four bits, signed if negative and unsigned otherwise. -/
def Number.Fits : Number → Prop
  | .int i => -(Nat.pow 2 63 : Int) ≤ i ∧ i < (Nat.pow 2 64 : Int)
  | .float _ => True

/-- **An integer is read back**, in front of anything that ends a number. -/
theorem readScalar_int {i : Int} (hi : (Number.int i).Fits) {s : Bytes} (hs : Ends s) :
    ∃ b t, encodeChars (signedDigits i) ++ s = b :: t ∧
      readScalar b t = .ok (.number (.int i), s) := by
  obtain ⟨hlo, hhi⟩ := hi
  have hpow : Nat.pow 2 64 = 2 * Nat.pow 2 63 := rfl
  have hlt : i.natAbs < Nat.pow 2 64 := by omega
  rw [signedDigits]
  by_cases hneg : i < 0
  · have hminus : String.utf8EncodeChar '-' = [0x2D] := rfl
    have hinteger : integer true i.natAbs = .int i := by
      rw [integer, if_pos rfl, if_neg (by omega)]
      exact congrArg Number.int (by omega)
    refine ⟨0x2D, encodeChars (digits i.natAbs) ++ s, ?_, ?_⟩
    · rw [if_pos hneg, encodeChars_cons, hminus, List.append_assoc, List.singleton_append]
    · rw [readScalar, if_neg (by decide), if_pos rfl, readNumber_digits true hlt hs, hinteger]
      rfl
  · have hinteger : integer false i.natAbs = .int i := by
      rw [integer, if_neg (by decide)]
      exact congrArg Number.int (by omega)
    have hread := readNumber_digits false hlt hs
    rw [hinteger, encodeChars_digits] at hread
    obtain ⟨d, ds, heq, -⟩ := digitsIn_eq_cons (n := i.natAbs) (h := (by decide : 2 ≤ 10))
    have hd : d < 10 := lt_of_mem_digitsIn (heq ▸ List.mem_cons_self)
    rw [heq, List.map_cons, List.cons_append] at hread
    refine ⟨digitByte d, ds.map digitByte ++ s, ?_, ?_⟩
    · rw [if_neg hneg, encodeChars_digits, heq, List.map_cons, List.cons_append]
    · have hbyte : ∀ d < 10, digitByte d ≠ 0x22 ∧ digitByte d ≠ 0x2D := by decide
      rw [readScalar, if_neg (hbyte d hd).1, if_neg (hbyte d hd).2,
        if_pos (isDigit_digitByte d hd), hread]
      rfl

end Json

end PropertyGraph
