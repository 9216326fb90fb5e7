import PropertyGraph.Decimal.Digits

/-!
# Quoted texts of a TOML document

- `Toml.readEscape`: the character an escape stands for.
- `Toml.readBasic`, `Toml.readLiteral`, `Toml.readBasicLines`, `Toml.readLiteralLines`:
  the four sorts of quoted text, after their opening quotes. Single quotes take every
  character as it is; three quotes let a text run over several lines.

Every reader answers with the characters it leaves, fewer than it was given.
-/

namespace PropertyGraph

namespace Toml

/-- Whether a character is a blank inside a line. -/
def isSpace (c : Char) : Bool := c = ' ' || c = '\t'

/-- Whether a character may stand for itself: tabs, and all but control characters. -/
def isPlain (c : Char) : Bool := c = '\t' || (0x20 ≤ c.toNat && c.toNat ≠ 0x7F)

/-! ## Escapes -/

/-- Read so many hexadecimal digits behind the value of those before them. -/
def readHex : (count value : Nat) → List Char → Option (Nat × List Char)
  | 0, value, s => some (value, s)
  | _ + 1, _, [] => none
  | count + 1, value, c :: s =>
    match hexValue? c.toNat with
    | some d => readHex count (value * 16 + d) s
    | none => none

/-- Read a code point of so many digits. -/
def readCodePoint (count : Nat) (s : List Char) : Option (Char × List Char) :=
  match readHex count 0 s with
  | some (n, rest) => if n.isValidChar then some (Char.ofNat n, rest) else none
  | none => none

/-- The character a letter stands for after a backslash. -/
def escaped? (c : Char) : Option Char :=
  match c with
  | '"' => some '"'
  | '\\' => some '\\'
  | 'b' => some '\x08'
  | 'e' => some '\x1b'
  | 'f' => some '\x0c'
  | 'n' => some '\n'
  | 'r' => some '\r'
  | 't' => some '\t'
  | _ => none

/-- Read an escape after its backslash. -/
def readEscape : List Char → Option (Char × List Char)
  | [] => none
  | c :: s =>
    if c = 'x' then readCodePoint 2 s
    else if c = 'u' then readCodePoint 4 s
    else if c = 'U' then readCodePoint 8 s
    else (escaped? c).map fun e => (e, s)

theorem readHex_length {count value n : Nat} {s r : List Char}
    (h : readHex count value s = some (n, r)) : r.length ≤ s.length := by
  induction count generalizing value s with
  | zero =>
    cases s <;> (cases h; exact Nat.le_refl _)
  | succ count ih =>
    cases s with
    | nil => cases h
    | cons c s =>
      rw [readHex] at h
      split at h
      · exact Nat.le_trans (ih h) (Nat.le_succ _)
      · cases h

theorem readCodePoint_length {count : Nat} {s r : List Char} {c : Char}
    (h : readCodePoint count s = some (c, r)) : r.length ≤ s.length := by
  unfold readCodePoint at h
  split at h
  · next heq =>
    split at h <;> cases h
    exact readHex_length heq
  · cases h

theorem readEscape_length {s r : List Char} {c : Char} (h : readEscape s = some (c, r)) :
    r.length < s.length := by
  unfold readEscape at h
  split at h
  · cases h
  · next d s =>
    split at h
    · exact Nat.lt_succ_of_le (readCodePoint_length h)
    · split at h
      · exact Nat.lt_succ_of_le (readCodePoint_length h)
      · split at h
        · exact Nat.lt_succ_of_le (readCodePoint_length h)
        · cases he : escaped? d with
          | none =>
            rw [he] at h
            cases h
          | some e =>
            rw [he] at h
            cases h
            exact Nat.lt_succ_self _

/-! ## Quoted texts -/

/-- Read a text up to a double quote. `acc` holds its characters so far, last first. -/
def readBasic (acc : List Char) : List Char → Option (List Char × List Char)
  | [] => none
  | c :: s =>
    if c = '"' then some (acc.reverse, s)
    else if c = '\\' then
      match _h : readEscape s with
      | some (e, rest) => readBasic (e :: acc) rest
      | none => none
    else if isPlain c then readBasic (c :: acc) s
    else none
termination_by s => s.length
decreasing_by
  · exact Nat.lt_trans (readEscape_length _h) (Nat.lt_succ_self _)
  · exact Nat.lt_succ_self _

/-- Read a text up to a single quote. -/
def readLiteral (acc : List Char) : List Char → Option (List Char × List Char)
  | [] => none
  | c :: s =>
    if c = '\'' then some (acc.reverse, s)
    else if isPlain c then readLiteral (c :: acc) s
    else none

/-- Leave out blanks and line ends. -/
def skipLines : List Char → List Char
  | [] => []
  | c :: s =>
    if isSpace c || c = '\n' then skipLines s
    else if c = '\r' ∧ s.head? = some '\n' then skipLines s
    else c :: s

/-- What follows a line that ends here, possibly after blanks. -/
def afterLine? (s : List Char) : Option (List Char) :=
  match s.dropWhile isSpace with
  | '\n' :: rest => some rest
  | '\r' :: '\n' :: rest => some rest
  | _ => none

/-- Three quotes end a text of several lines, and up to two more in front of them belong
to it: the number of those, and what follows the end. -/
def closing? (quote : Char) (s : List Char) : Option (Nat × List Char) :=
  let run := (s.takeWhile (· = quote)).length
  if run < 3 then none
  else if run < 5 then some (run - 3, s.drop run)
  else some (2, s.drop 5)

/-- Whether a character may stand for itself in a text of several lines, in front of
what follows it. -/
def isPlainInLines (c : Char) (s : List Char) : Bool :=
  isPlain c || c = '\n' || (c = '\r' && s.head? = some '\n')

theorem skipLines_length (s : List Char) : (skipLines s).length ≤ s.length := by
  induction s with
  | nil => exact Nat.le_refl _
  | cons c s ih =>
    rw [skipLines]
    split
    · exact Nat.le_trans ih (Nat.le_succ _)
    · split
      · exact Nat.le_trans ih (Nat.le_succ _)
      · exact Nat.le_refl _

theorem afterLine?_length {s r : List Char} (h : afterLine? s = some r) :
    r.length < s.length := by
  have hs : (s.dropWhile isSpace).length ≤ s.length :=
    (List.dropWhile_sublist isSpace).length_le
  unfold afterLine? at h
  split at h
  · next heq =>
    cases h
    rw [heq] at hs
    exact hs
  · next heq =>
    cases h
    rw [heq] at hs
    exact Nat.lt_of_succ_lt hs
  · cases h

theorem closing?_length {quote : Char} {s r : List Char} {n : Nat}
    (h : closing? quote s = some (n, r)) : r.length < s.length := by
  have hs : (s.takeWhile (· = quote)).length ≤ s.length :=
    (List.takeWhile_sublist (· = quote)).length_le
  unfold closing? at h
  dsimp only at h
  split at h
  · cases h
  · split at h
    all_goals
      cases h
      rw [List.length_drop]
      omega

/-- Read a text up to three double quotes. A backslash at the end of a line leaves out
the line end and all blanks and line ends after it. -/
def readBasicLines (acc : List Char) : List Char → Option (List Char × List Char)
  | [] => none
  | c :: s =>
    match closing? '"' (c :: s) with
    | some (n, rest) => some (acc.reverse ++ List.replicate n '"', rest)
    | none =>
      if c = '\\' then
        match _hl : afterLine? s with
        | some rest => readBasicLines acc (skipLines rest)
        | none =>
          match _he : readEscape s with
          | some (e, rest) => readBasicLines (e :: acc) rest
          | none => none
      else if isPlainInLines c s then readBasicLines (c :: acc) s
      else none
termination_by s => s.length
decreasing_by
  · exact Nat.lt_of_le_of_lt (skipLines_length _)
      (Nat.lt_trans (afterLine?_length _hl) (Nat.lt_succ_self _))
  · exact Nat.lt_trans (readEscape_length _he) (Nat.lt_succ_self _)
  · exact Nat.lt_succ_self _

/-- Read a text up to three single quotes. -/
def readLiteralLines (acc : List Char) : List Char → Option (List Char × List Char)
  | [] => none
  | c :: s =>
    match closing? '\'' (c :: s) with
    | some (n, rest) => some (acc.reverse ++ List.replicate n '\'', rest)
    | none => if isPlainInLines c s then readLiteralLines (c :: acc) s else none

/-- A line end right after the opening quotes does not count. -/
def skipFirstLineEnd : List Char → List Char
  | '\n' :: s => s
  | '\r' :: '\n' :: s => s
  | s => s

theorem readBasic_length {acc s t r : List Char} (h : readBasic acc s = some (t, r)) :
    r.length < s.length := by
  fun_induction readBasic acc s with
  | case1 => cases h
  | case2 =>
    cases h
    exact Nat.lt_succ_self _
  | case3 =>
    next ih =>
      exact Nat.lt_trans (ih h)
        (Nat.lt_trans (readEscape_length ‹readEscape _ = _›) (Nat.lt_succ_self _))
  | case4 => cases h
  | case5 =>
    next ih => exact Nat.lt_trans (ih h) (Nat.lt_succ_self _)
  | case6 => cases h

theorem readLiteral_length {acc s t r : List Char} (h : readLiteral acc s = some (t, r)) :
    r.length < s.length := by
  induction s generalizing acc with
  | nil => cases h
  | cons c s ih =>
    rw [readLiteral] at h
    split at h
    · cases h
      exact Nat.lt_succ_self _
    · split at h
      · exact Nat.lt_trans (ih h) (Nat.lt_succ_self _)
      · cases h

theorem readBasicLines_length {acc s t r : List Char}
    (h : readBasicLines acc s = some (t, r)) : r.length < s.length := by
  fun_induction readBasicLines acc s with
  | case1 => cases h
  | case2 =>
    next heq =>
      cases h
      exact closing?_length heq
  | case3 =>
    next ih =>
      exact Nat.lt_trans (ih h) (Nat.lt_of_le_of_lt (skipLines_length _)
        (Nat.lt_trans (afterLine?_length ‹afterLine? _ = _›) (Nat.lt_succ_self _)))
  | case4 =>
    next ih =>
      exact Nat.lt_trans (ih h)
        (Nat.lt_trans (readEscape_length ‹readEscape _ = _›) (Nat.lt_succ_self _))
  | case5 => cases h
  | case6 =>
    next ih => exact Nat.lt_trans (ih h) (Nat.lt_succ_self _)
  | case7 => cases h

theorem readLiteralLines_length {acc s t r : List Char}
    (h : readLiteralLines acc s = some (t, r)) : r.length < s.length := by
  induction s generalizing acc with
  | nil => cases h
  | cons c s ih =>
    rw [readLiteralLines] at h
    split at h
    · next heq =>
      cases h
      exact closing?_length heq
    · split at h
      · exact Nat.lt_trans (ih h) (Nat.lt_succ_self _)
      · cases h

theorem skipFirstLineEnd_length (s : List Char) : (skipFirstLineEnd s).length ≤ s.length := by
  unfold skipFirstLineEnd
  split
  · exact Nat.le_succ _
  · exact Nat.le_succ_of_le (Nat.le_succ _)
  · exact Nat.le_refl _

end Toml

end PropertyGraph
