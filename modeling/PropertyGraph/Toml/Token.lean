import PropertyGraph.Toml.Quoted

/-!
# Tokens of a TOML document

- `Toml.Token`: punctuation, blanks, line ends, quoted texts and bare texts. Comments
  are no tokens.
- `Toml.scan`: the tokens of a text.
-/

namespace PropertyGraph

namespace Toml

/-- A token. -/
inductive Token where
  | dot
  | equals
  | comma
  | openBracket
  | closeBracket
  | openBrace
  | closeBrace
  /-- Spaces and tabs. -/
  | blank (text : List Char)
  | lineEnd
  /-- A text in quotes; `severalLines` if there are three of them. -/
  | quoted (severalLines : Bool) (text : List Char)
  /-- A text without quotes. -/
  | bare (text : List Char)
  deriving DecidableEq

/-- The token of a punctuation mark. -/
def punctuation? (c : Char) : Option Token :=
  match c with
  | '.' => some .dot
  | '=' => some .equals
  | ',' => some .comma
  | '[' => some .openBracket
  | ']' => some .closeBracket
  | '\x7b' => some .openBrace
  | '\x7d' => some .closeBrace
  | '\n' => some .lineEnd
  | _ => none

/-- Whether a character goes on with a bare text. -/
def continuesBare (c : Char) : Bool :=
  !(isSpace c || c = '#' || c = '\r' || (punctuation? c).isSome)

/-- Whether a line ends here. -/
def atLineEnd : List Char → Bool
  | [] => true
  | c :: s => c = '\n' || (c = '\r' && s.head? = some '\n')

/-- Read a text after its first quote. -/
def readQuoted (quote : Char) (one several : List Char → Option (List Char × List Char))
    (s : List Char) : Option (Token × List Char) :=
  match s with
  | a :: b :: rest =>
    if a = quote ∧ b = quote then
      match several (skipFirstLineEnd rest) with
      | some (text, rest) => some (.quoted true text, rest)
      | none => none
    else
      match one s with
      | some (text, rest) => some (.quoted false text, rest)
      | none => none
  | s =>
    match one s with
    | some (text, rest) => some (.quoted false text, rest)
    | none => none

/-- Read what starts with a character: a token, or a comment, which is none. -/
def readToken (c : Char) (s : List Char) : Option (Option Token × List Char) :=
  match punctuation? c with
  | some t => some (some t, s)
  | none =>
    if c = '\r' then
      match s with
      | '\n' :: s => some (some .lineEnd, s)
      | _ => none
    else if c = '#' then
      let rest := s.dropWhile isPlain
      if atLineEnd rest then some (none, rest) else none
    else if c = '"' then
      match readQuoted '"' (readBasic []) (readBasicLines []) s with
      | some (t, rest) => some (some t, rest)
      | none => none
    else if c = '\'' then
      match readQuoted '\'' (readLiteral []) (readLiteralLines []) s with
      | some (t, rest) => some (some t, rest)
      | none => none
    else if isSpace c then
      some (some (.blank (c :: s.takeWhile isSpace)), s.dropWhile isSpace)
    else some (some (.bare (c :: s.takeWhile continuesBare)), s.dropWhile continuesBare)

theorem dropWhile_length {α : Type} (p : α → Bool) (s : List α) :
    (s.dropWhile p).length ≤ s.length := (List.dropWhile_sublist p).length_le

theorem readQuoted_length {quote : Char} {one several : List Char → Option (List Char × List Char)}
    (h₁ : ∀ {s text r}, one s = some (text, r) → r.length < s.length)
    (h₃ : ∀ {s text r}, several s = some (text, r) → r.length < s.length)
    {s r : List Char} {t : Token} (h : readQuoted quote one several s = some (t, r)) :
    r.length ≤ s.length := by
  unfold readQuoted at h
  split at h
  · next a b rest =>
    split at h
    · split at h <;> cases h
      next heq =>
        have := skipFirstLineEnd_length rest
        exact Nat.le_of_lt (Nat.lt_of_lt_of_le (h₃ heq) (Nat.le_trans this (by simp; omega)))
    · split at h <;> cases h
      next heq => exact Nat.le_of_lt (h₁ heq)
  · split at h <;> cases h
    next heq => exact Nat.le_of_lt (h₁ heq)

theorem readToken_length {c : Char} {s r : List Char} {t : Option Token}
    (h : readToken c s = some (t, r)) : r.length ≤ s.length := by
  unfold readToken at h
  split at h
  · cases h
    exact Nat.le_refl _
  · split at h
    · split at h <;> cases h
      exact Nat.le_succ _
    · split at h
      · dsimp only at h
        split at h <;> cases h
        exact dropWhile_length _ _
      · split at h
        · split at h <;> cases h
          next heq => exact readQuoted_length readBasic_length readBasicLines_length heq
        · split at h
          · split at h <;> cases h
            next heq => exact readQuoted_length readLiteral_length readLiteralLines_length heq
          · split at h
            · cases h
              exact dropWhile_length _ _
            · cases h
              exact dropWhile_length _ _

/-- The tokens of a text. `acc` holds those read so far, last first. -/
def scanFrom (acc : List Token) : List Char → Option (List Token)
  | [] => some acc.reverse
  | c :: s =>
    match _h : readToken c s with
    | some (t, rest) => scanFrom (t.toList ++ acc) rest
    | none => none
termination_by s => s.length
decreasing_by exact Nat.lt_succ_of_le (readToken_length _h)

/-- The tokens of a text. A byte order mark in front does not count. -/
def scan : List Char → Option (List Token)
  | '\uFEFF' :: s => scanFrom [] s
  | s => scanFrom [] s

end Toml

end PropertyGraph
