import PropertyGraph.Toml.Scalar
import PropertyGraph.Toml.Table
import PropertyGraph.Toml.Token

/-!
# Reading keys and values of a TOML document

- `Toml.pathOf?`: the dotted key that tokens spell.
- `Toml.bareText`: the tokens that make up one bare text: parts with dots between them,
  and a date and a time with a space between them.
- `Toml.readValue`, `Toml.readItems`, `Toml.readEntries`: values, and what stands
  between brackets or braces. At most `Toml.depthLimit` of these may be open.

Every reader answers with the tokens it leaves, and a proof that they are fewer.
-/

namespace PropertyGraph

namespace Toml

/-! ## Keys -/

/-- Whether a character may stand in a bare key. -/
def isKeyChar (c : Char) : Bool := c.isAlphanum || c = '_' || c = '-'

/-- The name that a token is. -/
def Token.name? : Token → Option String
  | .bare text => if text.all isKeyChar then some (String.ofList text) else none
  | .quoted false text => some (String.ofList text)
  | _ => none

/-- Whether a token is a blank. -/
def Token.isBlank : Token → Bool
  | .blank _ => true
  | _ => false

/-- The names of tokens between which dots stand. -/
def names? : List Token → Option (List String)
  | [t] => t.name?.map fun n => [n]
  | t :: .dot :: rest => do
    let name ← t.name?
    let names ← names? rest
    return name :: names
  | _ => none

/-- The dotted key that tokens spell; blanks do not count. -/
def pathOf? (s : List Token) : Option Path := do
  let names ← names? (s.filter fun t => !t.isBlank)
  let last ← names.getLast?
  return ⟨names.dropLast, last⟩

/-! ## Texts without quotes -/

/-- The parts of a bare text after its first one. -/
def moreParts : List Token → List Char × List Token
  | .dot :: .bare text :: rest =>
    let (more, rest) := moreParts rest
    ('.' :: text ++ more, rest)
  | s => ([], s)

/-- Whether a token is the start of a time. -/
def startsWithDigit (text : List Char) : Bool :=
  match text with
  | [] => false
  | c :: _ => DateTime.isDigit c

/-- A bare text from its first part on, and what follows it. -/
def bareText (first : List Char) (s : List Token) : List Char × List Token :=
  let (more, rest) := moreParts s
  match rest with
  -- only a date may be followed by a space and a time
  | .blank [' '] :: .bare time :: rest' =>
    if DateTime.isDate (first ++ more) && startsWithDigit time then
      let (fraction, rest') := moreParts rest'
      (first ++ more ++ ' ' :: time ++ fraction, rest')
    else (first ++ more, rest)
  | _ => (first ++ more, rest)

theorem moreParts_length (s : List Token) : (moreParts s).2.length ≤ s.length := by
  fun_induction moreParts s with
  | case1 text rest more rest' heq ih =>
    rw [heq] at ih
    exact Nat.le_succ_of_le (Nat.le_succ_of_le ih)
  | case2 => exact Nat.le_refl _

theorem bareText_length (first : List Char) (s : List Token) :
    (bareText first s).2.length ≤ s.length := by
  have hs := moreParts_length s
  unfold bareText
  dsimp only
  split
  · next rest' heq =>
    rw [heq] at hs
    split
    · have := moreParts_length rest'
      simp only [List.length_cons] at hs
      dsimp only
      omega
    · rw [heq]
      exact hs
  · exact hs

/-! ## What follows -/

/-- The tokens from the first one that is no blank. -/
def skipBlanks (s : List Token) : List Token := s.dropWhile Token.isBlank

/-- The tokens from the first one that is neither a blank nor a line end. -/
def skipLineEnds (s : List Token) : List Token :=
  s.dropWhile fun t => t.isBlank || t = .lineEnd

/-- What follows inside brackets: their end, with the tokens after it, or an entry, with
the tokens from its first one on. -/
inductive Next where
  | stop (rest : List Token)
  | entry (start : List Token)

/-- After a comma, an entry may follow or the end. -/
def nextAfterComma (close : Token) (s : List Token) : Except Fault Next :=
  match skipLineEnds s with
  | [] => .error .malformed
  | t :: rest => if t = close then .ok (.stop rest) else .ok (.entry (t :: rest))

/-- Find the next entry. Before the first one there is no comma. -/
def next (close : Token) (first : Bool) (s : List Token) : Except Fault Next :=
  match skipLineEnds s with
  | [] => .error .malformed
  | t :: rest =>
    if t = close then .ok (.stop rest)
    else if first then .ok (.entry (t :: rest))
    else if t = .comma then nextAfterComma close rest
    else .error .malformed

/-- Read a dotted key and what separates it from its value. -/
def readKey (s : List Token) : Except Fault (Path × List Token) :=
  match pathOf? (s.takeWhile (· ≠ .equals)), s.dropWhile (· ≠ .equals) with
  | some path, _ :: rest => .ok (path, skipBlanks rest)
  | _, _ => .error .malformed

/-- The tokens of an entry are no more than there were, those after the end are fewer. -/
def Next.Within (s : List Token) : Next → Prop
  | .stop rest => rest.length < s.length
  | .entry start => start.length ≤ s.length

theorem skipLineEnds_cons_length {s rest : List Token} {t : Token}
    (h : skipLineEnds s = t :: rest) : rest.length < s.length := by
  have : (skipLineEnds s).length ≤ s.length := dropWhile_length _ s
  rw [h] at this
  exact this

theorem next_within {close : Token} {first : Bool} {s : List Token} {n : Next}
    (h : next close first s = .ok n) : n.Within s := by
  unfold next at h
  split at h
  · cases h
  · next heq =>
    have hl := skipLineEnds_cons_length heq
    split at h
    · cases h
      exact hl
    · split at h
      · cases h
        exact hl
      · split at h
        · unfold nextAfterComma at h
          split at h
          · cases h
          · next heq' =>
            have hl' := skipLineEnds_cons_length heq'
            split at h <;> cases h
            · exact Nat.lt_trans hl' hl
            · exact Nat.le_of_lt (Nat.lt_of_le_of_lt hl' hl)
        · cases h

theorem readKey_length {s rest : List Token} {p : Path} (h : readKey s = .ok (p, rest)) :
    rest.length < s.length := by
  unfold readKey at h
  split at h
  · next t rest _ hd =>
    cases h
    have hs := dropWhile_length (· ≠ Token.equals) s
    rw [hd] at hs
    exact Nat.lt_of_le_of_lt (dropWhile_length Token.isBlank rest) hs
  · cases h

/-! ## Values -/

/-- How many brackets and braces may be open at once. -/
def depthLimit : Nat := 80

/-- The tokens a reader leaves of `s`. -/
abbrev Left (s : List Token) := { r : List Token // r.length < s.length }

mutual

/-- Read a value, inside brackets of which `depth` more may be opened. -/
def readValue (depth : Nat) (s : List Token) : Except Fault (Value × Left s) :=
  match s with
  | .quoted _ text :: rest => .ok (.string (String.ofList text), ⟨rest, Nat.lt_succ_self _⟩)
  | .bare first :: rest =>
    (Value.ofBare (bareText first rest).1).map fun v =>
      (v, ⟨(bareText first rest).2, Nat.lt_succ_of_le (bareText_length first rest)⟩)
  | .openBracket :: rest =>
    match depth with
    | 0 => .error .tooDeep
    | depth + 1 =>
      match readItems depth true [] rest with
      | .error f => .error f
      | .ok (items, rest') => .ok (.array false items, ⟨rest', Nat.lt_succ_of_lt rest'.2⟩)
  | .openBrace :: rest =>
    match depth with
    | 0 => .error .tooDeep
    | depth + 1 =>
      match readEntries depth true [] rest with
      | .error f => .error f
      | .ok (entries, rest') => .ok (.table .inline entries, ⟨rest', Nat.lt_succ_of_lt rest'.2⟩)
  | _ => .error .malformed
termination_by (s.length, 0)
decreasing_by all_goals exact Prod.Lex.left _ _ (Nat.lt_succ_self _)

/-- Read the items of a list up to its end. `acc` holds those read so far, last first. -/
def readItems (depth : Nat) (first : Bool) (acc : List Value) (s : List Token) :
    Except Fault (List Value × Left s) :=
  match hn : next .closeBracket first s with
  | .error f => .error f
  | .ok (.stop rest) => .ok (acc.reverse, ⟨rest, next_within hn⟩)
  | .ok (.entry start) =>
    match readValue depth start with
    | .error f => .error f
    | .ok (v, rest) =>
      match readItems depth false (v :: acc) rest with
      | .error f => .error f
      | .ok (items, rest') =>
        .ok (items, ⟨rest', Nat.lt_trans rest'.2 (Nat.lt_of_lt_of_le rest.2 (next_within hn))⟩)
termination_by (s.length, 1)
decreasing_by
  · rcases Nat.lt_or_eq_of_le (next_within hn) with h | h
    · exact Prod.Lex.left _ _ h
    · rw [h]
      exact Prod.Lex.right _ (by decide)
  · exact Prod.Lex.left _ _ (Nat.lt_of_lt_of_le rest.2 (next_within hn))

/-- Read the entries of a table up to its end. `acc` holds those read so far. -/
def readEntries (depth : Nat) (first : Bool) (acc : Table) (s : List Token) :
    Except Fault (Table × Left s) :=
  match hn : next .closeBrace first s with
  | .error f => .error f
  | .ok (.stop rest) => .ok (acc, ⟨rest, next_within hn⟩)
  | .ok (.entry start) =>
    match hk : readKey start with
    | .error f => .error f
    | .ok (path, s') =>
      match readValue depth s' with
      | .error f => .error f
      | .ok (v, rest) =>
        match Table.assign acc path v with
        | .error f => .error f
        | .ok acc =>
          match readEntries depth false acc rest with
          | .error f => .error f
          | .ok (entries, rest') =>
            .ok (entries, ⟨rest', Nat.lt_trans rest'.2 (Nat.lt_trans rest.2
              (Nat.lt_of_lt_of_le (readKey_length hk) (next_within hn)))⟩)
termination_by (s.length, 1)
decreasing_by
  · exact Prod.Lex.left _ _ (Nat.lt_of_lt_of_le (readKey_length hk) (next_within hn))
  · exact Prod.Lex.left _ _ (Nat.lt_trans rest.2
      (Nat.lt_of_lt_of_le (readKey_length hk) (next_within hn)))

end

end Toml

end PropertyGraph
