import PropertyGraph.Toml.Reader

/-!
# TOML documents

- `Toml.Statement`: a line of a document: a header, or a value for a dotted key.
- `Toml.Section`: a header and the values under it.
- `Toml.read`: the table that a whole text describes.
-/

namespace PropertyGraph

namespace Toml

/-- A header: the path of a table, or of a list of tables that gets one more. -/
structure Header where
  ofList : Bool
  path : Path

/-- A line of a document. -/
inductive Statement where
  | header (h : Header)
  | assignment (path : Path) (v : Value)

/-- A header and the values under it. -/
structure Section where
  header : Header
  entries : List (Path × Value)

/-! ## Statements -/

/-- Read a dotted key and the bracket that closes it. -/
def readClosedKey (s : List Token) : Except Fault (Path × List Token) :=
  match pathOf? (s.takeWhile (· ≠ .closeBracket)), s.dropWhile (· ≠ .closeBracket) with
  | some path, _ :: rest => .ok (path, rest)
  | _, _ => .error .malformed

/-- Read a header after its first bracket. The brackets of a list of tables come in pairs
without blanks in between. -/
def readHeader (s : List Token) : Except Fault (Statement × List Token) :=
  match s with
  | .openBracket :: s =>
    match readClosedKey s with
    | .ok (path, .closeBracket :: rest) => .ok (.header ⟨true, path⟩, rest)
    | _ => .error .malformed
  | s => (readClosedKey s).map fun (path, rest) => (.header ⟨false, path⟩, rest)

/-- Read a dotted key and its value. -/
def readAssignment (s : List Token) : Except Fault (Statement × List Token) :=
  match readKey s with
  | .error f => .error f
  | .ok (path, s) =>
    match readValue depthLimit s with
    | .error f => .error f
    | .ok (v, rest) => .ok (.assignment path v, rest)

/-- Read a statement. -/
def readStatement (t : Token) (s : List Token) : Except Fault (Statement × List Token) :=
  if t = .openBracket then readHeader s else readAssignment (t :: s)

/-- The end of a line: nothing but blanks stands in front of it. -/
def readLineEnd (s : List Token) : Except Fault (List Token) :=
  match skipBlanks s with
  | [] => .ok []
  | t :: rest => if t = .lineEnd then .ok rest else .error .malformed

theorem dropWhile_cons_length {p : Token → Bool} {s rest : List Token} {t : Token}
    (h : s.dropWhile p = t :: rest) : rest.length < s.length := by
  have := dropWhile_length p s
  rw [h] at this
  exact this

theorem readClosedKey_length {s rest : List Token} {path : Path}
    (h : readClosedKey s = .ok (path, rest)) : rest.length < s.length := by
  unfold readClosedKey at h
  split at h
  · next hd =>
    cases h
    exact dropWhile_cons_length hd
  · cases h

theorem readHeader_length {s rest : List Token} {st : Statement}
    (h : readHeader s = .ok (st, rest)) : rest.length < s.length := by
  unfold readHeader at h
  split at h
  · split at h <;> cases h
    next hk => exact Nat.lt_succ_of_lt (Nat.lt_of_succ_lt (readClosedKey_length hk))
  · cases hk : readClosedKey s with
    | error f =>
      rw [hk] at h
      cases h
    | ok r =>
      rw [hk] at h
      cases h
      exact readClosedKey_length hk

theorem readAssignment_length {s rest : List Token} {st : Statement}
    (h : readAssignment s = .ok (st, rest)) : rest.length < s.length := by
  unfold readAssignment at h
  split at h
  · cases h
  · next heq =>
    split at h
    · cases h
    · next r _ =>
      cases h
      exact Nat.lt_trans r.2 (readKey_length heq)

theorem readStatement_length {t : Token} {s rest : List Token} {st : Statement}
    (h : readStatement t s = .ok (st, rest)) : rest.length ≤ s.length := by
  unfold readStatement at h
  split at h
  · exact Nat.le_of_lt (readHeader_length h)
  · exact Nat.le_of_lt_succ (readAssignment_length h)

theorem readLineEnd_length {s rest : List Token} (h : readLineEnd s = .ok rest) :
    rest.length ≤ s.length := by
  unfold readLineEnd at h
  split at h
  · cases h
    exact Nat.zero_le _
  · next heq =>
    split at h <;> cases h
    exact Nat.le_of_lt (dropWhile_cons_length heq)

/-- Read the statements of a document. `acc` holds those read so far, last first. -/
def readStatements (acc : List Statement) (s : List Token) : Except Fault (List Statement) :=
  match _hs : skipLineEnds s with
  | [] => .ok acc.reverse
  | t :: rest =>
    match _ht : readStatement t rest with
    | .error f => .error f
    | .ok (st, rest) =>
      match _he : readLineEnd rest with
      | .error f => .error f
      | .ok rest => readStatements (st :: acc) rest
termination_by s.length
decreasing_by
  exact Nat.lt_of_le_of_lt (Nat.le_trans (readLineEnd_length _he) (readStatement_length _ht))
    (skipLineEnds_cons_length _hs)

/-! ## Documents -/

/-- The values in front of the first header, and the sections. -/
def sections : List Statement → List (Path × Value) × List Section
  | [] => ([], [])
  | .assignment path v :: rest =>
    let (entries, more) := sections rest
    ((path, v) :: entries, more)
  | .header h :: rest =>
    let (entries, more) := sections rest
    ([], ⟨h, entries⟩ :: more)

/-- A table with one more section. -/
def Table.addSection (t : Table) (s : Section) : Except Fault Table :=
  if s.header.ofList then t.update s.header.path (append s.entries)
  else t.update s.header.path (define s.entries)

/-- The table that statements describe. -/
def Table.ofStatements (statements : List Statement) : Except Fault Table := do
  let (entries, more) := sections statements
  let top ← assignAll [] entries
  more.foldlM addSection top

/-- The table that a whole text describes. -/
def read (s : String) : Except Fault Table :=
  match scan s.toList with
  | none => .error .malformed
  | some tokens => readStatements [] tokens >>= Table.ofStatements

end Toml

end PropertyGraph
