import PropertyGraph.Json.Lexeme
import PropertyGraph.Json.Number

/-!
# Reading a JSON text

One reader serves every purpose. It is told what is accepted at a place, so a text
that has to be a list of objects is refused at the first item that is no object,
while the rest of the text is still unread.

- `Json.nextItem`, `Json.nextMember`: find the next item of a list or the next
  member of an object, or the end.
- `Json.readValue`, `Json.readItems`, `Json.readMembers`: values, and what stands
  between brackets. At most `Json.depthLimit` brackets may be open.
- `Json.read`: a whole text that holds one value.

Every reader answers with the bytes it leaves, and a proof that they are fewer.
-/

namespace PropertyGraph

namespace Json

/-- How many brackets may be open at once. -/
def depthLimit : Nat := 127

/-- What follows in a list or an object: its end, with the bytes after the bracket, or
an entry, with the bytes from its first one on. -/
inductive Next where
  | stop (rest : Bytes)
  | entry (start : Bytes)

/-- After a comma in a list, an item has to follow. -/
def itemAfterComma (s : Bytes) : Except Fault Next :=
  match skipBlanks s with
  | [] => .error ⟨.endOfValue, 0⟩
  | b :: t => if b = 0x5D then .error ⟨.trailingComma, t.length⟩ else .ok (.entry (b :: t))

/-- Find the next item of a list. Before the first one there is no comma. -/
def nextItem (first : Bool) (s : Bytes) : Except Fault Next :=
  match skipBlanks s with
  | [] => .error ⟨.endOfList, 0⟩
  | b :: t =>
    if b = 0x5D then .ok (.stop t)
    else if first then .ok (.entry (b :: t))
    else if b = 0x2C then itemAfterComma t
    else .error ⟨.expectedListEnd, t.length⟩

/-- After a comma in an object, a name has to follow. -/
def memberAfterComma (s : Bytes) : Except Fault Next :=
  match skipBlanks s with
  | [] => .error ⟨.endOfValue, 0⟩
  | b :: t =>
    if b = 0x22 then .ok (.entry t)
    else if b = 0x7D then .error ⟨.trailingComma, t.length⟩
    else .error ⟨.keyNotString, t.length⟩

/-- Find the next member of an object; its bytes start after the quote of its name. -/
def nextMember (first : Bool) (s : Bytes) : Except Fault Next :=
  match skipBlanks s with
  | [] => .error ⟨.endOfObject, 0⟩
  | b :: t =>
    if b = 0x7D then .ok (.stop t)
    else if first then
      if b = 0x22 then .ok (.entry t) else .error ⟨.keyNotString, t.length⟩
    else if b = 0x2C then memberAfterComma t
    else .error ⟨.expectedObjectEnd, t.length⟩

/-- Read the colon between a name and its value. -/
def readColon (s : Bytes) : Except Fault Bytes :=
  match skipBlanks s with
  | [] => .error ⟨.endOfObject, 0⟩
  | b :: t => if b = 0x3A then .ok t else .error ⟨.expectedColon, t.length⟩

/-- Read the name of a member, after its opening quote, and the colon. -/
def readName (s : Bytes) : Except Fault (String × Bytes) :=
  match readString s with
  | .error f => .error f
  | .ok (name, s) =>
    match readColon s with
    | .error f => .error f
    | .ok rest => .ok (name, rest)

/-- Read a value that is neither a list nor an object, from its first byte on. -/
def readScalar (b : UInt8) (t : Bytes) : Except Fault (Json × Bytes) :=
  if b = 0x22 then (readString t).map fun (s, rest) => (.string s, rest)
  else if b = 0x2D then (readNumber true t).map fun (n, rest) => (.number n, rest)
  else if isDigit b then (readNumber false (b :: t)).map fun (n, rest) => (.number n, rest)
  else if b = 0x6E then (readWord [0x75, 0x6C, 0x6C] t).map fun rest => (.null, rest)
  else if b = 0x74 then (readWord [0x72, 0x75, 0x65] t).map fun rest => (.bool true, rest)
  else if b = 0x66 then (readWord [0x61, 0x6C, 0x73, 0x65] t).map fun rest => (.bool false, rest)
  else .error ⟨.expectedValue, t.length⟩

/-- Accept a scalar where any value is accepted. -/
def acceptScalar (expected : Expected) (v : Json) (rest : Bytes) : Except Fault (Json × Bytes) :=
  if expected = .value then .ok (v, rest) else .error ⟨.mismatch v.form expected, rest.length⟩

/-! ## What is left is shorter -/

theorem skipBlanks_cons_length {s t : Bytes} {b : UInt8} (h : skipBlanks s = b :: t) :
    t.length < s.length := by
  have := skipBlanks_length s
  rw [h] at this
  exact this

/-- The bytes of an entry are no more than there were, those after the end are fewer. -/
def Next.Within (s : Bytes) : Next → Prop
  | .stop rest => rest.length < s.length
  | .entry start => start.length ≤ s.length

theorem nextItem_within {first : Bool} {s : Bytes} {n : Next} (h : nextItem first s = .ok n) :
    n.Within s := by
  unfold nextItem at h
  split at h
  · cases h
  · next b t heq =>
    have hl := skipBlanks_cons_length heq
    split at h
    · cases h
      exact hl
    · split at h
      · cases h
        exact hl
      · split at h
        · unfold itemAfterComma at h
          split at h
          · cases h
          · next c u heq' =>
            have hu := skipBlanks_cons_length heq'
            split at h <;> cases h
            exact Nat.le_of_lt (Nat.lt_of_le_of_lt hu hl)
        · cases h

theorem nextMember_within {first : Bool} {s : Bytes} {n : Next}
    (h : nextMember first s = .ok n) : n.Within s := by
  unfold nextMember at h
  split at h
  · cases h
  · next b t heq =>
    have hl := skipBlanks_cons_length heq
    split at h
    · cases h
      exact hl
    · split at h
      · split at h <;> cases h
        exact Nat.le_of_lt hl
      · split at h
        · unfold memberAfterComma at h
          split at h
          · cases h
          · next c u heq' =>
            have hu := skipBlanks_cons_length heq'
            split at h
            · cases h
              exact Nat.le_of_lt (Nat.lt_trans hu hl)
            · split at h <;> cases h
        · cases h

theorem readColon_length {s r : Bytes} (h : readColon s = .ok r) : r.length < s.length := by
  unfold readColon at h
  split at h
  · cases h
  · next heq =>
    split at h <;> cases h
    exact skipBlanks_cons_length heq

theorem readName_length {s r : Bytes} {name : String} (h : readName s = .ok (name, r)) :
    r.length < s.length := by
  unfold readName at h
  split at h
  · cases h
  · next heq =>
    split at h <;> cases h
    next heq' => exact Nat.lt_trans (readColon_length heq') (readString_length heq)

/-- A mapped result is the image of a result. -/
theorem map_eq_ok {α β : Type} {x : Except Fault α} {f : α → β} {y : β}
    (h : x.map f = .ok y) : ∃ a, x = .ok a ∧ f a = y := by
  cases x with
  | error e => cases h
  | ok a => exact ⟨a, rfl, Except.ok.inj h⟩

theorem readScalar_length {b : UInt8} {t r : Bytes} {v : Json}
    (h : readScalar b t = .ok (v, r)) : r.length ≤ t.length := by
  unfold readScalar at h
  split at h
  · obtain ⟨⟨s, rest⟩, hread, heq⟩ := map_eq_ok h
    cases heq
    exact Nat.le_of_lt (readString_length hread)
  split at h
  · obtain ⟨⟨n, rest⟩, hread, heq⟩ := map_eq_ok h
    cases heq
    exact Nat.le_of_lt (readNumber_length hread)
  split at h
  · obtain ⟨⟨n, rest⟩, hread, heq⟩ := map_eq_ok h
    cases heq
    exact Nat.le_of_lt_succ (readNumber_length hread)
  split at h
  · obtain ⟨rest, hread, heq⟩ := map_eq_ok h
    cases heq
    exact readWord_length hread
  split at h
  · obtain ⟨rest, hread, heq⟩ := map_eq_ok h
    cases heq
    exact readWord_length hread
  split at h
  · obtain ⟨rest, hread, heq⟩ := map_eq_ok h
    cases heq
    exact readWord_length hread
  · cases h

theorem acceptScalar_eq {expected : Expected} {v w : Json} {rest r : Bytes}
    (h : acceptScalar expected v rest = .ok (w, r)) : expected = .value ∧ w = v ∧ r = rest := by
  unfold acceptScalar at h
  split at h <;> cases h
  next he => exact ⟨he, rfl, rfl⟩

/-! ## Values -/

/-- The bytes a reader leaves of `s`. -/
abbrev Left (s : Bytes) := { r : Bytes // r.length < s.length }

mutual

/-- Read a value that is expected to be of a given form, inside brackets of which
`depth` more may be opened. -/
def readValue (expected : Expected) (depth : Nat) (s : Bytes) : Except Fault (Json × Left s) :=
  match hs : skipBlanks s with
  | [] => .error ⟨.endOfValue, 0⟩
  | b :: t =>
    if b = 0x5B then
      if expected.allowsList then
        match depth with
        | 0 => .error ⟨.tooDeep, t.length⟩
        | depth + 1 =>
          match readItems expected.items depth true [] t with
          | .error f => .error f
          | .ok (items, rest) =>
            .ok (.array items, ⟨rest, Nat.lt_trans rest.2 (skipBlanks_cons_length hs)⟩)
      else .error ⟨.mismatch .sequence expected, t.length + 1⟩
    else if b = 0x7B then
      if expected.allowsObject then
        match depth with
        | 0 => .error ⟨.tooDeep, t.length⟩
        | depth + 1 =>
          match readMembers depth true [] t with
          | .error f => .error f
          | .ok (members, rest) =>
            .ok (ofBindings members, ⟨rest, Nat.lt_trans rest.2 (skipBlanks_cons_length hs)⟩)
      else .error ⟨.mismatch .map expected, t.length + 1⟩
    else
      match hv : readScalar b t with
      | .error f => .error f
      | .ok (v, rest) =>
        match ha : acceptScalar expected v rest with
        | .error f => .error f
        | .ok (w, rest') =>
          .ok (w, ⟨rest', by
            rw [(acceptScalar_eq ha).2.2]
            exact Nat.lt_of_le_of_lt (readScalar_length hv) (skipBlanks_cons_length hs)⟩)
termination_by (s.length, 0)
decreasing_by all_goals exact Prod.Lex.left _ _ (skipBlanks_cons_length hs)

/-- Read the items of a list up to its end. `acc` holds those read so far, last first. -/
def readItems (expected : Expected) (depth : Nat) (first : Bool) (acc : List Json) (s : Bytes) :
    Except Fault (List Json × Left s) :=
  match hn : nextItem first s with
  | .error f => .error f
  | .ok (.stop rest) => .ok (acc.reverse, ⟨rest, nextItem_within hn⟩)
  | .ok (.entry start) =>
    match readValue expected depth start with
    | .error f => .error f
    | .ok (v, rest) =>
      match readItems expected depth false (v :: acc) rest with
      | .error f => .error f
      | .ok (items, rest') =>
        .ok (items, ⟨rest', Nat.lt_trans rest'.2 (Nat.lt_of_lt_of_le rest.2 (nextItem_within hn))⟩)
termination_by (s.length, 1)
decreasing_by
  · rcases Nat.lt_or_eq_of_le (nextItem_within hn) with h | h
    · exact Prod.Lex.left _ _ h
    · rw [h]
      exact Prod.Lex.right _ (by decide)
  · exact Prod.Lex.left _ _ (Nat.lt_of_lt_of_le rest.2 (nextItem_within hn))

/-- Read the members of an object up to its end. `acc` holds those read so far, last first. -/
def readMembers (depth : Nat) (first : Bool) (acc : Bindings Json) (s : Bytes) :
    Except Fault (Bindings Json × Left s) :=
  match hn : nextMember first s with
  | .error f => .error f
  | .ok (.stop rest) => .ok (acc.reverse, ⟨rest, nextMember_within hn⟩)
  | .ok (.entry start) =>
    match hm : readName start with
    | .error f => .error f
    | .ok (name, s') =>
      match readValue .value depth s' with
      | .error f => .error f
      | .ok (v, rest) =>
        match readMembers depth false ((name, v) :: acc) rest with
        | .error f => .error f
        | .ok (members, rest') =>
          .ok (members, ⟨rest', Nat.lt_trans rest'.2 (Nat.lt_trans rest.2
            (Nat.lt_of_lt_of_le (readName_length hm) (nextMember_within hn)))⟩)
termination_by (s.length, 1)
decreasing_by
  · exact Prod.Lex.left _ _ (Nat.lt_of_lt_of_le (readName_length hm) (nextMember_within hn))
  · exact Prod.Lex.left _ _ (Nat.lt_trans rest.2
      (Nat.lt_of_lt_of_le (readName_length hm) (nextMember_within hn)))

end

/-- Read a whole text that holds one value of the expected form. -/
def read (expected : Expected) (s : Bytes) : Except Fault Json :=
  match readValue expected depthLimit s with
  | .error f => .error f
  | .ok (v, rest) =>
    match skipBlanks rest with
    | [] => .ok v
    | _ :: t => .error ⟨.trailingCharacters, t.length⟩

end Json

end PropertyGraph
