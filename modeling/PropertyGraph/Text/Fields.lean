/-!
# Fields between separators

Paths, traversal specs, queries and addresses are texts of fields with one
separator character between them.

- `fields`: the parts of a text between separators. There is one more part than
  there are separators (`length_fields`), so the empty text has one empty field.
- `joinFields`: the text with given fields.
- `joinFields_fields`: **splitting loses nothing**: joining the fields of a text
  gives the text back.
- `fields_joinFields`, `notMem_of_mem_fields`: fields without the separator are found
  again in the text that is made of them, and there are no other fields.
- `splitFirst`: the parts before and after the first separator.
-/

namespace PropertyGraph

/-- The parts of a list of characters between occurrences of `sep`. -/
def fieldChars (sep : Char) : List Char → List (List Char)
  | [] => [[]]
  | c :: rest =>
    if c = sep then [] :: fieldChars sep rest
    else
      match fieldChars sep rest with
      | [] => [[c]]
      | part :: parts => (c :: part) :: parts

/-- The parts of a text between occurrences of `sep`. -/
def fields (sep : Char) (s : String) : List String :=
  (fieldChars sep s.toList).map String.ofList

/-- The characters of parts written with `sep` between them. -/
def joinFieldChars (sep : Char) : List (List Char) → List Char
  | [] => []
  | [part] => part
  | part :: more => part ++ sep :: joinFieldChars sep more

/-- The text of fields written with `sep` between them. -/
def joinFields (sep : Char) (parts : List String) : String :=
  String.ofList (joinFieldChars sep (parts.map String.toList))

/-- The parts before and after the first `sep`; the second is absent without one. -/
def splitFirst (sep : Char) : List Char → List Char × Option (List Char)
  | [] => ([], none)
  | c :: rest =>
    if c = sep then ([], some rest)
    else
      let (before, after) := splitFirst sep rest
      (c :: before, after)

theorem fieldChars_ne_nil (sep : Char) (cs : List Char) : fieldChars sep cs ≠ [] := by
  cases cs with
  | nil => simp [fieldChars]
  | cons c rest =>
    rw [fieldChars]
    split
    · simp
    · split <;> simp

theorem length_fieldChars (sep : Char) (cs : List Char) :
    (fieldChars sep cs).length = cs.count sep + 1 := by
  induction cs with
  | nil => rfl
  | cons c rest ih =>
    rw [fieldChars, List.count_cons]
    split
    · next h => simp [h, ih]
    · next h =>
      cases hf : fieldChars sep rest with
      | nil => exact absurd hf (fieldChars_ne_nil sep rest)
      | cons part parts =>
        rw [hf] at ih
        simpa [h] using ih

/-- There is one more field than there are separators. -/
theorem length_fields (sep : Char) (s : String) :
    (fields sep s).length = s.toList.count sep + 1 := by
  rw [fields, List.length_map, length_fieldChars]

theorem joinFieldChars_fieldChars (sep : Char) (cs : List Char) :
    joinFieldChars sep (fieldChars sep cs) = cs := by
  induction cs with
  | nil => rfl
  | cons c rest ih =>
    rw [fieldChars]
    split
    · next h =>
      subst h
      cases hf : fieldChars c rest with
      | nil => exact absurd hf (fieldChars_ne_nil c rest)
      | cons part parts =>
        rw [hf] at ih
        rw [joinFieldChars, ih]
        · rfl
        · simp
    · cases hf : fieldChars sep rest with
      | nil => exact absurd hf (fieldChars_ne_nil sep rest)
      | cons part parts =>
        rw [hf] at ih
        cases parts with
        | nil => simpa [joinFieldChars] using ih
        | cons q qs => simpa [joinFieldChars] using ih

/-- **Splitting loses nothing**: the fields of a text, joined again, are the text. -/
theorem joinFields_fields (sep : Char) (s : String) : joinFields sep (fields sep s) = s := by
  simp [joinFields, fields, List.map_map, Function.comp_def, joinFieldChars_fieldChars]

/-! ## Fields and separators -/

theorem fieldChars_of_notMem {sep : Char} {cs : List Char} (h : sep ∉ cs) :
    fieldChars sep cs = [cs] := by
  induction cs with
  | nil => rfl
  | cons c rest ih =>
    obtain ⟨hc, hrest⟩ := not_or.1 (mt List.mem_cons.2 h)
    rw [fieldChars, if_neg (Ne.symm hc), ih hrest]

theorem fieldChars_append {sep : Char} {cs : List Char} (h : sep ∉ cs) (more : List Char) :
    fieldChars sep (cs ++ sep :: more) = cs :: fieldChars sep more := by
  induction cs with
  | nil => rw [List.nil_append, fieldChars, if_pos rfl]
  | cons c rest ih =>
    obtain ⟨hc, hrest⟩ := not_or.1 (mt List.mem_cons.2 h)
    rw [List.cons_append, fieldChars, if_neg (Ne.symm hc), ih hrest]

theorem fieldChars_joinFieldChars {sep : Char} {parts : List (List Char)} (hne : parts ≠ [])
    (h : ∀ part ∈ parts, sep ∉ part) : fieldChars sep (joinFieldChars sep parts) = parts := by
  induction parts with
  | nil => exact absurd rfl hne
  | cons part more ih =>
    obtain ⟨hpart, hmore⟩ := List.forall_mem_cons.1 h
    cases more with
    | nil => exact fieldChars_of_notMem hpart
    | cons next rest =>
      have hjoin : joinFieldChars sep (part :: next :: rest) =
          part ++ sep :: joinFieldChars sep (next :: rest) := rfl
      rw [hjoin, fieldChars_append hpart, ih (List.cons_ne_nil next rest) hmore]

/-- **Fields without the separator are found again** in the text that is made of them. -/
theorem fields_joinFields {sep : Char} {parts : List String} (hne : parts ≠ [])
    (h : ∀ part ∈ parts, sep ∉ part.toList) : fields sep (joinFields sep parts) = parts := by
  have hchars : ∀ part ∈ parts.map String.toList, sep ∉ part := List.forall_mem_map.2 h
  rw [fields, joinFields, String.toList_ofList,
    fieldChars_joinFieldChars (mt List.map_eq_nil_iff.1 hne) hchars, List.map_map]
  simp [Function.comp_def]

theorem notMem_of_mem_fieldChars {sep : Char} {cs part : List Char}
    (h : part ∈ fieldChars sep cs) : sep ∉ part := by
  induction cs generalizing part with
  | nil =>
    obtain rfl := List.mem_singleton.1 h
    exact List.not_mem_nil
  | cons c rest ih =>
    rw [fieldChars] at h
    split at h
    · rcases List.mem_cons.1 h with rfl | h
      · exact List.not_mem_nil
      · exact ih h
    · next hc =>
      cases hf : fieldChars sep rest with
      | nil => exact absurd hf (fieldChars_ne_nil sep rest)
      | cons first more =>
        rw [hf] at h ih
        rcases List.mem_cons.1 h with rfl | h
        · intro hmem
          rcases List.mem_cons.1 hmem with heq | hmem
          · exact hc heq.symm
          · exact ih List.mem_cons_self hmem
        · exact ih (List.mem_cons_of_mem _ h)

/-- No field has the separator in it. -/
theorem notMem_of_mem_fields {sep : Char} {s part : String} (h : part ∈ fields sep s) :
    sep ∉ part.toList := by
  obtain ⟨cs, hcs, rfl⟩ := List.mem_map.1 h
  rw [String.toList_ofList]
  exact notMem_of_mem_fieldChars hcs

end PropertyGraph
