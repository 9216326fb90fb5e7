import PropertyGraph.Proofs.JsonLexemes
import PropertyGraph.Request.Body
import PropertyGraph.Request.Error

/-!
# Texts on one line

The wording of an error is one line of an answer and of the log as long as no character in it
ends a line. Numbers and quoted texts never have such a character; a text that is repeated as it
is may have one.

- `SingleLine`: no character of a text ends a line. `singleLine_append`: a text is put together
  from single lines.
- `singleLine_quoted`: **quoting keeps a text on one line**, whatever is in it.
- `BodyFault.singleLine_message`: what is wrong with a body is said on one line.
- `RequestError.quoted`: the texts that an error repeats as they are.
-/

namespace PropertyGraph

/-- A character that does not end a line. -/
def OnLine (c : Char) : Prop := c ≠ '\n' ∧ c ≠ '\r'

instance : DecidablePred OnLine := fun c => inferInstanceAs (Decidable (c ≠ '\n' ∧ c ≠ '\r'))

-- the list is gone through, and not all the characters there are
instance (cs : List Char) : Decidable (∀ c ∈ cs, OnLine c) := List.decidableBAll OnLine cs

/-- A text without a line end. -/
def SingleLine (s : String) : Prop := ∀ c ∈ s.toList, OnLine c

instance : DecidablePred SingleLine :=
  fun s => inferInstanceAs (Decidable (∀ c ∈ s.toList, OnLine c))

theorem singleLine_append {s t : String} :
    SingleLine (s ++ t) ↔ SingleLine s ∧ SingleLine t := by
  simp only [SingleLine, String.toList_append, List.forall_mem_append]

/-- Between fixed single lines the two texts count that are put there. -/
theorem singleLine_around {a b c s t : String} (ha : SingleLine a) (hb : SingleLine b)
    (hc : SingleLine c) : SingleLine (a ++ s ++ b ++ t ++ c) ↔ SingleLine s ∧ SingleLine t := by
  simp only [singleLine_append, ha, hb, hc, true_and, and_true]

theorem singleLine_ofList {cs : List Char} :
    SingleLine (String.ofList cs) ↔ ∀ c ∈ cs, OnLine c := by
  rw [SingleLine, String.toList_ofList]

/-! ## Numbers -/

theorem onLine_digitChar : ∀ d < 16, OnLine (digitChar d) := by decide

theorem onLine_digitsIn {base n : Nat} {h : 2 ≤ base} (hbase : base ≤ 16) :
    ∀ c ∈ (digitsIn base h n).map digitChar, OnLine c := by
  intro c hc
  obtain ⟨d, hd, rfl⟩ := List.mem_map.1 hc
  exact onLine_digitChar d (Nat.lt_of_lt_of_le (Json.lt_of_mem_digitsIn hd) hbase)

theorem onLine_digits (n : Nat) : ∀ c ∈ digits n, OnLine c := onLine_digitsIn (by decide)

theorem singleLine_decimal (n : Nat) : SingleLine (decimal n) :=
  singleLine_ofList.2 (onLine_digits n)

theorem onLine_signedDigits (i : Int) : ∀ c ∈ signedDigits i, OnLine c := by
  unfold signedDigits
  split
  · exact List.forall_mem_cons.2 ⟨by decide, onLine_digits _⟩
  · exact onLine_digits _

theorem onLine_replicate_zero (n : Nat) : ∀ c ∈ List.replicate n '0', OnLine c := by
  intro c hc
  rw [List.eq_of_mem_replicate hc]
  decide

namespace Binary64

/-- Wherever the point goes, digits stay on their line. -/
theorem onLine_layOut {ds : List Char} (h : ∀ c ∈ ds, OnLine c) (p : Int) :
    ∀ c ∈ layOut ds p, OnLine c := by
  have htake : ∀ n, ∀ c ∈ ds.take n, OnLine c := fun n c hc => h c (List.mem_of_mem_take hc)
  have hdrop : ∀ n, ∀ c ∈ ds.drop n, OnLine c := fun n c hc => h c (List.mem_of_mem_drop hc)
  have hsign : ∀ e : Int, OnLine (if e < 0 then '-' else '+') := by
    intro e
    split <;> decide
  intro c hc
  simp only [layOut] at hc
  by_cases hplain : -5 < ds.length + p ∧ ds.length + p ≤ 16
  · rw [if_pos hplain] at hc
    by_cases hpoint : ds.length + p ≤ 0
    · rw [if_pos hpoint] at hc
      refine List.forall_mem_append.2 ⟨?_, h⟩ c hc
      simp only [List.forall_mem_cons]
      exact ⟨by decide, by decide, onLine_replicate_zero _⟩
    · rw [if_neg hpoint] at hc
      by_cases hwhole : 0 ≤ p
      · rw [if_pos hwhole] at hc
        refine List.forall_mem_append.2 ⟨?_, by decide⟩ c hc
        exact List.forall_mem_append.2 ⟨h, onLine_replicate_zero _⟩
      · rw [if_neg hwhole] at hc
        refine List.forall_mem_append.2 ⟨htake _, ?_⟩ c hc
        exact List.forall_mem_cons.2 ⟨by decide, hdrop _⟩
  · rw [if_neg hplain] at hc
    refine List.forall_mem_append.2 ⟨List.forall_mem_append.2 ⟨htake 1, ?_⟩, ?_⟩ c hc
    · split
      · exact List.forall_mem_nil _
      · exact List.forall_mem_cons.2 ⟨by decide, hdrop 1⟩
    · simp only [List.forall_mem_cons]
      exact ⟨by decide, hsign _, onLine_digits _⟩

theorem onLine_text (x : Binary64) : ∀ c ∈ x.text, OnLine c := by
  have hsign : ∀ c ∈ (if x.isNegative then ['-'] else []), OnLine c := by split <;> decide
  intro c hc
  simp only [text] at hc
  by_cases hzero : x.isZero
  · rw [if_pos hzero] at hc
    exact List.forall_mem_append.2 ⟨hsign, by decide⟩ c hc
  · rw [if_neg hzero] at hc
    exact List.forall_mem_append.2 ⟨hsign, onLine_layOut (onLine_digits _) _⟩ c hc

end Binary64

/-! ## Quoted texts -/

/-- A character that ends a line is spelled by a letter. -/
theorem onLine_escape (c : Char) : ∀ x ∈ Quoted.escape c, OnLine x := by
  unfold Quoted.escape
  split
  · decide
  split
  · decide
  split
  · decide
  split
  · decide
  split
  · decide
  split
  · decide
  split
  · simp only [List.forall_mem_append]
    exact ⟨⟨by decide, onLine_digitsIn (by decide)⟩, by decide⟩
  · next hreturn hfeed _ _ _ => exact List.forall_mem_singleton.2 ⟨hfeed, hreturn⟩

/-- **Quoting keeps a text on one line.** -/
theorem singleLine_quoted (s : String) : SingleLine (quoted s) := by
  refine singleLine_ofList.2 ?_
  simp only [List.cons_append, List.forall_mem_cons, List.forall_mem_append]
  refine ⟨by decide, fun x hx => ?_, by decide⟩
  obtain ⟨c, -, hx⟩ := List.mem_flatMap.1 hx
  exact onLine_escape c x hx

/-! ## What is wrong with a body -/

namespace Json

theorem Form.singleLine_words (f : Form) : SingleLine f.words := by
  cases f with
  | boolean b => cases b <;> decide
  | integer i =>
    have hdigits := singleLine_ofList.2 (onLine_signedDigits i)
    exact singleLine_append.2 ⟨singleLine_append.2 ⟨by decide, hdigits⟩, by decide⟩
  | floatingPoint x =>
    have htext := singleLine_ofList.2 x.onLine_text
    exact singleLine_append.2 ⟨singleLine_append.2 ⟨by decide, htext⟩, by decide⟩
  | text s => exact singleLine_append.2 ⟨by decide, singleLine_quoted s⟩
  | null => decide
  | sequence => decide
  | map => decide

/-- A cause repeats a text of the body only in quotes. -/
theorem Cause.singleLine_message (c : Cause) : SingleLine c.message := by
  cases c with
  | mismatch found expected =>
    have hexpected : SingleLine expected.words := by cases expected <;> decide
    refine singleLine_append.2 ⟨singleLine_append.2 ⟨?_, by decide⟩, hexpected⟩
    exact singleLine_append.2 ⟨by decide, found.singleLine_words⟩
  | _ => decide

theorem Fault.singleLine_message (f : Fault) (s : Bytes) : SingleLine (f.message s) := by
  refine singleLine_append.2 ⟨singleLine_append.2 ⟨?_, by decide⟩, singleLine_decimal _⟩
  refine singleLine_append.2 ⟨singleLine_append.2 ⟨?_, by decide⟩, singleLine_decimal _⟩
  exact f.cause.singleLine_message

end Json

/-- **What is wrong with a body is said on one line**, whatever the body holds. -/
theorem BodyFault.singleLine_message (f : BodyFault) (target : BodyTarget) (body : Bytes) :
    SingleLine (f.message target body) := by
  have htarget : SingleLine target.expectation := by
    cases target with
    | graph => decide
    | entities entity => cases entity <;> decide
  refine singleLine_append.2 ⟨htarget, ?_⟩
  cases f with
  | text fault => exact fault.singleLine_message body
  | member cause => exact cause.singleLine_message

/-! ## Errors that repeat a text -/

theorem EntityType.singleLine_word (entity : EntityType) : SingleLine entity.word := by
  cases entity <;> decide

namespace StoreFault

/-- The texts that the wording of a fault repeats as they are. The attribute of an unusable value
is not one of them, for it is named by a word that is always the same. -/
def quoted : StoreFault → List String
  | .invalidPartition name => [name]
  | .invalidData _ _ => []
  | .missingEndpoint key kind => [key, kind]
  | .invalidSpec spec => [spec]
  | .storage text => [text]

/-- The attribute that a fault names, if it names one, is named on one line. -/
def NamesOnLine : StoreFault → Prop
  | .invalidData _ name => SingleLine name
  | _ => True

theorem singleLine_message_iff {f : StoreFault} (h : f.NamesOnLine) :
    SingleLine f.message ↔ ∀ t ∈ f.quoted, SingleLine t := by
  have hafter : ∀ {fixed text : String}, SingleLine fixed →
      (SingleLine (fixed ++ text) ↔ ∀ t ∈ [text], SingleLine t) := by
    intro fixed text hfixed
    rw [singleLine_append, List.forall_mem_singleton]
    exact and_iff_right hfixed
  cases f with
  | invalidPartition name => exact hafter (by decide)
  | invalidSpec spec => exact hafter (by decide)
  | storage text => exact hafter (by decide)
  | invalidData entity name =>
    refine iff_of_true ?_ (List.forall_mem_nil _)
    refine singleLine_append.2 ⟨singleLine_append.2 ⟨?_, h⟩, by decide⟩
    exact singleLine_append.2 ⟨entity.singleLine_word, by decide⟩
  | missingEndpoint key kind =>
    rw [quoted, List.forall_mem_cons, List.forall_mem_singleton]
    exact singleLine_around (by decide) (by decide) (by decide)

end StoreFault

namespace RequestError

/-- The texts of a request that the wording of an error repeats as they are. -/
def quoted : RequestError → List String
  | .invalidRequest _ => []
  | .malformedBody _ => []
  | .badItem _ _ kind key reason => key :: kind :: reason.quoted
  | .notFound _ => []
  | .fetchFailure reason => reason.quoted
  | .offsetOutOfRange _ _ => []
  | .commitFailure reason => reason.quoted

theorem singleLine_badItem_iff {entity : EntityType} {position : Nat} {kind key : String}
    {reason : StoreFault} (h : reason.NamesOnLine) :
    SingleLine (badItem entity position kind key reason).message ↔
      ∀ t ∈ (badItem entity position kind key reason).quoted, SingleLine t := by
  have hitem : SingleLine ("Could not apply " ++ entity.word ++ " #" ++ decimal position ++
      " (key: ") := by
    refine singleLine_append.2 ⟨singleLine_append.2 ⟨?_, singleLine_decimal _⟩, by decide⟩
    refine singleLine_append.2 ⟨singleLine_append.2 ⟨?_, entity.singleLine_word⟩, by decide⟩
    decide
  rw [quoted, List.forall_mem_cons, List.forall_mem_cons, ← StoreFault.singleLine_message_iff h,
    ← and_assoc]
  refine singleLine_append.trans (and_congr_left' ?_)
  exact singleLine_around hitem (by decide) (by decide)

end RequestError

end PropertyGraph
