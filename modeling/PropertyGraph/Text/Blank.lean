import PropertyGraph.Text.Ranges

/-!
# White space

The characters with the Unicode property White_Space, which parameters may carry
at either end.

- `isBlank`: membership. `isBlank_iff`: the search for it passes over no range.
- `trimBlanks`: a text without its leading and trailing white space.
-/

namespace PropertyGraph

/-- The code points of white space. -/
def blankRanges : List (Nat × Nat) :=
  [(0x9, 0xD), (0x20, 0x20), (0x85, 0x85), (0xA0, 0xA0), (0x1680, 0x1680), (0x2000, 0x200A),
   (0x2028, 0x2029), (0x202F, 0x202F), (0x205F, 0x205F), (0x3000, 0x3000)]

/-- Whether a character is white space. -/
def isBlank (c : Char) : Bool := inRanges c.toNat blankRanges

theorem isBlank_iff {c : Char} :
    isBlank c = true ↔ ∃ r ∈ blankRanges, r.1 ≤ c.toNat ∧ c.toNat ≤ r.2 :=
  inRanges_iff (by decide : ascendingFrom 0 blankRanges = true)

/-- A text without the white space at its ends. -/
def trimBlanks (cs : List Char) : List Char :=
  ((cs.dropWhile isBlank).reverse.dropWhile isBlank).reverse

end PropertyGraph
