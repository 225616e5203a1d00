/-!
# Membership in a table of ranges

Properties of characters are tables of closed ranges of code points. A character has the property
exactly when one of the ranges holds it.
-/

namespace BrokerWiring.Text

/-- Whether one of the closed ranges holds the code point of `c`. -/
def inRanges (ranges : List (Nat × Nat)) (c : Char) : Bool :=
  ranges.any fun range => range.1 ≤ c.toNat && c.toNat ≤ range.2

theorem inRanges_iff {ranges : List (Nat × Nat)} {c : Char} :
    inRanges ranges c = true ↔ ∃ range ∈ ranges, range.1 ≤ c.toNat ∧ c.toNat ≤ range.2 := by
  simp [inRanges]

end BrokerWiring.Text
