/-
# Ranges of code points

A set of characters given by a list of ranges, and membership in it.
-/

namespace GuidedXml.Text

/-- Whether one of the ranges, both ends included, holds the character. -/
def covers (ranges : List (Nat × Nat)) (c : Char) : Bool :=
  ranges.any fun r => r.1 ≤ c.toNat && c.toNat ≤ r.2

/-- Ranges cover a character exactly if one of them has it between its ends. -/
theorem covers_iff {ranges : List (Nat × Nat)} {c : Char} :
    covers ranges c = true ↔ ∃ r ∈ ranges, r.1 ≤ c.toNat ∧ c.toNat ≤ r.2 := by
  simp [covers]

end GuidedXml.Text
