/-
# Classes of characters

Classes of characters are given by ranges of code points. Two classes are apart if the ranges of the
one lie within ranges that leave the other out.

The main statements say that letters and numbers of any script are no white space, and that letters
and digits of ASCII are among them.
-/
import GuidedXml.Text.Blank
import GuidedXml.Text.Category

namespace GuidedXml.Text

variable {c : Char}

/-- Ranges of code points without blanks and commas, those first that hold the most letters. -/
def solidRanges : List (Nat × Nat) :=
  [(0x3001, 0x10FFFF), (0xA1, 0x167F), (0x1681, 0x1FFF), (0x2060, 0x2FFF), (0x200B, 0x2027),
   (0x2030, 0x205E), (0x2D, 0x84), (0x86, 0x9F)]

/-- Whether each of the ranges lies within one of those without blanks and commas. -/
def areSolid (ranges : List (Nat × Nat)) : Bool :=
  ranges.all fun r => solidRanges.any fun g => Nat.ble g.1 r.1 && Nat.ble r.2 g.2

/-- No character of such ranges is white space or a comma. -/
theorem solid_of_covers {ranges : List (Nat × Nat)} (hranges : areSolid ranges = true)
    (hc : covers ranges c = true) : isBlank c = false ∧ c ≠ ',' := by
  have hsolid : ∀ n ∈ ','.toNat :: blanks, ∀ g ∈ solidRanges, ¬ (g.1 ≤ n ∧ n ≤ g.2) := by
    decide +kernel
  obtain ⟨r, hr, hle, hge⟩ := covers_iff.mp hc
  obtain ⟨g, hg, hin⟩ := List.any_eq_true.mp (List.all_eq_true.mp hranges r hr)
  rw [Bool.and_eq_true, Nat.ble_eq, Nat.ble_eq] at hin
  have hnot : c.toNat ∉ ','.toNat :: blanks := fun hmem =>
    hsolid _ hmem g hg ⟨Nat.le_trans hin.1 hle, Nat.le_trans hge hin.2⟩
  rw [List.mem_cons, not_or] at hnot
  exact ⟨by simpa [isBlank] using hnot.2, fun heq => hnot.1 (heq ▸ rfl)⟩

/-- The ranges of the alphabetic characters and of the numbers. -/
def alphanumericRanges : List (Nat × Nat) :=
  (Category.letters ++ [Category.letterNumber]).flatMap Category.ranges ++
    Category.Ranges.otherAlphabetic ++ Category.numbers.flatMap Category.ranges

theorem isAlphanumeric_eq_covers (c : Char) : isAlphanumeric c = covers alphanumericRanges c := by
  simp [isAlphanumeric, isAlphabetic, isNumeric, alphanumericRanges, covers, inCategories,
    Category.holds, Category.letters, Category.numbers, Bool.or_assoc]

theorem isBlank_of_isAlphanumeric (hc : isAlphanumeric c = true) : isBlank c = false := by
  have hranges : areSolid alphanumericRanges = true := by decide +kernel
  rw [isAlphanumeric_eq_covers] at hc
  exact (solid_of_covers hranges hc).1

/-- Letters and digits of ASCII are alphanumeric. -/
theorem isAlphanumeric_of_isAlphanum (hc : c.isAlphanum = true) : isAlphanumeric c = true := by
  have hrange : (0x41 ≤ c.toNat ∧ c.toNat ≤ 0x5A) ∨ (0x61 ≤ c.toNat ∧ c.toNat ≤ 0x7A) ∨
      (0x30 ≤ c.toNat ∧ c.toNat ≤ 0x39) := by
    have hcases : (c.isUpper || c.isLower || c.isDigit) = true := hc
    rw [Bool.or_eq_true, Bool.or_eq_true, or_assoc] at hcases
    have hand : ∀ {p q : Prop} [Decidable p] [Decidable q], (decide p && decide q) = true → p ∧ q :=
      fun h => by simpa using h
    exact hcases.imp of_decide_eq_true (Or.imp hand hand)
  have hof : ∀ r ∈ alphanumericRanges, r.1 ≤ c.toNat ∧ c.toNat ≤ r.2 → isAlphanumeric c = true := by
    intro r hr hin
    rw [isAlphanumeric_eq_covers, covers_iff]
    exact ⟨r, hr, hin⟩
  rcases hrange with hin | hin | hin
  · exact hof (0x41, 0x5A) (by decide +kernel) hin
  · exact hof (0x61, 0x7A) (by decide +kernel) hin
  · exact hof (0x30, 0x39) (by decide +kernel) hin

end GuidedXml.Text
