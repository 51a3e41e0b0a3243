/-
# Facets on digits

A value is read as a binary number, and the digits of the shortest decimal of that number are counted,
all of them or those after the point. A facet on digits asks for exactly as many as it says.

The main statement says when a value that obeys such a facet obeys the facet for a larger number, too:
never, unless the number is the same.
-/
import GuidedXml.Proofs.Number.Reading
import GuidedXml.Proofs.Number.Shortest
import GuidedXml.Proofs.Text.Classes
import GuidedXml.Proofs.Text.Joining
import GuidedXml.Schema.Validity

namespace GuidedXml.Schema

open Number

variable {f : Facet} {n m : ℕ} {s : ℚ} {value : String}

/-! ## What the facets count -/

/-- The value is a finite number whose magnitude is written as the decimal `s`. -/
def IsDecimalOf (value : String) (s : ℚ) : Prop :=
  ∃ x, readFloat? (Text.trim value.toList) = some x ∧ x.isFinite = true ∧ IsWrittenAs x s

/-- The facet counts `n` digits in the decimal `s`: all of them, or those after the point. -/
def Facet.Counts (f : Facet) (s : ℚ) (n : ℕ) : Prop :=
  match f with
  | totalDigits => ∃ w p, HasWholeDigits s w ∧ HasPlaces s p ∧ w + p = n
  | fractionDigits => HasPlaces s n
  | _ => False

/-- A text is the text of one decimal at most. -/
theorem IsDecimalOf.unique {t : ℚ} (hs : IsDecimalOf value s) (ht : IsDecimalOf value t) :
    s = t := by
  obtain ⟨x, hread, -, hx⟩ := hs
  obtain ⟨y, hread', -, hy⟩ := ht
  obtain rfl := Option.some.inj (hread.symm.trans hread')
  exact hx.unique hy

/-- A facet counts one number of digits in a decimal. -/
theorem Facet.Counts.unique (hn : f.Counts s n) (hm : f.Counts s m) : n = m := by
  cases f with
  | totalDigits =>
    obtain ⟨w, p, hw, hp, rfl⟩ := hn
    obtain ⟨w', p', hw', hp', rfl⟩ := hm
    rw [hw.unique hw', hp.unique hp']
  | fractionDigits => exact IsLeast.unique hn hm
  | _ => exact hn.elim

/-! ## Values that obey a facet -/

/-- A number in a facet is read as it is written, unless it takes more than 64 bits. -/
theorem readNat?_trim_toString (n : ℕ) :
    readNat? maxWord64 (Text.trim (toString n).toList) =
      if n ≤ maxWord64 then some n else none := by
  have hblank : ∀ c ∈ (toString n).toList, Text.isBlank c = false := by
    intro c hc
    have hdigit : c.isDigit = true := (isDigits_iff.mp (isDigits_toString n)).2 c hc
    apply Text.isBlank_of_isAlphanumeric
    apply Text.isAlphanumeric_of_isAlphanum
    rw [Char.isAlphanum, hdigit, Bool.or_true]
  rw [Text.trim_eq_self hblank, readNat?_toString]

/-- A limit on digits is obeyed exactly if it is in range and the count of the number's digits
equals it. -/
theorem obeysDigits_iff {count : ℕ × ℕ → ℕ} {cs : List Char} :
    obeysDigits count (toString n) cs = true ↔ n ≤ maxWord64 ∧
      ∃ x, readFloat? (Text.trim cs) = some x ∧ x.isFinite = true ∧ count (digitCounts x) = n := by
  rw [obeysDigits, readNat?_trim_toString]
  cases readFloat? (Text.trim cs) with
  | none => simp
  | some x =>
    by_cases hn : n ≤ maxWord64
    · simp [hn]
    · simp [hn]

/-- Whatever counts the digits that a facet counts, a value obeys the facet if it is a finite number
with as many of them. -/
theorem obeysDigits_iff_counts (count : ℕ × ℕ → ℕ)
    (hcount : ∀ x s, IsWrittenAs x s → f.Counts s (count (digitCounts x))) :
    obeysDigits count (toString n) value.toList = true ↔
      n ≤ maxWord64 ∧ ∃ s, IsDecimalOf value s ∧ f.Counts s n := by
  rw [obeysDigits_iff]
  refine and_congr_right fun _ => ⟨?_, ?_⟩
  · rintro ⟨x, hread, hfinite, rfl⟩
    obtain ⟨s, hs⟩ := exists_isWrittenAs x
    exact ⟨s, ⟨x, hread, hfinite, hs⟩, hcount x s hs⟩
  · rintro ⟨s, ⟨x, hread, hfinite, hs⟩, hn⟩
    exact ⟨x, hread, hfinite, (hcount x s hs).unique hn⟩

/-- A facet on digits is obeyed exactly if it counts as many as it says. -/
theorem obeysFacet_iff_counts (hf : f = .totalDigits ∨ f = .fractionDigits) (base : Builtin) :
    obeysFacet base f (toString n) value.toList = true ↔
      n ≤ maxWord64 ∧ ∃ s, IsDecimalOf value s ∧ f.Counts s n := by
  rcases hf with rfl | rfl
  · rw [obeysFacet]
    refine obeysDigits_iff_counts _ fun x s hs => ?_
    obtain ⟨hwhole, hplaces⟩ := digitCounts_of_isWrittenAs hs
    exact ⟨_, _, hwhole, hplaces, rfl⟩
  · rw [obeysFacet]
    exact obeysDigits_iff_counts _ fun x s hs => (digitCounts_of_isWrittenAs hs).2

/-! ## Decimals with one facet -/

/-- The decimals of which the facet `f` asks for `n` digits. -/
def byDigits (f : Facet) (n : ℕ) : Restriction where
  base := "decimal"
  facets := Table.empty.insert f (toString n)

/-- A type restricted by a facet on digits accepts what obeys the facet. -/
theorem accepts_byDigits (f : Facet) (n : ℕ) (value : String) :
    (byDigits f n).accepts value = obeysFacet .decimal f (toString n) value.toList := by
  have hget : ∀ g, (byDigits f n).get? g = if g = f then some (toString n) else none := fun g =>
    Table.get?_insert _ f g _
  have hbase : Builtin.named? (byDigits f n).base = some .decimal := Builtin.named?_name .decimal
  rw [Restriction.accepts, hbase]
  simp only [hget]
  cases f <;> simp [byDigits, Facet.all]

/-- A value obeys a facet on digits if it is a finite number whose shortest decimal has exactly as
many digits as the facet says. -/
theorem accepts_byDigits_iff (hf : f = .totalDigits ∨ f = .fractionDigits) :
    (byDigits f n).accepts value = true ↔
      n ≤ maxWord64 ∧ ∃ s, IsDecimalOf value s ∧ f.Counts s n := by
  rw [accepts_byDigits, obeysFacet_iff_counts hf]

/-- A value that obeys a facet on digits obeys the facet for a number that is not smaller only if it
is the same number; otherwise the value must not have obeyed the facet at all. -/
theorem obeys_raised_iff (hf : f = .totalDigits ∨ f = .fractionDigits) (hnm : n ≤ m)
    (value : String) :
    ((byDigits f n).accepts value = true → (byDigits f m).accepts value = true) ↔
      n = m ∨ maxWord64 < n ∨ ∀ s, IsDecimalOf value s → ¬ f.Counts s n := by
  rw [accepts_byDigits_iff hf, accepts_byDigits_iff hf]
  constructor
  · intro hraised
    by_cases hn : n ≤ maxWord64
    · by_cases hcounts : ∃ s, IsDecimalOf value s ∧ f.Counts s n
      -- the value has one decimal, in which the facet counts one number: both limits are it
      · obtain ⟨s, hs, hcount⟩ := hcounts
        obtain ⟨-, t, ht, hcount'⟩ := hraised ⟨hn, s, hs, hcount⟩
        obtain rfl := hs.unique ht
        exact Or.inl (hcount.unique hcount')
      · exact Or.inr (Or.inr fun s hs hcount => hcounts ⟨s, hs, hcount⟩)
    · exact Or.inr (Or.inl (not_le.mp hn))
  · rintro (rfl | hlarge | hnone)
    · exact id
    · exact fun h => absurd h.1 (not_le.mpr hlarge)
    · rintro ⟨-, s, hs, hcount⟩
      exact absurd hcount (hnone s hs)

/-- The price of 12.50 has one digit after the point: a facet that asks for one is obeyed, a facet that
asks for two is not. -/
theorem price_of_one_place :
    (Facet.fractionDigits = .totalDigits ∨ Facet.fractionDigits = .fractionDigits) ∧ 1 ≤ 2 ∧
      ((byDigits .fractionDigits 1).accepts "12.50" = true ∧
        (byDigits .fractionDigits 2).accepts "12.50" = false) ∧
      ∃ s, IsDecimalOf "12.50" s ∧ Facet.fractionDigits.Counts s 1 := by
  have hone : (byDigits .fractionDigits 1).accepts "12.50" = true := by decide +kernel
  have htwo : (byDigits .fractionDigits 2).accepts "12.50" = false := by decide +kernel
  have hnot : ¬ ((byDigits .fractionDigits 1).accepts "12.50" = true →
      (byDigits .fractionDigits 2).accepts "12.50" = true) := by simp [hone, htwo]
  have hfails := mt (obeys_raised_iff (Or.inr rfl) (by decide : 1 ≤ 2) "12.50").mpr hnot
  push Not at hfails
  exact ⟨Or.inr rfl, by decide, ⟨hone, htwo⟩, hfails.2.2⟩

/-- A value that a facet takes is refused when the facet is raised: 7 has one digit and not two, and 42
has no digit after the point and not one. -/
theorem refused_when_raised :
    ((byDigits .totalDigits 1).accepts "7" = true ∧ (byDigits .totalDigits 2).accepts "7" = false) ∧
      (byDigits .fractionDigits 0).accepts "42" = true ∧
        (byDigits .fractionDigits 1).accepts "42" = false := by
  decide +kernel

end GuidedXml.Schema
