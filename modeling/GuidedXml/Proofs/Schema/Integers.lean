/-
# Values of integer types

The numerals that the integer types take. Each of these types has a range of integers, and its own
test of a text: by the form of the text, by its sign and zeros, by reading an integer within bounds,
or by comparing floating point numbers.

The main statement says that a text taken for an integer type is a numeral for an integer of its
range in all cases but two: zero with a plus sign is taken for a negative integer, and the integers
that are rounded to `2 ^ 64` are taken for an unsigned one of 64 bits.
-/
import GuidedXml.Proofs.Number.Reading
import GuidedXml.Proofs.Number.Rounding
import GuidedXml.Schema.Validity

namespace GuidedXml.Schema

open Number

variable {cs : List Char} {i : Int}

/-! ## Ranges -/

/-- A range of integers, without end where it has no bound. -/
structure IntegerRange where
  /-- The least integer of the range. -/
  least : Option Int := none
  /-- The greatest integer of the range. -/
  greatest : Option Int := none
  deriving DecidableEq, Repr

/-- Whether the integer lies in the range. -/
def IntegerRange.Holds (r : IntegerRange) (i : Int) : Prop :=
  (∀ least ∈ r.least, least ≤ i) ∧ ∀ greatest ∈ r.greatest, i ≤ greatest

/-- The range of a type of integers. -/
def Builtin.range? : Builtin → Option IntegerRange
  | integer => some {}
  | nonPositiveInteger => some { greatest := some 0 }
  | negativeInteger => some { greatest := some (-1) }
  | nonNegativeInteger => some { least := some 0 }
  | positiveInteger => some { least := some 1 }
  | long => some { least := some (-2 ^ 63), greatest := some (2 ^ 63 - 1) }
  | int => some { least := some (-2 ^ 31), greatest := some (2 ^ 31 - 1) }
  | short => some { least := some (-2 ^ 15), greatest := some (2 ^ 15 - 1) }
  | byte => some { least := some (-2 ^ 7), greatest := some (2 ^ 7 - 1) }
  | unsignedLong => some { least := some 0, greatest := some (2 ^ 64 - 1) }
  | unsignedInt => some { least := some 0, greatest := some (2 ^ 32 - 1) }
  | unsignedShort => some { least := some 0, greatest := some (2 ^ 16 - 1) }
  | unsignedByte => some { least := some 0, greatest := some (2 ^ 8 - 1) }
  | _ => none

/-- The types with a range are those that derive from the integers. -/
theorem Builtin.isSome_range?_iff (t : Builtin) : t.range?.isSome = t.derivesFrom .integer := by
  cases t <;> decide

/-! ## Forms of texts -/

/-- A text is that of an integer exactly if it denotes one. -/
theorem isIntegerText_iff : isIntegerText cs = true ↔ ∃ i, Denotes cs i := by
  simp only [isIntegerText, denotes_iff]
  exact ⟨fun h => ⟨_, h, rfl⟩, fun ⟨_, h, _⟩ => h⟩

/-- What is taken for an unsigned integer is a numeral for one, without a minus sign. -/
theorem isUnsignedText_iff :
    isUnsignedText cs = true ↔ ∃ i, Denotes cs i ∧ 0 ≤ i ∧ cs.head? ≠ some '-' := by
  unfold isUnsignedText
  constructor
  · intro h
    split at h
    · next hplus =>
      obtain ⟨ds, rfl⟩ := List.head?_eq_some_iff.mp hplus
      exact ⟨_, .plus h, by omega, by simp⟩
    · exact ⟨_, .plain h, by omega, head?_ne_of_isDigits h rfl⟩
  · rintro ⟨i, h, -, hminus⟩
    cases h with
    | plain h => rwa [if_neg (head?_ne_of_isDigits h rfl)]
    | plus h => exact h
    | minus h => simp at hminus

/-- What is taken for an integer within bounds is a numeral for one of these. -/
theorem isIntegerWithin_iff {min max : Int} :
    isIntegerWithin min max cs = true ↔ ∃ i, Denotes cs i ∧ min ≤ i ∧ i ≤ max := by
  simp only [isIntegerWithin, Option.isSome_iff_exists, readInt?_eq_some_iff]

/-! ## Signs and zeros -/

/-- Without a minus sign the integer is not negative. -/
theorem nonneg_of_denotes (h : Denotes cs i) (hsign : cs.head? ≠ some '-') : 0 ≤ i := by
  cases h with
  | plain _ => omega
  | plus _ => omega
  | minus _ => simp at hsign

/-- With a minus sign the integer is not positive. -/
theorem nonpos_of_denotes (h : Denotes cs i) (hsign : cs.head? = some '-') : i ≤ 0 := by
  cases h with
  | plain h => exact absurd hsign (head?_ne_of_isDigits h rfl)
  | plus _ => simp at hsign
  | minus _ => omega

/-- Digits are all zero exactly if their value is. -/
theorem all_digits_isZero_iff {sign : Char} (hsign : sign.isDigit = false) {ds : List Char}
    (h : isDigits ds = true) : isOnlyZeros sign ds = true ↔ digitsValue ds = 0 := by
  obtain ⟨-, hall⟩ := isDigits_iff.mp h
  rw [digitsValue_eq_zero_iff hall, isOnlyZeros, List.all_eq_true]
  refine forall₂_congr fun c hc => ?_
  have hne : c ≠ sign := fun heq => by
    rw [← heq, hall c hc] at hsign
    cases hsign
  simp [hne]

/-- A numeral is all zeros and the given sign exactly if it denotes zero and has no other sign. -/
theorem isOnlyZeros_iff {sign : Char} (hsign : sign.isDigit = false) (h : Denotes cs i) :
    isOnlyZeros sign cs = true ↔
      i = 0 ∧ (cs.head? = some '+' → sign = '+') ∧ (cs.head? = some '-' → sign = '-') := by
  cases h with
  | plain h =>
    rw [all_digits_isZero_iff hsign h]
    simp [head?_ne_of_isDigits h (c := '+') rfl, head?_ne_of_isDigits h (c := '-') rfl]
  | @plus ds h =>
    have hcons : isOnlyZeros sign ('+' :: ds) = (decide ('+' = sign) && isOnlyZeros sign ds) := by
      simp [isOnlyZeros]
    rw [hcons, Bool.and_eq_true, all_digits_isZero_iff hsign h]
    simp [eq_comm, and_comm]
  | @minus ds h =>
    have hcons : isOnlyZeros sign ('-' :: ds) = (decide ('-' = sign) && isOnlyZeros sign ds) := by
      simp [isOnlyZeros]
    rw [hcons, Bool.and_eq_true, all_digits_isZero_iff hsign h]
    simp [eq_comm, and_comm]

/-- What is taken for an integer not above zero is a numeral for one. -/
theorem isNonPositiveText_iff : isNonPositiveText cs = true ↔ ∃ i, Denotes cs i ∧ i ≤ 0 := by
  simp only [isNonPositiveText, Bool.and_eq_true, Bool.or_eq_true, decide_eq_true_eq,
    isIntegerText_iff]
  constructor
  · rintro ⟨⟨i, h⟩, hsign | hzeros⟩
    · exact ⟨i, h, nonpos_of_denotes h hsign⟩
    · exact ⟨i, h, Int.le_of_eq ((isOnlyZeros_iff rfl h).mp hzeros).1⟩
  · rintro ⟨i, h, hle⟩
    -- without a minus sign it is zero
    refine ⟨⟨i, h⟩, Classical.or_iff_not_imp_left.mpr fun hsign => ?_⟩
    have := nonneg_of_denotes h hsign
    exact (isOnlyZeros_iff rfl h).mpr ⟨by omega, fun _ => rfl, fun hminus => absurd hminus hsign⟩

/-- What is taken for a negative integer is a numeral for one, or for zero with a plus sign. -/
theorem isNegativeText_iff : (isNonPositiveText cs && !isOnlyZeros '-' cs) = true ↔
    ∃ i, Denotes cs i ∧ (i < 0 ∨ i = 0 ∧ cs.head? = some '+') := by
  rw [Bool.and_eq_true, isNonPositiveText_iff]
  constructor
  · rintro ⟨⟨i, h, hle⟩, hzeros⟩
    rw [Bool.not_eq_true', ← Bool.not_eq_true, isOnlyZeros_iff rfl h] at hzeros
    refine ⟨i, h, ?_⟩
    rcases Int.lt_or_eq_of_le hle with hlt | rfl
    · exact Or.inl hlt
    · exact Or.inr ⟨rfl, by simpa using hzeros⟩
  · rintro ⟨i, h, hi⟩
    refine ⟨⟨i, h, by omega⟩, ?_⟩
    rw [Bool.not_eq_true', ← Bool.not_eq_true, isOnlyZeros_iff rfl h]
    rintro ⟨rfl, hplus, -⟩
    exact absurd (hplus (hi.resolve_left (by omega)).2) (by decide)

/-- What is taken for a positive integer is a numeral for one. -/
theorem isPositiveText_iff : (isUnsignedText cs && !isOnlyZeros '+' cs) = true ↔
    ∃ i, Denotes cs i ∧ 1 ≤ i ∧ cs.head? ≠ some '-' := by
  rw [Bool.and_eq_true, isUnsignedText_iff]
  constructor
  · rintro ⟨⟨i, h, hle, hsign⟩, hzeros⟩
    rw [Bool.not_eq_true', ← Bool.not_eq_true, isOnlyZeros_iff rfl h] at hzeros
    have hne : i ≠ 0 := fun h0 => hzeros ⟨h0, fun _ => rfl, fun hminus => absurd hminus hsign⟩
    exact ⟨i, h, by omega, hsign⟩
  · rintro ⟨i, h, hle, hsign⟩
    refine ⟨⟨i, h, by omega, hsign⟩, ?_⟩
    rw [Bool.not_eq_true', ← Bool.not_eq_true, isOnlyZeros_iff rfl h]
    omega

/-! ## Upper bounds by rounding -/

/-- What is taken for an unsigned integer up to a floating point number is a numeral, without a minus
sign, for an integer up to the last one that is rounded to no more. -/
theorem isUnsignedUpTo_iff {max : Float} {last : Nat}
    (hmax : ∀ n, Float.ofNat n ≤ max ↔ n ≤ last) :
    isUnsignedUpTo max cs = true ↔
      ∃ i, Denotes cs i ∧ (0 ≤ i ∧ i ≤ last) ∧ cs.head? ≠ some '-' := by
  have hread : ∀ {i : Int}, Denotes cs i → 0 ≤ i → cs.head? ≠ some '-' →
      ((readFloat? cs).any fun x => 0.0 ≤ x && x ≤ max) = decide (i ≤ last) := by
    intro i h hle hsign
    rw [readFloat?_of_denotes h hsign, Option.any_some, decide_eq_true (zero_le_ofNat _),
      Bool.true_and, decide_eq_decide, hmax]
    omega
  rw [isUnsignedUpTo, Bool.and_eq_true, isUnsignedText_iff]
  constructor
  · rintro ⟨⟨i, h, hle, hsign⟩, hmax⟩
    rw [hread h hle hsign, decide_eq_true_eq] at hmax
    exact ⟨i, h, ⟨hle, hmax⟩, hsign⟩
  · rintro ⟨i, h, ⟨hle, hmax⟩, hsign⟩
    exact ⟨⟨i, h, hle, hsign⟩, by rwa [hread h hle hsign, decide_eq_true_eq]⟩

/-- The integers up to `2 ^ 64 + 2048` are rounded to at most `2 ^ 64`, which is what the greatest
unsigned integer of 64 bits is rounded to itself. -/
theorem ofNat_le_unsignedLong (n : Nat) :
    Float.ofNat n ≤ (18446744073709551615.0 : Float) ↔ n ≤ 2 ^ 64 + 2048 :=
  ofNat_le_iff (q := 2 ^ 52) (e := 12) (by decide) rfl (by decide) (by decide)
    (by decide) (by decide) n

/-- The comparison of floats with the bound of 32 bits is exact. -/
theorem ofNat_le_unsignedInt (n : Nat) :
    Float.ofNat n ≤ (4294967295.0 : Float) ↔ n ≤ 2 ^ 32 - 1 :=
  ofNat_le_iff (q := (2 ^ 32 - 1) * 2 ^ 21) (e := -21) (by decide) rfl (by decide) (by decide)
    (by decide) (by decide) n

/-- The comparison of floats with the bound of 16 bits is exact. -/
theorem ofNat_le_unsignedShort (n : Nat) :
    Float.ofNat n ≤ (65535.0 : Float) ↔ n ≤ 2 ^ 16 - 1 :=
  ofNat_le_iff (q := (2 ^ 16 - 1) * 2 ^ 37) (e := -37) (by decide) rfl (by decide) (by decide)
    (by decide) (by decide) n

/-- The comparison of floats with the bound of 8 bits is exact. -/
theorem ofNat_le_unsignedByte (n : Nat) :
    Float.ofNat n ≤ (255.0 : Float) ↔ n ≤ 2 ^ 8 - 1 :=
  ofNat_le_iff (q := (2 ^ 8 - 1) * 2 ^ 45) (e := -45) (by decide) rfl (by decide) (by decide)
    (by decide) (by decide) n

/-! ## The numerals of a type -/

variable {t : Builtin} {r : IntegerRange} {owners : Owners} {node : Handle}

/-- The numerals that an integer type takes although they denote no integer of its range. -/
def Builtin.Oversteps (t : Builtin) (cs : List Char) : Prop :=
  t = .negativeInteger ∧ Denotes cs 0 ∧ cs.head? = some '+' ∨
    t = .unsignedLong ∧ ∃ i, Denotes cs i ∧ 2 ^ 64 ≤ i ∧ i ≤ 2 ^ 64 + 2048

/-- An integer type takes the numerals for the integers of its range, without a minus sign if none of
these is negative, and those that overstep it. -/
theorem accepts_iff_denotes (hr : t.range? = some r) : t.accepts owners node cs = true ↔
    ∃ i, Denotes cs i ∧ (r.Holds i ∧ ((∃ least ∈ r.least, 0 ≤ least) → cs.head? ≠ some '-') ∨
      t.Oversteps cs) := by
  cases t <;> simp only [Builtin.range?, reduceCtorEq, Option.some.injEq] at hr <;> subst hr <;>
    simp only [Builtin.accepts]
  case integer =>
    rw [isIntegerText_iff]
    simp [IntegerRange.Holds, Builtin.Oversteps]
  case nonPositiveInteger =>
    rw [isNonPositiveText_iff]
    simp [IntegerRange.Holds, Builtin.Oversteps]
  case negativeInteger =>
    rw [isNegativeText_iff]
    refine exists_congr fun i => and_congr_right fun h => ?_
    have hzero : Denotes cs 0 ↔ i = 0 := ⟨h.unique, fun h0 => h0 ▸ h⟩
    have hlt : i < 0 ↔ i ≤ -1 := by omega
    simp [IntegerRange.Holds, Builtin.Oversteps, hzero, hlt]
  case long | int | short | byte =>
    rw [isIntegerWithin_iff]
    simp [IntegerRange.Holds, Builtin.Oversteps]
  case nonNegativeInteger =>
    rw [isUnsignedText_iff]
    simp [IntegerRange.Holds, Builtin.Oversteps]
  case positiveInteger =>
    rw [isPositiveText_iff]
    simp [IntegerRange.Holds, Builtin.Oversteps]
  case unsignedLong =>
    rw [isUnsignedUpTo_iff ofNat_le_unsignedLong]
    refine exists_congr fun i => and_congr_right fun h => ?_
    have hover : Builtin.unsignedLong.Oversteps cs ↔ 2 ^ 64 ≤ i ∧ i ≤ 2 ^ 64 + 2048 := by
      constructor
      · rintro (⟨hne, -⟩ | ⟨-, j, hj, hb⟩)
        · cases hne
        · exact h.unique hj ▸ hb
      · exact fun hb => Or.inr ⟨rfl, i, h, hb⟩
    rw [hover]
    -- with a minus sign the integer is too small to overstep the range
    by_cases hsign : cs.head? = some '-'
    · have := nonpos_of_denotes h hsign
      simp [IntegerRange.Holds, hsign]
      omega
    · simp [IntegerRange.Holds, hsign]
      omega
  case unsignedInt =>
    rw [isUnsignedUpTo_iff ofNat_le_unsignedInt]
    simp [IntegerRange.Holds, Builtin.Oversteps]
  case unsignedShort =>
    rw [isUnsignedUpTo_iff ofNat_le_unsignedShort]
    simp [IntegerRange.Holds, Builtin.Oversteps]
  case unsignedByte =>
    rw [isUnsignedUpTo_iff ofNat_le_unsignedByte]
    simp [IntegerRange.Holds, Builtin.Oversteps]

/-- What oversteps its type denotes no integer of its range. -/
theorem Builtin.Oversteps.not_holds (ho : t.Oversteps cs) (hr : t.range? = some r)
    (h : Denotes cs i) : ¬ r.Holds i := by
  rintro ⟨-, hgreatest⟩
  rcases ho with ⟨rfl, h0, -⟩ | ⟨rfl, j, hj, hb, -⟩
  · obtain rfl := Option.some.inj hr
    have := hgreatest _ rfl
    rw [h.unique h0] at this
    omega
  · obtain rfl := Option.some.inj hr
    have := hgreatest _ rfl
    rw [h.unique hj] at this
    omega

/-- A text that an integer type takes is a numeral for an integer of its range, unless it oversteps
it: a zero with a plus sign is taken for a negative integer, and the integers from `2 ^ 64` up to
`2 ^ 64 + 2048` are taken for unsigned ones of 64 bits. -/
theorem in_range_of_acceptsType_iff {typeName : String} (hn : Builtin.named? typeName = some t)
    (hr : t.range? = some r) (owners : Owners) (node : Handle) (value : String) :
    (acceptsType typeName owners node value = true →
        ∃ i, Denotes value.toList i ∧ r.Holds i) ↔ ¬ t.Oversteps value.toList := by
  have haccepts : acceptsType typeName owners node value = t.accepts owners node value.toList := by
    rw [acceptsType, hn, Option.any_some]
  rw [haccepts, accepts_iff_denotes hr]
  constructor
  · intro htaken ho
    have hdenotes : ∃ i, Denotes value.toList i := by
      rcases ho with ⟨-, h0, -⟩ | ⟨-, j, hj, -⟩
      · exact ⟨0, h0⟩
      · exact ⟨j, hj⟩
    obtain ⟨i, hi⟩ := hdenotes
    obtain ⟨j, hj, hholds⟩ := htaken ⟨i, hi, Or.inr ho⟩
    exact ho.not_holds hr hj hholds
  · rintro ho ⟨i, hi, hholds | hover⟩
    · exact ⟨i, hi, hholds.1⟩
    · exact absurd hover ho

/-- The greatest unsigned integer of 64 bits, with a sign and a zero in front. -/
theorem greatest_unsignedLong_in_range :
    Builtin.named? "xs:unsignedLong" = some .unsignedLong ∧
      Builtin.unsignedLong.range? = some { least := some 0, greatest := some (2 ^ 64 - 1) } ∧
      acceptsType "xs:unsignedLong" (fun _ => none) ⟨1⟩ "+018446744073709551615" = true ∧
      ∃ i, Denotes "+018446744073709551615".toList i ∧
        IntegerRange.Holds { least := some 0, greatest := some (2 ^ 64 - 1) } i := by
  have hn : Builtin.named? "xs:unsignedLong" = some .unsignedLong := by decide +kernel
  have ht : acceptsType "xs:unsignedLong" (fun _ => none) ⟨1⟩ "+018446744073709551615" = true := by
    decide +kernel
  have hi : Denotes "+018446744073709551615".toList 18446744073709551615 := .plus rfl
  have hover : ¬ Builtin.unsignedLong.Oversteps "+018446744073709551615".toList := by
    rintro (⟨hne, -⟩ | ⟨-, j, hj, hb, -⟩)
    · cases hne
    · rw [hj.unique hi] at hb
      exact absurd hb (by decide)
  exact ⟨hn, rfl, ht, (in_range_of_acceptsType_iff hn rfl (fun _ => none) ⟨1⟩ _).mpr hover ht⟩

/-- Zero with a plus sign is taken for a negative integer, and `2 ^ 64` for an unsigned one of 64
bits. -/
theorem zero_and_two_pow_overstep :
    (acceptsType "negativeInteger" (fun _ => none) ⟨1⟩ "+0" = true ∧
      ¬ ∃ i, Denotes "+0".toList i ∧ IntegerRange.Holds { greatest := some (-1) } i) ∧
    acceptsType "unsignedLong" (fun _ => none) ⟨1⟩ "18446744073709551616" = true ∧
      ¬ ∃ i, Denotes "18446744073709551616".toList i ∧
        IntegerRange.Holds { least := some 0, greatest := some (2 ^ 64 - 1) } i := by
  have hzero : Denotes "+0".toList 0 := .plus rfl
  have hpow : Denotes "18446744073709551616".toList 18446744073709551616 := .plain rfl
  refine ⟨⟨by decide +kernel, ?_⟩, by decide +kernel, ?_⟩
  · rintro ⟨i, hi, -, hle⟩
    have := hle _ rfl
    rw [hi.unique hzero] at this
    exact absurd this (by decide)
  · rintro ⟨i, hi, -, hle⟩
    have := hle _ rfl
    rw [hi.unique hpow] at this
    exact absurd this (by decide)

end GuidedXml.Schema
