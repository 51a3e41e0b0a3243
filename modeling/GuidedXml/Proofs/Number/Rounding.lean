/-
# Rounding natural numbers

The binary floating point number of 53 significant digits that a natural number is read as.

A natural number keeps its first 53 binary digits, rounded to the nearest number and to an even one
where two are equally near. Every floating point number has a place on a scale of integers, one step
for each of them, on which a significand that is rounded up to a power of two needs no case of its
own.

The main statements say that rounding keeps order, so that the natural numbers read as at most a
given floating point number are those up to a last one.
-/
import GuidedXml.Number.Reading
import Mathlib

namespace GuidedXml.Number

open Float.Model Float.Model.UnpackedFloat

/-! ## The nearest multiple of a power of two -/

/-- The number nearest to `q + r / b`, an even one where two are equally near. -/
def toEven (q r b : Nat) : Nat :=
  if 2 * r < b then q else if 2 * r = b then q + q % 2 else q + 1

/-- Rounding does not go below the quotient. -/
theorem le_toEven (q r b : Nat) : q ≤ toEven q r b := by
  unfold toEven
  split_ifs <;> omega

/-- Rounding goes one above the quotient at most. -/
theorem toEven_le (q r b : Nat) : toEven q r b ≤ q + 1 := by
  unfold toEven
  split_ifs <;> omega

/-- A larger fraction rounds to no smaller number. -/
theorem toEven_mono {r r' : Nat} (h : r ≤ r') (q b : Nat) : toEven q r b ≤ toEven q r' b := by
  unfold toEven
  split_ifs <;> omega

/-- How many times `2 ^ k` goes into `m`, rounded to the nearest number. -/
def nearest (m k : Nat) : Nat :=
  toEven (m / 2 ^ k) (m % 2 ^ k) (2 ^ k)

/-- A larger number rounds to no smaller one. -/
theorem nearest_mono {m n : Nat} (h : m ≤ n) (k : Nat) : nearest m k ≤ nearest n k := by
  rcases Nat.lt_or_eq_of_le (Nat.div_le_div_right (c := 2 ^ k) h) with hlt | heq
  · calc nearest m k ≤ m / 2 ^ k + 1 := toEven_le ..
      _ ≤ n / 2 ^ k := hlt
      _ ≤ nearest n k := le_toEven ..
  · -- the whole parts are the same, and the remainders are in order
    have hrem : m % 2 ^ k ≤ n % 2 ^ k := by
      have hm := Nat.div_add_mod m (2 ^ k)
      have hn := Nat.div_add_mod n (2 ^ k)
      rw [heq] at hm
      omega
    rw [nearest, nearest, heq]
    exact toEven_mono hrem ..

/-- A multiple is rounded to itself. -/
theorem nearest_mul_two_pow (m k : Nat) : nearest (m * 2 ^ k) k = m := by
  simp [nearest, toEven]

/-- Of `k + 53` binary digits there remain 53, or the power of two above them. -/
theorem nearest_bounds {m k : Nat} (hm : m ≠ 0) (hk : m.log2 = k + 52) :
    2 ^ 52 ≤ nearest m k ∧ nearest m k ≤ 2 ^ 53 := by
  have hlow : 2 ^ 52 ≤ m / 2 ^ k := by
    rw [Nat.le_div_iff_mul_le (Nat.two_pow_pos k), ← Nat.pow_add, Nat.add_comm, ← hk]
    exact Nat.log2_self_le hm
  have hhigh : m / 2 ^ k < 2 ^ 53 := by
    rw [Nat.div_lt_iff_lt_mul (Nat.two_pow_pos k), ← Nat.pow_add]
    have := Nat.lt_log2_self (n := m)
    rwa [hk, show k + 52 + 1 = 53 + k by omega] at this
  have := le_toEven (m / 2 ^ k) (m % 2 ^ k) (2 ^ k)
  have := toEven_le (m / 2 ^ k) (m % 2 ^ k) (2 ^ k)
  unfold nearest
  omega

/-! ## Rounding by the bits that are dropped -/

/-- The bits that a shift to the right drops are kept as two: the first of them, and whether there
is any other. -/
theorem shiftRight_exact (m k : Nat) :
    ExtendedMantissa.ofMantissaAndAccuracy m .exact >>> k =
      ⟨m / 2 ^ k, decide (2 ^ k ≤ 2 * (m % 2 ^ k)),
        decide (m % 2 ^ k ≠ 0 ∧ 2 * (m % 2 ^ k) ≠ 2 ^ k)⟩ := by
  change Nat.repeat ExtendedMantissa.shiftRightOne k _ = _
  induction k with
  | zero => simp [Nat.repeat, ExtendedMantissa.ofMantissaAndAccuracy, Nat.mod_one]
  | succ k ih =>
    have hdiv : m / 2 ^ (k + 1) = m / 2 ^ k / 2 := by rw [Nat.pow_succ, Nat.div_div_eq_div_mul]
    have hmod : m % 2 ^ (k + 1) = m % 2 ^ k + 2 ^ k * (m / 2 ^ k % 2) := by
      rw [Nat.pow_succ, Nat.mod_mul]
    have hlt : m % 2 ^ k < 2 ^ k := Nat.mod_lt _ (Nat.two_pow_pos k)
    rw [Nat.repeat, ih, hdiv, hmod, Nat.pow_succ]
    generalize m / 2 ^ k = q at *
    generalize m % 2 ^ k = r at *
    generalize 2 ^ k = b at *
    -- the last bit that stays becomes the first that is dropped
    rcases Nat.mod_two_eq_zero_or_one q with hq | hq <;>
      simp only [ExtendedMantissa.shiftRightOne, hq, ExtendedMantissa.mk.injEq, true_and] <;>
      constructor <;> grind

/-- Rounding by the dropped bits is rounding to the nearest number. -/
theorem roundedMantissa_shiftRight (m k : Nat) :
    (ExtendedMantissa.ofMantissaAndAccuracy m .exact >>> k).roundedMantissa = nearest m k := by
  rw [shiftRight_exact, nearest, toEven]
  have hpos : 0 < 2 ^ k := Nat.two_pow_pos k
  generalize m / 2 ^ k = q
  generalize m % 2 ^ k = r
  generalize 2 ^ k = b at *
  rcases Nat.lt_trichotomy (2 * r) b with h | h | h
  · by_cases h0 : r = 0
    · simp [ExtendedMantissa.roundedMantissa, ExtendedMantissa.accuracy, Accuracy.roundToNearestEven,
        h0, hpos, Nat.not_le.mpr hpos]
    · simp [ExtendedMantissa.roundedMantissa, ExtendedMantissa.accuracy, Accuracy.roundToNearestEven,
        h0, h, Nat.not_le.mpr h, Nat.ne_of_lt h]
  · subst h
    simp [ExtendedMantissa.roundedMantissa, ExtendedMantissa.accuracy, Accuracy.roundToNearestEven]
  · have h0 : r ≠ 0 := by omega
    simp [ExtendedMantissa.roundedMantissa, ExtendedMantissa.accuracy, Accuracy.roundToNearestEven,
      h0, Nat.le_of_lt h, Nat.ne_of_gt h, Nat.not_lt.mpr (Nat.le_of_lt h)]

/-! ## Rounding to 53 digits -/

/-- A significand of 53 binary digits at an exponent; `2 ^ 53` moves the exponent up. -/
def settle (q : Nat) (e : Int) : UnpackedFloat :=
  if h : 0 < q ∧ q < 2 ^ 53 then .finite .positive q e h.1
  else .finite .positive (2 ^ 52) (e + 1) (by decide)

/-- A significand within its width is settled as it is. -/
theorem settle_of_lt {q : Nat} (h0 : 0 < q) (hq : q < 2 ^ 53) (e : Int) :
    settle q e = .finite .positive q e h0 :=
  dif_pos ⟨h0, hq⟩

/-- A significand of full width has 53 bits. -/
theorem log2_of_bounds {q : Nat} (hq : 2 ^ 52 ≤ q) (hq' : q < 2 ^ 53) : q.log2 = 52 :=
  (Nat.log2_eq_iff (by omega)).mpr ⟨hq, hq'⟩

/-- A power of two adds its exponent to the logarithm. -/
theorem log2_mul_two_pow {n : Nat} (hn : n ≠ 0) (j : Nat) : (n * 2 ^ j).log2 = n.log2 + j := by
  have hpos := Nat.two_pow_pos j
  rw [Nat.log2_eq_iff (Nat.mul_ne_zero hn (by omega)), Nat.pow_add]
  refine ⟨Nat.mul_le_mul_right _ (Nat.log2_self_le hn), ?_⟩
  rw [show n.log2 + j + 1 = n.log2 + 1 + j by omega, Nat.pow_add]
  exact Nat.mul_lt_mul_of_pos_right Nat.lt_log2_self hpos

/-- Unless the number is too small, 53 of its digits are to remain. -/
theorem targetExponent_binary64 (m : Nat) (e : Int) (h : -1074 ≤ e + (m.log2 - 52)) :
    Format.binary64.targetExponent (totalExponent m e) = e + (m.log2 - 52) := by
  simp only [Format.targetExponent, totalExponent, Format.mantissaBits, Format.minExponent]
  norm_num
  omega

/-- A significand of full width is not shifted. -/
theorem shiftToTargetExponent_of_lt {q : Nat} {e : Int} (hq : 2 ^ 52 ≤ q) (hq' : q < 2 ^ 53)
    (he : -1074 ≤ e) :
    shiftToTargetExponent Format.binary64 q e .exact = (⟨q, false, false⟩, e) := by
  have hlog := log2_of_bounds hq hq'
  rw [shiftToTargetExponent, targetExponent_binary64 _ _ (by omega), hlog, shiftToExponent]
  simp [HShiftRight.hShiftRight, Nat.repeat, ExtendedMantissa.ofMantissaAndAccuracy]

/-- A significand one beyond its width is shifted by one. -/
theorem shiftToTargetExponent_two_pow {e : Int} (he : -1075 ≤ e) :
    shiftToTargetExponent Format.binary64 (2 ^ 53) e .exact = (⟨2 ^ 52, false, false⟩, e + 1) := by
  rw [shiftToTargetExponent, targetExponent_binary64 _ _ (by rw [Nat.log2_two_pow]; omega),
    Nat.log2_two_pow, shiftToExponent]
  simp [HShiftRight.hShiftRight, Nat.repeat, ExtendedMantissa.ofMantissaAndAccuracy,
    ExtendedMantissa.shiftRightOne]

/-- Rounding a number of `k + 53` binary digits takes the nearest significand. -/
theorem roundWithAccuracy_exact {m k : Nat} {e : Int} (hm : m ≠ 0) (hk : m.log2 = k + 52)
    (he : -1074 ≤ e + k) :
    roundWithAccuracy Format.binary64 .positive m e .exact = settle (nearest m k) (e + k) := by
  obtain ⟨hlow, hhigh⟩ := nearest_bounds hm hk
  have hfirst : shiftToTargetExponent Format.binary64 m e .exact =
      (ExtendedMantissa.ofMantissaAndAccuracy m .exact >>> k, e + k) := by
    rw [shiftToTargetExponent, targetExponent_binary64 _ _ (by omega), shiftToExponent, hk]
    simp only [Prod.mk.injEq]
    constructor
    · congr 1
      omega
    · omega
  simp only [roundWithAccuracy, hfirst, roundedMantissa_shiftRight]
  -- what was rounded up to a power of two is shifted once more
  rcases Nat.lt_or_eq_of_le hhigh with hlt | heq
  · simp only [shiftToTargetExponent_of_lt hlow hlt he]
    rw [settle, dif_neg (by omega), dif_pos ⟨by omega, hlt⟩]
  · simp only [heq, shiftToTargetExponent_two_pow (show -1075 ≤ e + k by omega)]
    rfl

/-- A full significand with `k` zeros behind it is rounded to itself. -/
theorem roundWithAccuracy_mul_two_pow {q : Nat} (hq : 2 ^ 52 ≤ q) (hq' : q < 2 ^ 53) (k : Nat)
    {e : Int} (he : -1074 ≤ e + k) :
    roundWithAccuracy Format.binary64 .positive (q * 2 ^ k) e .exact =
      .finite .positive q (e + k) (by omega) := by
  have hlog : (q * 2 ^ k).log2 = k + 52 := by
    rw [log2_mul_two_pow (by omega), log2_of_bounds hq hq', Nat.add_comm]
  rw [roundWithAccuracy_exact (Nat.mul_ne_zero (by omega) (Nat.two_pow_pos k).ne') hlog he,
    nearest_mul_two_pow, settle_of_lt (by omega) hq']

/-! ## Storing in 64 bits -/

/-- A number with a full significand is stored as it is. -/
theorem unpack_pack_of_le {q : Nat} {e : Int} (hq : 2 ^ 52 ≤ q) (hq' : q < 2 ^ 53) (he : -1074 ≤ e)
    (he' : e ≤ 971) (hpos : 0 < q) :
    unpack Format.binary64 (pack Format.binary64 (.finite .positive q e hpos)) =
      .finite .positive q e hpos := by
  obtain ⟨n, rfl⟩ : ∃ n : Nat, e = (n : Int) - 1075 := ⟨(e + 1075).toNat, by omega⟩
  have hlog := log2_of_bounds hq hq'
  have hbiased : ((n : Int) - 1075 + 1023 + 52).toNat = n := by omega
  have hexp : (BitVec.ofNat 11 n).toNat = n := by
    rw [BitVec.toNat_ofNat]
    omega
  have hzero : BitVec.ofNat 11 n ≠ 0#11 := fun h => by
    have := congrArg BitVec.toNat h
    rw [hexp] at this
    simp at this
    omega
  have hones : BitVec.ofNat 11 n ≠ -1#11 := fun h => by
    have := congrArg BitVec.toNat h
    rw [hexp] at this
    simp at this
    omega
  -- the leading digit is not stored
  have hleading : (1#1 ++ BitVec.ofNat 52 q).toNat = q := by
    rw [BitVec.toNat_append, ← Nat.shiftLeft_add_eq_or_of_lt (BitVec.isLt _), BitVec.toNat_ofNat]
    simp only [BitVec.toNat_ofNat, Nat.shiftLeft_eq]
    omega
  have hpack : pack Format.binary64 (.finite .positive q ((n : Int) - 1075) hpos) =
      packComponents Format.binary64 .positive (BitVec.ofNat 11 n) (BitVec.ofNat 52 q) := by
    simp only [UnpackedFloat.pack, Format.exponentBias, Format.mantissaBits, hlog]
    norm_num
    rw [if_neg (by omega), hbiased]
  rw [hpack, UnpackedFloat.unpack]
  simp only [unpackMantissa_packComponents, unpackExponent_packComponents,
    unpackSign_packComponents]
  rw [if_neg hones, if_neg hzero]
  simp only [hleading, hexp, Format.exponentBias]
  congr 1

/-- A number that is too large is stored as the infinite one. -/
theorem unpack_pack_of_lt {q : Nat} {e : Int} (he : 971 < e) (hpos : 0 < q) :
    unpack Format.binary64 (pack Format.binary64 (.finite .positive q e hpos)) =
      .infinity .positive := by
  have hpack : pack Format.binary64 (.finite .positive q e hpos) =
      packedInfinity Format.binary64 .positive := by
    simp only [UnpackedFloat.pack, Format.exponentBias]
    norm_num
    intro h
    omega
  rw [hpack]
  rfl

/-! ## The nearest floating point number -/

/-- The significand of a number: its first 53 binary digits, rounded. -/
def significand (n : Nat) : Nat :=
  nearest (n * 2 ^ 53) (n.log2 + 1)

/-- Significands have full width, or are the power of two beyond it. -/
theorem significand_bounds {n : Nat} (hn : n ≠ 0) :
    2 ^ 52 ≤ significand n ∧ significand n ≤ 2 ^ 53 :=
  nearest_bounds (Nat.mul_ne_zero hn (by decide)) (by rw [log2_mul_two_pow hn])

/-- A number of at most 53 binary digits is its own significand, with zeros behind it. -/
theorem significand_of_log2_le {n : Nat} (hn : n.log2 ≤ 52) :
    significand n = n * 2 ^ (52 - n.log2) := by
  have h : n * 2 ^ 53 = n * 2 ^ (52 - n.log2) * 2 ^ (n.log2 + 1) := by
    rw [Nat.mul_assoc, ← Nat.pow_add]
    congr 2
    omega
  rw [significand, h, nearest_mul_two_pow]

/-- A number of at most 53 bits has a significand within the width. -/
theorem significand_lt_of_log2_le {n : Nat} (hn : n.log2 ≤ 52) : significand n < 2 ^ 53 := by
  rw [significand_of_log2_le hn]
  calc n * 2 ^ (52 - n.log2) < 2 ^ (n.log2 + 1) * 2 ^ (52 - n.log2) :=
        Nat.mul_lt_mul_of_pos_right Nat.lt_log2_self (Nat.two_pow_pos _)
    _ = 2 ^ 53 := by
      rw [← Nat.pow_add]
      congr 1
      omega

/-- A word of at most 53 binary digits is converted without rounding. -/
theorem ofUInt64_eq {n : Nat} (h0 : n ≠ 0) (hn : n < 2 ^ 53) :
    UnpackedFloat.ofUInt64 Format.binary64 n.toUInt64 =
      .finite .positive (significand n) ((n.log2 : Int) - 52)
        (by have := significand_bounds h0; omega) := by
  have hlog : n.log2 ≤ 52 := by
    have := (Nat.log2_lt h0).mpr hn
    omega
  have hword : n.toUInt64.toNat = n := UInt64.toNat_ofNat_of_lt (show n < 2 ^ 64 by omega)
  have hcompare : compare (n : Int) 0 = .gt := by
    rw [Int.compare_eq_gt]
    omega
  have hround := roundWithAccuracy_mul_two_pow (significand_bounds h0).1
    (significand_lt_of_log2_le hlog) 0 (e := 0 - ((52 - n.log2 : Nat) : Int)) (by omega)
  rw [Nat.pow_zero, Nat.mul_one] at hround
  rw [UnpackedFloat.ofUInt64, hword, UnpackedFloat.ofNat, UnpackedFloat.ofInt,
    UnpackedFloat.normalize, hcompare]
  simp only [UnpackedFloat.round, targetExponent_binary64 n 0 (by omega), decreaseExponent,
    Int.toNat_natCast, Nat.shiftLeft_eq]
  rw [show (0 - (0 + ((n.log2 : Int) - 52))).toNat = 52 - n.log2 by omega,
    ← significand_of_log2_le hlog, hround]
  congr 1
  omega

/-- Small numbers are read by converting a word and multiplying by one. -/
theorem toModel_ofNat_of_lt {n : Nat} (h0 : n ≠ 0) (hn : n < 2 ^ 53) :
    (Float.ofNat n).toModel =
      Float.Model.pack (settle (significand n) ((n.log2 : Int) - 52)) := by
  have hlog : n.log2 ≤ 52 := by
    have := (Nat.log2_lt h0).mpr hn
    omega
  obtain ⟨hlow, -⟩ := significand_bounds h0
  have hhigh := significand_lt_of_log2_le hlog
  have hone : unpack Format.binary64 (Float.ofBits 0x3FF0000000000000).toModel.toBits.toBitVec =
      .finite .positive (2 ^ 52) (-52) (by decide) := rfl
  have hfast : Float.ofNat n = n.toUInt64.toFloat * Float.ofBits 0x3FF0000000000000 := by
    show Float.ofScientific n false 0 = _
    rw [Float.ofScientific, dif_pos ⟨hn, by decide⟩]
    rfl
  rw [hfast]
  show Float.Model.pack (UnpackedFloat.mul Format.binary64
    (unpack Format.binary64 (pack Format.binary64 (UnpackedFloat.ofUInt64 _ n.toUInt64)))
    (unpack Format.binary64 (Float.ofBits 0x3FF0000000000000).toModel.toBits.toBitVec)) = _
  rw [hone, ofUInt64_eq h0 hn, unpack_pack_of_le hlow hhigh (by omega) (by omega),
    settle_of_lt (by omega) hhigh]
  show Float.Model.pack
    (roundWithAccuracy Format.binary64 .positive (significand n * 2 ^ 52) _ .exact) = _
  rw [roundWithAccuracy_mul_two_pow hlow hhigh 52 (by omega)]
  congr 2
  omega

/-- Large numbers are read by rounding once. -/
theorem toModel_ofNat_of_le {n : Nat} (hn : 2 ^ 53 ≤ n) :
    (Float.ofNat n).toModel =
      Float.Model.pack (settle (significand n) ((n.log2 : Int) - 52)) := by
  have h0 : n ≠ 0 := by omega
  have hmul : UnpackedFloat.ofScientific Format.binary64 n 0 =
      roundWithAccuracy Format.binary64 .positive (n * 2 ^ 53) (-53) .exact := by
    rw [UnpackedFloat.ofScientific, dif_neg h0, if_neg (by decide), if_neg (by simp),
      if_pos (by omega)]
    simp only [UnpackedFloat.mul, Nat.shiftLeft_eq]
    simp
    rfl
  have hslow : Float.ofNat n = ⟨Float.Model.ofScientific n 0⟩ := by
    show Float.ofScientific n false 0 = _
    rw [Float.ofScientific, dif_neg (by omega)]
    rfl
  rw [hslow]
  show Float.Model.pack (UnpackedFloat.ofScientific Format.binary64 n 0) = _
  rw [hmul, roundWithAccuracy_exact (Nat.mul_ne_zero h0 (by decide))
    (show (n * 2 ^ 53).log2 = n.log2 + 1 + 52 from log2_mul_two_pow h0 53) (by push_cast; omega)]
  congr 2
  push_cast
  ring

/-! ## The order of rounded numbers -/

/-- The place of a number, once rounded, on the scale of floating point numbers. -/
def scale (n : Nat) : Int :=
  ((n.log2 : Int) - 52) * 2 ^ 52 + significand n

/-- Rounding keeps order. -/
theorem scale_mono {m n : Nat} (hm : m ≠ 0) (h : m ≤ n) : scale m ≤ scale n := by
  have hn : n ≠ 0 := by omega
  have hlog : m.log2 ≤ n.log2 := (Nat.le_log2 hn).mpr (Nat.le_trans (Nat.log2_self_le hm) h)
  have hmb := significand_bounds hm
  have hnb := significand_bounds hn
  unfold scale
  rcases Nat.lt_or_eq_of_le hlog with hlt | heq
  · -- one digit more is worth a whole significand
    omega
  · have : significand m ≤ significand n := by
      rw [significand, significand, heq]
      exact nearest_mono (Nat.mul_le_mul_right _ h) _
    omega

/-- A natural number is read as a full significand at its place on the scale, or as the infinite
number if its exponent is too large. -/
theorem unpack_ofNat {n : Nat} (hn : n ≠ 0) : ∃ (q : Nat) (e : Int) (hpos : 0 < q),
    2 ^ 52 ≤ q ∧ q < 2 ^ 53 ∧ e * 2 ^ 52 + q = scale n ∧ (Float.ofNat n).toModel.unpack =
      if 971 < e then .infinity .positive else .finite .positive q e hpos := by
  obtain ⟨hlow, hhigh⟩ := significand_bounds hn
  have hread : (Float.ofNat n).toModel =
      Float.Model.pack (settle (significand n) ((n.log2 : Int) - 52)) := by
    rcases Nat.lt_or_ge n (2 ^ 53) with hlt | hge
    · exact toModel_ofNat_of_lt hn hlt
    · exact toModel_ofNat_of_le hge
  obtain ⟨q, e, hpos, hsettle, hq, hq', he, hscale⟩ : ∃ (q : Nat) (e : Int) (hpos : 0 < q),
      settle (significand n) ((n.log2 : Int) - 52) = .finite .positive q e hpos ∧
        2 ^ 52 ≤ q ∧ q < 2 ^ 53 ∧ -1074 ≤ e ∧ e * 2 ^ 52 + q = scale n := by
    unfold scale
    rcases Nat.lt_or_eq_of_le hhigh with hlt | heq
    · exact ⟨_, _, by omega, settle_of_lt (by omega) hlt _, hlow, hlt, by omega, rfl⟩
    · refine ⟨2 ^ 52, n.log2 - 52 + 1, by decide, by rw [heq]; rfl, by decide, by decide,
        by omega, ?_⟩
      rw [heq]
      push_cast
      ring
  refine ⟨q, e, hpos, hq, hq', hscale, ?_⟩
  rw [hread, hsettle]
  split
  · exact unpack_pack_of_lt ‹_› hpos
  · exact unpack_pack_of_le hq hq' he (by omega) hpos

/-- Floats are compared as their models are. -/
theorem le_iff_compare {x y : Float} :
    x ≤ y ↔ (UnpackedFloat.compare x.toModel.unpack y.toModel.unpack).any Ordering.isLE = true := by
  show decide (x.toModel ≤ y.toModel) = true ↔ _
  rw [decide_eq_true_iff]
  rfl

/-- No natural number is a negative float. -/
theorem zero_le_ofNat (n : Nat) : (0.0 : Float) ≤ Float.ofNat n := by
  rcases Nat.eq_zero_or_pos n with rfl | hn
  · decide +kernel
  · obtain ⟨q, e, hpos, -, -, -, hread⟩ := unpack_ofNat (Nat.ne_of_gt hn)
    have hzero : (0.0 : Float).toModel.unpack = .zero .positive := rfl
    rw [le_iff_compare, hzero, hread]
    split <;> rfl

/-- A natural number is read as at most a finite number exactly if its place is not beyond the place
of that number. -/
theorem ofNat_le_iff_scale {n : Nat} (hn : n ≠ 0) {c : Float} {q : Nat} {e : Int} {hpos : 0 < q}
    (hc : c.toModel.unpack = .finite .positive q e hpos) (hq : 2 ^ 52 ≤ q ∧ q < 2 ^ 53)
    (he : e ≤ 971) :
    Float.ofNat n ≤ c ↔ scale n ≤ e * 2 ^ 52 + q := by
  obtain ⟨q₁, e₁, hpos₁, hlow, hhigh, hscale, hread⟩ := unpack_ofNat hn
  rw [le_iff_compare, hc, hread, ← hscale]
  split
  · simp only [UnpackedFloat.compare, Option.any_some]
    exact iff_of_false (by decide) (by omega)
  · simp only [UnpackedFloat.compare, Option.any_some, Ordering.isLE_then_iff_or,
      Int.compare_eq_lt, Int.compare_eq_eq, Nat.isLE_compare]
    omega

/-- The natural numbers read as at most a finite number are those up to the last one whose place is
not beyond the place of that number. -/
theorem ofNat_le_iff {c : Float} {q : Nat} {e : Int} (hpos : 0 < q)
    (hc : c.toModel.unpack = .finite .positive q e hpos) (hq : 2 ^ 52 ≤ q ∧ q < 2 ^ 53)
    (he : e ≤ 971) {last : Nat} (hin : scale last ≤ e * 2 ^ 52 + q)
    (hout : e * 2 ^ 52 + q < scale (last + 1)) (n : Nat) :
    Float.ofNat n ≤ c ↔ n ≤ last := by
  rcases Nat.eq_zero_or_pos n with rfl | hn
  · have hzero : (Float.ofNat 0).toModel.unpack = .zero .positive := rfl
    rw [le_iff_compare, hzero, hc]
    exact iff_of_true rfl (Nat.zero_le _)
  · rw [ofNat_le_iff_scale (Nat.ne_of_gt hn) hc hq he]
    constructor
    · intro hle
      by_contra hlt
      have := scale_mono (show last + 1 ≠ 0 by omega) (show last + 1 ≤ n by omega)
      omega
    · intro hle
      exact le_trans (scale_mono (Nat.ne_of_gt hn) hle) hin

end GuidedXml.Number
