/-
# The shortest decimal of a number

The decimals that stand for a binary number are those in its interval. The search goes from coarse
grids of multiples of a power of ten to finer ones, and looks at the two multiples next to the number
on each of them. It compares products of powers of two and ten without fractions.

The main statements say that the search finds the one decimal on the coarsest grid that has any
decimal in the interval, the nearest of these, and that its digits before and after the point are
counted.
-/
import GuidedXml.Number.Shortest
import Mathlib

namespace GuidedXml.Number

variable {n d : ℕ} {i j : ℤ}

/-! ## Comparing products of powers -/

/-- A power with an integer exponent, once its denominator is cleared. -/
theorem zpow_mul_pow_toNat_neg {a : ℚ} (ha : a ≠ 0) (i : ℤ) :
    a ^ i * a ^ (-i).toNat = a ^ i.toNat := by
  rw [← zpow_natCast, ← zpow_natCast, ← zpow_add₀ ha]
  congr 1
  omega

/-- Scaling multiplies by the powers whose exponents are not negative. -/
theorem cast_scaled (n : ℕ) (twos tens : ℤ) :
    (scaled n twos tens : ℚ) = n * 2 ^ twos.toNat * 10 ^ tens.toNat := by
  simp [scaled, Nat.shiftLeft_eq]

/-- What clears the denominators of `2 ^ j` and `10 ^ i`. -/
def denominator (j i : ℤ) : ℚ :=
  2 ^ (-j).toNat * 10 ^ (-i).toNat

/-- The common denominator is positive. -/
theorem denominator_pos (j i : ℤ) : 0 < denominator j i := by
  unfold denominator
  positivity

/-- Scaled, a decimal is multiplied by the common denominator. -/
theorem scaled_decimal (d : ℕ) (i j : ℤ) :
    (scaled d (-j) i : ℚ) = d * 10 ^ i * denominator j i := by
  rw [cast_scaled, ← zpow_mul_pow_toNat_neg (a := (10 : ℚ)) (by norm_num) i, denominator]
  ring

/-- Scaled, a binary is multiplied by the common denominator. -/
theorem scaled_binary (n : ℕ) (j i : ℤ) :
    (scaled n j (-i) : ℚ) = n * 2 ^ j * denominator j i := by
  rw [cast_scaled, ← zpow_mul_pow_toNat_neg (a := (2 : ℚ)) (by norm_num) j, denominator]
  ring

/-- The comparison of a decimal with a binary is exact. -/
theorem decimalLe_iff : decimalLe d i n j = true ↔ (d : ℚ) * 10 ^ i ≤ n * 2 ^ j := by
  rw [decimalLe, decide_eq_true_iff, ← Nat.cast_le (α := ℚ), scaled_decimal, scaled_binary,
    mul_le_mul_iff_of_pos_right (denominator_pos j i)]

/-- The comparison of a binary with a decimal is exact. -/
theorem binaryLe_iff : binaryLe n j d i = true ↔ (n : ℚ) * 2 ^ j ≤ d * 10 ^ i := by
  rw [binaryLe, decide_eq_true_iff, ← Nat.cast_le (α := ℚ), scaled_decimal, scaled_binary,
    mul_le_mul_iff_of_pos_right (denominator_pos j i)]

namespace Binary

variable {b : Binary} {x y z : ℚ} {c : ℕ}

/-! ## The interval -/

/-- The number itself. -/
def value (b : Binary) : ℚ :=
  b.significand * 2 ^ b.exponent

/-- The lower end of the interval. -/
def bottom (b : Binary) : ℚ :=
  b.low * 2 ^ (b.exponent - 2)

/-- The upper end of the interval. -/
def top (b : Binary) : ℚ :=
  b.high * 2 ^ (b.exponent - 2)

/-- The number `x` rounds to the binary number: it is inside of the interval, or at an end of it if
the significand is even. -/
def Covers (b : Binary) (x : ℚ) : Prop :=
  if b.significand % 2 = 0 then b.bottom ≤ x ∧ x ≤ b.top else b.bottom < x ∧ x < b.top

/-- A binary holds exactly the decimals that it covers. -/
theorem holds_iff : b.holds d i = true ↔ b.Covers (d * 10 ^ i) := by
  unfold holds Covers bottom top
  split_ifs
  · rw [Bool.and_eq_true, binaryLe_iff, decimalLe_iff]
  · rw [Bool.and_eq_true, Bool.not_eq_true', Bool.not_eq_true', ← Bool.not_eq_true,
      ← Bool.not_eq_true, binaryLe_iff, decimalLe_iff, not_le, not_le]

/-- What lies between two numbers that round to the binary number does so, too. -/
theorem Covers.between (hx : b.Covers x) (hz : b.Covers z) (hxy : x ≤ y) (hyz : y ≤ z) :
    b.Covers y := by
  unfold Covers at *
  split_ifs at *
  · exact ⟨hx.1.trans hxy, hyz.trans hz.2⟩
  · exact ⟨hx.1.trans_le hxy, hyz.trans_lt hz.2⟩

/-- What is covered is not above the top. -/
theorem Covers.le_top (hx : b.Covers x) : x ≤ b.top := by
  unfold Covers at hx
  split_ifs at hx
  · exact hx.2
  · exact hx.2.le

/-- What is strictly between bottom and top is covered. -/
theorem covers_of_inside (hlow : b.bottom < x) (hhigh : x < b.top) : b.Covers x := by
  unfold Covers
  split_ifs
  · exact ⟨hlow.le, hhigh.le⟩
  · exact ⟨hlow, hhigh⟩

/-- The number in units of a quarter of its last binary place. -/
theorem value_eq (b : Binary) : b.value = 4 * b.significand * 2 ^ (b.exponent - 2) := by
  rw [value, zpow_sub₀ (by norm_num : (2 : ℚ) ≠ 0)]
  ring

/-- The top is half a unit above the value. -/
theorem top_eq (b : Binary) : b.top = b.value + 2 ^ (b.exponent - 1) := by
  rw [b.value_eq, top, high, show b.exponent - 1 = b.exponent - 2 + 1 by ring,
    zpow_add_one₀ (by norm_num)]
  push_cast
  ring

/-- A number as it is stored: a significand of at most 53 binary digits and an exponent in range. -/
structure Proper (b : Binary) : Prop where
  pos : 0 < b.significand
  lt : b.significand < 2 ^ 53
  ge : -1074 ≤ b.exponent
  le : b.exponent ≤ 971

/-- The binary of a float is proper. -/
theorem proper_of_ofFloat? {x : Float} (h : ofFloat? x = some b) : b.Proper := by
  unfold ofFloat? at h
  dsimp only at h
  split_ifs at h <;> simp only [Option.some.injEq] at h <;> subst h <;> constructor <;>
    dsimp only <;> omega

namespace Proper

variable (hb : b.Proper)

include hb

/-- The value of a proper binary is positive. -/
theorem value_pos : 0 < b.value := by
  have := hb.pos
  unfold value
  positivity

/-- So is its bottom. -/
theorem bottom_pos : 0 < b.bottom := by
  have hlow : 0 < b.low := by
    have := hb.pos
    unfold low
    split_ifs <;> omega
  unfold bottom
  positivity

/-- The bottom is below the value. -/
theorem bottom_lt_value : b.bottom < b.value := by
  rw [b.value_eq, bottom]
  have hlow : b.low < 4 * b.significand := by
    have := hb.pos
    unfold low
    split_ifs <;> omega
  gcongr
  exact_mod_cast hlow

/-- A binary covers its value. -/
theorem covers_value : b.Covers b.value := by
  refine covers_of_inside hb.bottom_lt_value ?_
  rw [b.top_eq]
  exact lt_add_of_pos_right _ (by positivity)

/-- What is covered is positive. -/
theorem pos_of_covers (hx : b.Covers x) : 0 < x := by
  have := hb.bottom_pos
  unfold Covers at hx
  split_ifs at hx <;> linarith

/-- No number in the interval is as large as `10 ^ 310`. -/
theorem lt_of_covers (hx : b.Covers x) : x < 10 ^ 310 := by
  have hhigh : (b.high : ℚ) ≤ 2 ^ 55 := by
    have := hb.lt
    have hle : b.high ≤ 2 ^ 55 := by
      unfold high
      omega
    exact_mod_cast hle
  calc x ≤ b.top := hx.le_top
    _ ≤ 2 ^ 55 * 2 ^ (969 : ℤ) := by
      unfold top
      have := hb.le
      gcongr
      · norm_num
      · omega
    _ = ((2 ^ 1024 : ℕ) : ℚ) := by
      rw [show (969 : ℤ) = ((969 : ℕ) : ℤ) from rfl, zpow_natCast, ← pow_add, Nat.cast_pow,
        Nat.cast_ofNat]
    _ < ((10 ^ 310 : ℕ) : ℚ) := Nat.cast_lt.mpr (by decide +kernel)
    _ = 10 ^ 310 := by rw [Nat.cast_pow, Nat.cast_ofNat]

end Proper

/-! ## The multiples next to the number -/

/-- The multiple below the value is its floor on the grid. -/
theorem floorAt_eq (b : Binary) (i : ℤ) : b.floorAt i = ⌊b.value / 10 ^ i⌋₊ := by
  have hone := scaled_decimal 1 i b.exponent
  rw [Nat.cast_one, one_mul] at hone
  rw [floorAt, ← Nat.floor_div_eq_div (K := ℚ), scaled_binary, hone,
    mul_div_mul_right _ _ (denominator_pos _ _).ne']
  rfl

/-- It is not above the value. -/
theorem floorAt_mul_le (hb : b.Proper) (i : ℤ) : (b.floorAt i : ℚ) * 10 ^ i ≤ b.value := by
  have hpow : (0 : ℚ) < 10 ^ i := by positivity
  rw [← le_div_iff₀ hpow, floorAt_eq]
  exact Nat.floor_le (div_pos hb.value_pos hpow).le

/-- The next multiple is above the value. -/
theorem lt_floorAt_succ_mul (b : Binary) (i : ℤ) :
    b.value < ((b.floorAt i + 1 : ℕ) : ℚ) * 10 ^ i := by
  have hpow : (0 : ℚ) < 10 ^ i := by positivity
  rw [← div_lt_iff₀ hpow, floorAt_eq]
  exact_mod_cast Nat.lt_floor_add_one _

/-- The multiple below is taken exactly if it is the nearer one. -/
theorem nearerBelow_iff : b.nearerBelow d i = true ↔
    b.value - d * 10 ^ i < ((d + 1 : ℕ) : ℚ) * 10 ^ i - b.value := by
  rw [nearerBelow, Bool.not_eq_true', ← Bool.not_eq_true, decimalLe_iff, not_le, value]
  push_cast
  constructor <;> intro h <;> linarith

/-- The multiples of `10 ^ i` that are not above the number are not above the greatest of these. -/
theorem mul_le_floorAt_mul (hc : c ≤ b.floorAt i) : (c : ℚ) * 10 ^ i ≤ b.floorAt i * 10 ^ i := by
  gcongr

/-- Greater multiples are not below the next one. -/
theorem floorAt_succ_mul_le (hc : b.floorAt i < c) :
    ((b.floorAt i + 1 : ℕ) : ℚ) * 10 ^ i ≤ c * 10 ^ i := by
  gcongr
  exact hc

/-- Multiples up to the floor are as far from the value as they are below. -/
theorem abs_of_le_floorAt (hb : b.Proper) (hc : c ≤ b.floorAt i) :
    |b.value - c * 10 ^ i| = b.value - c * 10 ^ i :=
  abs_of_nonneg (by linarith [floorAt_mul_le hb i, mul_le_floorAt_mul (b := b) hc])

/-- Multiples beyond the floor are as far from the value as they are above. -/
theorem abs_of_floorAt_lt (hc : b.floorAt i < c) :
    |b.value - c * 10 ^ i| = c * 10 ^ i - b.value := by
  rw [abs_sub_comm]
  exact abs_of_nonneg (by linarith [lt_floorAt_succ_mul b i, floorAt_succ_mul_le hc])

/-- If any multiple of `10 ^ i` rounds to the number, so does the one next to it on that side. -/
theorem covers_floorAt (hb : b.Proper) (hcov : b.Covers (c * 10 ^ i)) :
    (c ≤ b.floorAt i → b.Covers (b.floorAt i * 10 ^ i)) ∧
      (b.floorAt i < c → b.Covers (((b.floorAt i + 1 : ℕ) : ℚ) * 10 ^ i)) :=
  ⟨fun hc => hcov.between hb.covers_value (mul_le_floorAt_mul hc) (floorAt_mul_le hb i),
    fun hc => hb.covers_value.between hcov (lt_floorAt_succ_mul b i).le (floorAt_succ_mul_le hc)⟩

/-- Of the multiples of `10 ^ i` that round to the number, `d * 10 ^ i` is the nearest one, the upper
one if two are equally near. -/
structure IsNearest (b : Binary) (i : ℤ) (d : ℕ) : Prop where
  covers : b.Covers (d * 10 ^ i)
  nearest : ∀ c : ℕ, b.Covers (c * 10 ^ i) → |b.value - d * 10 ^ i| ≤ |b.value - c * 10 ^ i|
  upper : ∀ c : ℕ, b.Covers (c * 10 ^ i) → |b.value - d * 10 ^ i| = |b.value - c * 10 ^ i| → c ≤ d

/-- One multiple at most is nearest, ties being settled. -/
theorem IsNearest.unique (hd : b.IsNearest i d) (hc : b.IsNearest i c) : d = c := by
  have heq := le_antisymm (hd.nearest c hc.covers) (hc.nearest d hd.covers)
  exact le_antisymm (hc.upper d hd.covers heq.symm) (hd.upper c hc.covers heq)

/-- The multiple below is the nearest one if the one above is out of the question or farther away. -/
theorem isNearest_floorAt (hb : b.Proper) (hcov : b.Covers (b.floorAt i * 10 ^ i))
    (habove : b.Covers (((b.floorAt i + 1 : ℕ) : ℚ) * 10 ^ i) →
      b.value - b.floorAt i * 10 ^ i < ((b.floorAt i + 1 : ℕ) : ℚ) * 10 ^ i - b.value) :
    b.IsNearest i (b.floorAt i) := by
  have hself := abs_of_le_floorAt hb (le_refl (b.floorAt i))
  have hbelow : ∀ c : ℕ, c ≤ b.floorAt i →
      |b.value - b.floorAt i * 10 ^ i| ≤ |b.value - c * 10 ^ i| := fun c hc => by
    linarith [abs_of_le_floorAt hb hc, mul_le_floorAt_mul (b := b) hc]
  have hfar : ∀ c : ℕ, b.Covers (c * 10 ^ i) → b.floorAt i < c →
      |b.value - b.floorAt i * 10 ^ i| < |b.value - c * 10 ^ i| := fun c hcov' hc => by
    linarith [abs_of_floorAt_lt hc, floorAt_succ_mul_le hc, habove ((covers_floorAt hb hcov').2 hc)]
  refine ⟨hcov, fun c hc => ?_, fun c hc heq => ?_⟩
  · rcases le_or_gt c (b.floorAt i) with hle | hlt
    · exact hbelow c hle
    · exact (hfar c hc hlt).le
  · by_contra hlt
    exact (hfar c hc (not_le.mp hlt)).ne heq

/-- The multiple above is the nearest one if the one below is out of the question or not nearer. -/
theorem isNearest_floorAt_succ (hb : b.Proper)
    (hcov : b.Covers (((b.floorAt i + 1 : ℕ) : ℚ) * 10 ^ i))
    (hbelow : b.Covers (b.floorAt i * 10 ^ i) →
      ((b.floorAt i + 1 : ℕ) : ℚ) * 10 ^ i - b.value ≤ b.value - b.floorAt i * 10 ^ i) :
    b.IsNearest i (b.floorAt i + 1) := by
  have hself := abs_of_floorAt_lt (Nat.lt_succ_self (b.floorAt i))
  refine ⟨hcov, fun c hc => ?_, fun c hc heq => ?_⟩
  · rcases le_or_gt c (b.floorAt i) with hle | hlt
    · linarith [abs_of_le_floorAt hb hle, mul_le_floorAt_mul (b := b) hle,
        hbelow ((covers_floorAt hb hc).1 hle)]
    · linarith [abs_of_floorAt_lt hlt, floorAt_succ_mul_le hlt]
  · -- a multiple further up is farther away
    by_contra hlt
    rw [not_le] at hlt
    have hfarther : ((b.floorAt i + 1 : ℕ) : ℚ) * 10 ^ i < c * 10 ^ i := by gcongr
    linarith [abs_of_floorAt_lt (Nat.lt_of_succ_lt hlt)]

/-- What is found on a grid is the nearest multiple that rounds to the number. -/
theorem isNearest_of_multipleAt? (hb : b.Proper) (h : b.multipleAt? i = some d) :
    b.IsNearest i d := by
  have hnearer : ¬ (!b.nearerBelow (b.floorAt i) i) = true ↔
      b.value - b.floorAt i * 10 ^ i < ((b.floorAt i + 1 : ℕ) : ℚ) * 10 ^ i - b.value := by
    rw [← nearerBelow_iff, Bool.not_eq_true', Bool.not_eq_false]
  rw [multipleAt?] at h
  split_ifs at h with hlow hup hup <;> rw [holds_iff] at hlow <;> cases h
  · rw [Bool.and_eq_true, holds_iff] at hup
    exact isNearest_floorAt_succ hb hup.1 fun _ =>
      not_lt.mp fun hlt => hnearer.mpr hlt hup.2
  · refine isNearest_floorAt hb hlow fun hcov => hnearer.mp fun hnot => hup ?_
    rw [Bool.and_eq_true, holds_iff]
    exact ⟨hcov, hnot⟩
  · rw [holds_iff] at hup
    exact isNearest_floorAt_succ hb hup fun hcov => absurd hcov hlow

/-- Nothing is found on a grid exactly if no multiple at all rounds to the number. -/
theorem multipleAt?_eq_none_iff (hb : b.Proper) :
    b.multipleAt? i = none ↔ ∀ c : ℕ, ¬ b.Covers (c * 10 ^ i) := by
  constructor
  · intro h c hcov
    rw [multipleAt?] at h
    split_ifs at h with hlow hup hup
    rw [holds_iff] at hlow hup
    rcases le_or_gt c (b.floorAt i) with hle | hlt
    · exact hlow ((covers_floorAt hb hcov).1 hle)
    · exact hup ((covers_floorAt hb hcov).2 hlt)
  · intro h
    rw [Option.eq_none_iff_forall_ne_some]
    exact fun d hd => h d (isNearest_of_multipleAt? hb hd).covers

/-! ## The search -/

/-- The decimal `d * 10 ^ i` rounds to the number, no multiple of a greater power of ten does, and of
those that are multiples of the same one it is the nearest. -/
structure IsShortest (b : Binary) (d : ℕ) (i : ℤ) : Prop extends b.IsNearest i d where
  coarsest : ∀ j > i, ∀ c : ℕ, ¬ b.Covers (c * 10 ^ j)

/-- One decimal at most is shortest. -/
theorem IsShortest.unique {d' : ℕ} {i' : ℤ} (h : b.IsShortest d i) (h' : b.IsShortest d' i') :
    d = d' ∧ i = i' := by
  obtain rfl : i = i' := by
    rcases lt_trichotomy i i' with hlt | heq | hlt
    · exact absurd h'.covers (h.coarsest i' hlt d')
    · exact heq
    · exact absurd h.covers (h'.coarsest i hlt d)
  exact ⟨h.toIsNearest.unique h'.toIsNearest, rfl⟩

/-- The search stops at the first grid on which there is something to find. -/
theorem search_eq_some {steps : ℕ} (h : b.search steps i = some (d, j)) :
    b.multipleAt? j = some d ∧ ∀ k, j < k → k ≤ i → b.multipleAt? k = none := by
  induction steps generalizing i with
  | zero => cases h
  | succ steps ih =>
    rw [search] at h
    split at h
    · next d' hd =>
      simp only [Option.some.injEq, Prod.mk.injEq] at h
      obtain ⟨rfl, rfl⟩ := h
      exact ⟨hd, fun k hlt hle => absurd hlt (not_lt.mpr hle)⟩
    · next hnone =>
      obtain ⟨hj, hrest⟩ := ih h
      refine ⟨hj, fun k hlt hle => ?_⟩
      rcases eq_or_lt_of_le hle with rfl | hlt'
      · exact hnone
      · exact hrest k hlt (by omega)

/-- A search that reaches down to a grid with a multiple finds one. -/
theorem exists_search {steps : ℕ} (hj : j ≤ i) (hsteps : i - steps < j)
    (h : b.multipleAt? j ≠ none) : ∃ d k, b.search steps i = some (d, k) := by
  induction steps generalizing i with
  | zero =>
    rw [Nat.cast_zero] at hsteps
    omega
  | succ steps ih =>
    rw [search]
    split
    · next d hd => exact ⟨d, i, rfl⟩
    · next hnone =>
      have hne : j ≠ i := by
        rintro rfl
        exact h hnone
      exact ih (by omega) (by push_cast at hsteps; omega)

/-- On a grid that is finer than half of the last binary place something rounds to the number. -/
theorem covers_of_fine (hb : b.Proper) (hfine : (10 : ℚ) ^ i < 2 ^ (b.exponent - 1)) :
    b.Covers (((b.floorAt i + 1 : ℕ) : ℚ) * 10 ^ i) := by
  have hlt := lt_floorAt_succ_mul b i
  have hle := floorAt_mul_le hb i
  refine covers_of_inside (hb.bottom_lt_value.trans hlt) ?_
  rw [Nat.cast_add, Nat.cast_one, add_mul, one_mul, b.top_eq]
  linarith

/-- The multiples of `10 ^ -330` are fine enough for every number. -/
theorem Proper.fine (hb : b.Proper) : (10 : ℚ) ^ (-330 : ℤ) < 2 ^ (b.exponent - 1) := by
  have hpow : ((2 ^ 1075 : ℕ) : ℚ) < ((10 ^ 330 : ℕ) : ℚ) := Nat.cast_lt.mpr (by decide +kernel)
  rw [Nat.cast_pow, Nat.cast_pow, Nat.cast_ofNat, Nat.cast_ofNat] at hpow
  calc (10 : ℚ) ^ (-330 : ℤ) < 2 ^ (-1075 : ℤ) := by
        rw [zpow_neg, zpow_neg, zpow_ofNat, zpow_ofNat]
        exact inv_strictAnti₀ (by positivity) hpow
    _ ≤ 2 ^ (b.exponent - 1) :=
      zpow_le_zpow_right₀ (by norm_num) (by have := hb.ge; omega)

/-- Multiples of powers above `10 ^ 309` are too large. -/
theorem Proper.not_covers_of_lt (hb : b.Proper) (hj : 309 < j) : ¬ b.Covers (c * 10 ^ j) := by
  intro hcov
  have hpos := hb.pos_of_covers hcov
  have hone : (1 : ℚ) ≤ c := by
    rw [Nat.one_le_cast, Nat.one_le_iff_ne_zero]
    rintro rfl
    simp at hpos
  have hlarge : (10 : ℚ) ^ 310 ≤ c * 10 ^ j := by
    calc (10 : ℚ) ^ 310 = 10 ^ ((310 : ℕ) : ℤ) := (zpow_natCast _ _).symm
      _ ≤ 10 ^ j := by
        gcongr
        · norm_num
        · omega
      _ ≤ c * 10 ^ j := le_mul_of_one_le_left (by positivity) hone
  exact absurd (hb.lt_of_covers hcov) (not_lt.mpr hlarge)

/-- What the search finds is shortest. -/
theorem isShortest_of_shortest? (hb : b.Proper) (h : b.shortest? = some (d, i)) :
    b.IsShortest d i := by
  obtain ⟨hfound, hcoarse⟩ := search_eq_some h
  refine ⟨isNearest_of_multipleAt? hb hfound, fun j hj c => ?_⟩
  rcases le_or_gt j 309 with hle | hlt
  · exact (multipleAt?_eq_none_iff hb).mp (hcoarse j hj hle) c
  · exact hb.not_covers_of_lt hlt

/-- Every number has a shortest decimal. -/
theorem exists_shortest? (hb : b.Proper) : ∃ d i, b.shortest? = some (d, i) :=
  exists_search (j := -330) (by norm_num) (by norm_num) fun hnone =>
    (multipleAt?_eq_none_iff hb).mp hnone _ (covers_of_fine hb hb.fine)

/-- The search finds the shortest decimal of a number. -/
theorem shortest?_eq_some_iff (hb : b.Proper) :
    b.shortest? = some (d, i) ↔ b.IsShortest d i := by
  refine ⟨isShortest_of_shortest? hb, fun h => ?_⟩
  obtain ⟨d', i', hfound⟩ := exists_shortest? hb
  obtain ⟨rfl, rfl⟩ := h.unique (isShortest_of_shortest? hb hfound)
  exact hfound

end Binary

/-! ## Digits before and after the point -/

/-- A natural number has at most `k` digits if it is below `10 ^ k`. -/
theorem digitCount_le_iff (n k : ℕ) : digitCount n ≤ k ↔ n < 10 ^ k := by
  unfold digitCount
  split_ifs with h0
  · simp [h0]
  · rcases Nat.eq_zero_or_pos k with rfl | hk
    · have := Nat.length_toDigits_pos (b := 10) (n := n)
      simp only [pow_zero]
      omega
    · exact Nat.length_toDigits_le_iff (by norm_num) hk

/-- The decimal `s` has `w` digits before its point, leading zeros aside. -/
def HasWholeDigits (s : ℚ) (w : ℕ) : Prop :=
  IsLeast {k : ℕ | s < 10 ^ k} w

/-- The decimal `s` has `p` digits after its point, zeros at the end aside. -/
def HasPlaces (s : ℚ) (p : ℕ) : Prop :=
  IsLeast {k : ℕ | ∃ c : ℕ, s * 10 ^ k = c} p

/-- The magnitude of a finite number is written as the decimal `s`: zero, or its shortest decimal. -/
def IsWrittenAs (x : Float) (s : ℚ) : Prop :=
  match Binary.ofFloat? x with
  | none => s = 0
  | some b => ∃ d i, b.IsShortest d i ∧ s = d * 10 ^ i

/-- Every float is written in some way. -/
theorem exists_isWrittenAs (x : Float) : ∃ s, IsWrittenAs x s := by
  unfold IsWrittenAs
  cases hx : Binary.ofFloat? x with
  | none => exact ⟨0, rfl⟩
  | some b =>
    have hb := Binary.proper_of_ofFloat? hx
    obtain ⟨d, i, h⟩ := Binary.exists_shortest? hb
    exact ⟨d * 10 ^ i, d, i, Binary.isShortest_of_shortest? hb h, rfl⟩

/-- A number is written as one decimal. -/
theorem IsWrittenAs.unique {x : Float} {s t : ℚ} (hs : IsWrittenAs x s) (ht : IsWrittenAs x t) :
    s = t := by
  unfold IsWrittenAs at hs ht
  cases hx : Binary.ofFloat? x with
  | none =>
    rw [hx] at hs ht
    rw [hs, ht]
  | some b =>
    rw [hx] at hs ht
    obtain ⟨d, i, h, rfl⟩ := hs
    obtain ⟨d', i', h', rfl⟩ := ht
    obtain ⟨rfl, rfl⟩ := h.unique h'
    rfl

/-- A decimal has as many whole digits as its digits and its exponent say. -/
theorem hasWholeDigits_mul_zpow (hd : 0 < d) (i : ℤ) :
    HasWholeDigits (d * 10 ^ i) ((digitCount d : ℤ) + i).toNat := by
  have hiff : ∀ k : ℕ, (d : ℚ) * 10 ^ i < 10 ^ k ↔ ((digitCount d : ℤ) + i).toNat ≤ k := by
    intro k
    rcases le_or_gt i k with hle | hlt
    · obtain ⟨t, ht⟩ := Int.eq_ofNat_of_zero_le (sub_nonneg.mpr hle)
      have hk : (10 : ℚ) ^ k = ((10 ^ t : ℕ) : ℚ) * 10 ^ i := by
        rw [Nat.cast_pow, Nat.cast_ofNat, ← zpow_natCast, ← zpow_natCast,
          ← zpow_add₀ (by norm_num)]
        congr 1
        omega
      rw [hk, mul_lt_mul_iff_of_pos_right (by positivity), Nat.cast_lt, ← digitCount_le_iff]
      omega
    · have hone : 1 ≤ digitCount d := by
        by_contra h0
        have := (digitCount_le_iff d 0).mp (by omega)
        simp only [pow_zero] at this
        omega
      refine iff_of_false (not_lt.mpr ?_) (by omega)
      calc (10 : ℚ) ^ k = 10 ^ (k : ℤ) := (zpow_natCast _ _).symm
        _ ≤ 10 ^ i := by
          gcongr
          norm_num
        _ ≤ d * 10 ^ i := le_mul_of_one_le_left (by positivity) (Nat.one_le_cast.mpr hd)
  exact ⟨(hiff _).mpr (le_refl _), fun k hk => (hiff k).mp hk⟩

namespace Binary

variable {b : Binary}

/-- The shortest decimal has as many places as its exponent says. -/
theorem IsShortest.hasPlaces (h : b.IsShortest d i) : HasPlaces (d * 10 ^ i) (-i).toNat := by
  refine ⟨⟨d * 10 ^ i.toNat, ?_⟩, fun k hk => ?_⟩
  · rw [mul_assoc, zpow_mul_pow_toNat_neg (by norm_num)]
    push_cast
    rfl
  · obtain ⟨c, hc⟩ := hk
    have hsame : (d : ℚ) * 10 ^ i = c * 10 ^ (-(k : ℤ)) := by
      rw [← hc, mul_assoc, zpow_neg, zpow_natCast, mul_inv_cancel₀ (by positivity), mul_one]
    by_contra hlt
    exact h.coarsest (-(k : ℤ)) (by omega) c (hsame ▸ h.covers)

end Binary

/-- The digits counted are those of the decimal that the number is written as. -/
theorem digitCounts_of_isWrittenAs {x : Float} {s : ℚ} (h : IsWrittenAs x s) :
    HasWholeDigits s (digitCounts x).1 ∧ HasPlaces s (digitCounts x).2 := by
  unfold IsWrittenAs at h
  unfold digitCounts
  cases hx : Binary.ofFloat? x with
  | none =>
    rw [hx] at h
    obtain rfl := h
    exact ⟨⟨by simp, fun k _ => Nat.zero_le k⟩, ⟨0, by simp⟩, fun k _ => Nat.zero_le k⟩
  | some b =>
    rw [hx] at h
    obtain ⟨d, i, hshort, rfl⟩ := h
    have hb := Binary.proper_of_ofFloat? hx
    rw [Option.bind_some, (Binary.shortest?_eq_some_iff hb).mpr hshort]
    have hd : 0 < d := by
      have := hb.pos_of_covers hshort.covers
      exact Nat.pos_of_ne_zero fun h0 => by simp [h0] at this
    exact ⟨hasWholeDigits_mul_zpow hd i, hshort.hasPlaces⟩

end GuidedXml.Number
