/-
# Shortest decimals

The decimal with the fewest digits among those that read back to a given floating point number.

A finite positive number is `m * 2 ^ q`. The reals that round to it form an interval around it, and
the decimal sought is a multiple of the largest power of ten that has a multiple in that interval.
The main statement says that what the search returns lies in the interval.
-/

namespace GuidedXml.Number

/-! ## The interval of a number -/

/-- The positive number `significand * 2 ^ exponent`, with the reals that round to it. -/
structure Binary where
  /-- The significand. -/
  significand : Nat
  /-- The exponent of two. -/
  exponent : Int
  /-- Whether the next number below is only half as far away as the next one above. -/
  tightBelow : Bool
  deriving DecidableEq, Repr

/-- The magnitude of a floating point number, `none` if it is zero, infinite or no number. -/
def Binary.ofFloat? (x : Float) : Option Binary :=
  let bits : Nat := x.toBits.toNat
  let biased : Nat := bits / 0x10000000000000 % 0x800
  let fraction : Nat := bits % 0x10000000000000
  if biased = 2047 then none
  else if biased = 0 then
    if fraction = 0 then none else some ⟨fraction, -1074, false⟩
  else some ⟨0x10000000000000 + fraction, (biased : Int) - 1075, fraction = 0 && 1 < biased⟩

/-- Four times the lower end of the interval, in units of the last binary place. -/
def Binary.low (b : Binary) : Nat :=
  if b.tightBelow then 4 * b.significand - 1 else 4 * b.significand - 2

/-- Four times the upper end of the interval, in units of the last binary place. -/
def Binary.high (b : Binary) : Nat :=
  4 * b.significand + 2

/-- The product of `n`, `2 ^ twos` and `10 ^ tens`, where negative exponents count as zero. -/
def scaled (n : Nat) (twos tens : Int) : Nat :=
  (n <<< twos.toNat) * Nat.pow 10 tens.toNat

/-- Whether `d * 10 ^ i ≤ n * 2 ^ j`: every factor stands on the side where its exponent is not
negative. -/
def decimalLe (d : Nat) (i : Int) (n : Nat) (j : Int) : Bool :=
  scaled d (-j) i ≤ scaled n j (-i)

/-- Whether `n * 2 ^ j ≤ d * 10 ^ i`. -/
def binaryLe (n : Nat) (j : Int) (d : Nat) (i : Int) : Bool :=
  scaled n j (-i) ≤ scaled d (-j) i

/-- Whether `d * 10 ^ i` rounds to the number; the ends of the interval do if the significand is
even. -/
def Binary.holds (b : Binary) (d : Nat) (i : Int) : Bool :=
  if b.significand % 2 = 0 then
    binaryLe b.low (b.exponent - 2) d i && decimalLe d i b.high (b.exponent - 2)
  else
    !decimalLe d i b.low (b.exponent - 2) && !binaryLe b.high (b.exponent - 2) d i

/-! ## The search -/

/-- The largest `d` with `d * 10 ^ i` at most the number. -/
def Binary.floorAt (b : Binary) (i : Int) : Nat :=
  scaled b.significand b.exponent (-i) / scaled 1 (-b.exponent) i

/-- Whether the number is nearer to `d * 10 ^ i` than to `(d + 1) * 10 ^ i`. -/
def Binary.nearerBelow (b : Binary) (d : Nat) (i : Int) : Bool :=
  !decimalLe (2 * d + 1) i (2 * b.significand) b.exponent

/-- A multiple of `10 ^ i` that rounds to the number, if one of its two neighbours does: the nearer
one if both do, the upper one if they are equally near. -/
def Binary.multipleAt? (b : Binary) (i : Int) : Option Nat :=
  let d := b.floorAt i
  if b.holds d i then
    if b.holds (d + 1) i && !b.nearerBelow d i then some (d + 1) else some d
  else if b.holds (d + 1) i then some (d + 1) else none

/-- A multiple found rounds to the number. -/
theorem Binary.holds_of_multipleAt? {b : Binary} {i : Int} {d : Nat}
    (h : b.multipleAt? i = some d) : b.holds d i = true := by
  simp only [multipleAt?] at h
  split at h
  · next hlow =>
    split at h
    · next hup =>
      cases h
      exact (Bool.and_eq_true _ _ |>.mp hup).1
    · cases h
      exact hlow
  · split at h
    · next hup =>
      cases h
      exact hup
    · cases h

/-- The first power of ten, going down from `10 ^ i`, that has a multiple in the interval, and
that multiple. -/
def Binary.search (b : Binary) : Nat → Int → Option (Nat × Int)
  | 0, _ => none
  | steps + 1, i =>
    match b.multipleAt? i with
    | some d => some (d, i)
    | none => b.search steps (i - 1)

/-- The shortest decimal of the number, as digits and an exponent of ten. Powers from `10 ^ 309`
down to `10 ^ -324` are tried: the smallest number is a multiple of the last one after rounding. -/
def Binary.shortest? (b : Binary) : Option (Nat × Int) :=
  b.search 640 309

/-- What the search returns rounds to the number. -/
theorem Binary.holds_of_search {b : Binary} {steps : Nat} {i : Int} {d : Nat} {e : Int}
    (h : b.search steps i = some (d, e)) : b.holds d e = true := by
  induction steps generalizing i with
  | zero => simp [search] at h
  | succ n ih =>
    rw [search] at h
    split at h
    · next d' hd =>
      simp only [Option.some.injEq, Prod.mk.injEq] at h
      obtain ⟨rfl, rfl⟩ := h
      exact holds_of_multipleAt? hd
    · exact ih h

/-! ## Digits before and after the point -/

/-- The number of decimal digits of a natural number; zero has none. -/
def digitCount (n : Nat) : Nat :=
  if n = 0 then 0 else (Nat.toDigits 10 n).length

/-- How many digits the shortest decimal of the magnitude has before the point, without leading
zeros, and after it. -/
def digitCounts (x : Float) : Nat × Nat :=
  match (Binary.ofFloat? x).bind Binary.shortest? with
  | none => (0, 0)
  | some (d, e) => (((digitCount d : Int) + e).toNat, (-e).toNat)

end GuidedXml.Number
