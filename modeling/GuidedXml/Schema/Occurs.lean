/-
# Occurrence bounds

How often an element may stand in its place: at least and at most how many times.

The main statement says that a count fits exactly if it reaches the lower bound and does not exceed
the upper one.
-/

namespace GuidedXml.Schema

/-- Occurrence bounds; without an upper one there is no limit. -/
structure Occurs where
  /-- At least so many. -/
  min : Nat
  /-- At most so many. -/
  max : Option Nat
  deriving DecidableEq, Repr

namespace Occurs

/-- Exactly one. -/
def once : Occurs := ⟨1, some 1⟩

/-- At most one. -/
def optional : Occurs := ⟨0, some 1⟩

/-- Any number. -/
def any : Occurs := ⟨0, none⟩

/-- A number from `n` on. -/
def atLeast (n : Nat) : Occurs := ⟨n, none⟩

instance : Inhabited Occurs := ⟨once⟩

/-- Whether the count is beyond the upper bound. -/
def exceededBy (o : Occurs) (n : Nat) : Bool :=
  o.max.any (· < n)

/-- Whether one more than the count is still within the upper bound. -/
def allowsMore (o : Occurs) (n : Nat) : Bool :=
  o.max.all (n < ·)

/-- Whether the count is within both bounds. -/
def contains (o : Occurs) (n : Nat) : Bool :=
  o.min ≤ n && !o.exceededBy n

/-- One more is allowed exactly if it does not exceed the bound. -/
theorem allowsMore_eq (o : Occurs) (n : Nat) : o.allowsMore n = !o.exceededBy (n + 1) := by
  cases h : o.max with
  | none => simp [allowsMore, exceededBy, h]
  | some m =>
    simp only [allowsMore, exceededBy, h, Option.all_some, Option.any_some]
    by_cases hm : n < m
    · simp [hm, Nat.not_lt.mpr (Nat.succ_le_of_lt hm)]
    · simp [hm, Nat.lt_succ_of_le (Nat.not_lt.mp hm)]

/-- A count fits if it reaches the lower bound and does not exceed the upper one. -/
theorem contains_iff {o : Occurs} {n : Nat} :
    o.contains n = true ↔ o.min ≤ n ∧ ∀ m ∈ o.max, n ≤ m := by
  cases h : o.max <;> simp [contains, exceededBy, h]

end Occurs

end GuidedXml.Schema
