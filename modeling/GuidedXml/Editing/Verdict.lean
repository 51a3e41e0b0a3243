/-
# Verdicts

What a validation found out about a node: whether its value has the right type, and which rules are
about it. Whether those rules hold is looked up when it is asked for, so that a verdict does not
grow old when rules are evaluated again.

The main statements say which rules a verdict names after one was added or dropped, and when two
verdicts taken together are valid.
-/
import GuidedXml.Rule.Book

namespace GuidedXml

/-- The rules with one more at the end, unless it is among them. -/
def appendRule (rs : List RuleId) (r : RuleId) : List RuleId :=
  if rs.contains r then rs else rs ++ [r]

@[simp] theorem mem_appendRule {rs : List RuleId} {r s : RuleId} :
    s ∈ appendRule rs r ↔ s ∈ rs ∨ s = r := by
  unfold appendRule
  split
  · rename_i h
    have := List.contains_iff_mem.mp h
    grind
  · simp

/-- Appending keeps a list without repetitions. -/
theorem nodup_appendRule {rs : List RuleId} (r : RuleId) (h : rs.Nodup) :
    (appendRule rs r).Nodup := by
  unfold appendRule
  split
  · exact h
  · rename_i hr
    rw [List.nodup_append]
    refine ⟨h, by simp, ?_⟩
    intro a ha b hb hab
    simp_all

/-- Rules of a second list appended to a first one. -/
def appendRules (rs more : List RuleId) : List RuleId :=
  more.foldl appendRule rs

@[simp] theorem mem_appendRules {rs more : List RuleId} {s : RuleId} :
    s ∈ appendRules rs more ↔ s ∈ rs ∨ s ∈ more := by
  unfold appendRules
  induction more generalizing rs with
  | nil => simp
  | cons r more ih => simp [ih, or_assoc]

theorem nodup_appendRules {rs : List RuleId} (more : List RuleId) (h : rs.Nodup) :
    (appendRules rs more).Nodup := by
  unfold appendRules
  induction more generalizing rs with
  | nil => exact h
  | cons r more ih => exact ih (nodup_appendRule r h)

/-- What a validation found out about a node. -/
structure Verdict where
  /-- Whether the value has the right type. -/
  typeOk : Bool
  /-- The rules about the node, without repetitions. -/
  rules : List RuleId := []
  deriving DecidableEq, Repr

namespace Verdict

/-- The verdict of a node that cannot be judged. -/
def unknown : Verdict := { typeOk := false }

/-- Whether the value has the right type and all rules about the node hold. -/
def isValid (v : Verdict) (book : RuleBook) : Bool :=
  v.typeOk && v.rules.all book.isSatisfied

/-- The rules about the node that do not hold; none if the type is wrong, because then they say
nothing about the value. -/
def violated (v : Verdict) (book : RuleBook) : List RuleId :=
  if v.typeOk then v.rules.filter fun r => !book.isSatisfied r else []

/-- The verdict with one more rule. -/
def addRule (v : Verdict) (r : RuleId) : Verdict :=
  { v with rules := appendRule v.rules r }

/-- The verdict without a rule. -/
def dropRule (v : Verdict) (r : RuleId) : Verdict :=
  { v with rules := v.rules.filter (· ≠ r) }

/-- Two verdicts taken together: the types have to be right in both, and the rules of the second
come after those of the first. -/
def and (v w : Verdict) : Verdict :=
  { typeOk := v.typeOk && w.typeOk, rules := appendRules v.rules w.rules }

/-- Two verdicts taken together are valid exactly if both are. -/
theorem isValid_and (v w : Verdict) (book : RuleBook) :
    (v.and w).isValid book = (v.isValid book && w.isValid book) := by
  rw [Bool.eq_iff_iff]
  simp only [isValid, Verdict.and, Bool.and_eq_true, List.all_eq_true, mem_appendRules]
  grind

end Verdict

end GuidedXml
