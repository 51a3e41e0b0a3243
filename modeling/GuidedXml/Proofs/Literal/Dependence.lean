/-
# What the outcome of a literal depends on

The tokens of a literal refer to parameters by words that name no predicate. Reading looks up the
values of these parameters only: a word that names a predicate means that predicate, whether or not
there is a value of that name.

The main statement says that values which agree on the parameters of a literal give it the same
outcome, with the same diagnostics at the same places.
-/
import GuidedXml.Proofs.Rule.Comparing
import Mathlib.Data.List.Basic
import Mathlib.Logic.Function.Basic
import Mathlib.Tactic.SplitIfs

namespace GuidedXml.Literal

variable {values values' : String → Option String} {t : Token} {ts : List Token} {l : Literal}
  {name : String}

/-- A token is a parameter exactly if it is a word that names no predicate. -/
theorem parameterOf?_eq_some_iff :
    parameterOf? t = some name ↔ t.lexeme = .word name ∧ Predicate.named? name = none := by
  unfold parameterOf?
  split
  · next word hword =>
    rw [hword]
    split_ifs with hp
    · constructor
      · intro h
        cases h
      · rintro ⟨heq, hnone⟩
        rw [Lexeme.word.inj heq, hnone] at hp
        cases hp
    · rw [Bool.not_eq_true, Option.isSome_eq_false_iff, Option.isNone_iff_eq_none] at hp
      constructor
      · intro h
        obtain rfl := Option.some.inj h
        exact ⟨rfl, hp⟩
      · rintro ⟨heq, -⟩
        rw [Lexeme.word.inj heq]
  · next hword =>
    constructor
    · intro h
      cases h
    · rintro ⟨heq, -⟩
      exact absurd heq (hword name)

/-- What a token means depends on the value of the parameter that it refers to, if there is one. -/
theorem meaning?_congr (h : ∀ name, parameterOf? t = some name → values name = values' name) :
    meaning? values t.lexeme = meaning? values' t.lexeme := by
  cases ht : t.lexeme with
  | symbol s => rfl
  | number digits => rfl
  | quoted content => rfl
  | word name =>
    cases hp : Predicate.named? name with
    | some p => rw [meaning?, meaning?, hp]
    | none => rw [meaning?, meaning?, hp, h name (parameterOf?_eq_some_iff.mpr ⟨ht, hp⟩)]

/-- A token is passed over, or read, alike for values that agree on what it refers to. -/
theorem items_congr (h : ∀ name ∈ ts.filterMap parameterOf?, values name = values' name) :
    items values ts = items values' ts := by
  refine List.filterMap_congr fun t ht => ?_
  rw [meaning?_congr fun name hname => h name (List.mem_filterMap.mpr ⟨t, ht, hname⟩)]

/-- Reading depends on the values of the parameters of the literal only. -/
theorem expr_congr (h : ∀ name ∈ l.parameterNames, values name = values' name) :
    l.expr values = l.expr values' := by
  unfold parameterNames at h
  unfold expr
  split
  · rfl
  · next ts hts =>
    rw [hts] at h
    rw [read, read, items_congr h]

/-- No predicate goes by the name of a parameter. -/
theorem named?_of_mem_parameterNames (h : name ∈ l.parameterNames) :
    Predicate.named? name = none := by
  unfold parameterNames at h
  split at h
  · cases h
  · obtain ⟨t, -, ht⟩ := List.mem_filterMap.mp h
    exact (parameterOf?_eq_some_iff.mp ht).2

/-- The outcome of a literal is the same for values that agree on its parameters, both on which of
them have a value and on what it is. A value that goes by the name of a predicate is no matter of
any literal. -/
theorem evaluate_eq_of_agree (h : ∀ name ∈ l.parameterNames, values name = values' name) :
    l.evaluate values = l.evaluate values' ∧ ∀ (p : Predicate) (value : Option String),
      l.evaluate (Function.update values p.name value) = l.evaluate values' := by
  have houtcome : ∀ {values₁}, (∀ name ∈ l.parameterNames, values₁ name = values' name) →
      l.evaluate values₁ = l.evaluate values' := by
    intro values₁ h₁
    rw [evaluate, evaluate, expr_congr h₁]
  refine ⟨houtcome h, fun p value => houtcome fun name hname => ?_⟩
  have hne : name ≠ p.name := by
    rintro rfl
    have hp := named?_of_mem_parameterNames hname
    rw [Predicate.named?_name] at hp
    cases hp
  rw [Function.update_of_ne hne]
  exact h name hname

/-- The mode has to be fast. -/
def fastMode : Literal where
  source := "edlValidation_strIsEqual(mode, 'fast')"

/-- All that this literal asks for is the mode. Where every other name has a value, that of its
predicate too, it holds as it does where no other name has one. -/
theorem evaluate_fastMode :
    fastMode.parameterNames = ["mode"] ∧
    fastMode.evaluate (fun name => if name = "mode" then some "fast" else some "slow") =
      fastMode.evaluate (fun name => if name = "mode" then some "fast" else none) ∧
    (fastMode.evaluate (fun name => if name = "mode" then some "fast" else none)).truth =
      .holds := by
  have hnames : fastMode.parameterNames = ["mode"] := by decide +kernel
  refine ⟨hnames, (evaluate_eq_of_agree fun name hname => ?_).1, ?_⟩
  · rw [hnames, List.mem_singleton] at hname
    rw [if_pos hname, if_pos hname]
  · have hlexemes : (tokens fastMode.source).map (·.map Token.lexeme) =
        .ok (comparison "mode" "fast") := by
      decide +kernel
    rw [truth_of_comparison hlexemes (by decide) (v := "fast") (by rfl), if_pos rfl]

end GuidedXml.Literal
