/-
# The language of a content

What may be inside an element is a language whose letters are names. An element stands for its name,
as often as its bounds say, a sequence for a word of each part one after the other, and a choice for
a word of one alternative. Groups stand for nothing.

The main statement says that to tell whether each constraint has a word, only those that there are
need to be looked at.
-/
import GuidedXml.Proofs.Schema.Shape

namespace GuidedXml.Schema.ContentModel

variable {m : ContentModel} {c : ConstraintId}

/-! ## Words -/

mutual
/-- The names are a word of the constraint. -/
inductive Word (m : ContentModel) : ConstraintId → List String → Prop
  | element {c : ConstraintId} {n : Nat} : m.kind? c = some .element →
      (m.occurs c).contains n = true → Word m c (List.replicate n (m.name c))
  | sequence {c : ConstraintId} {w : List String} : m.kind? c = some .sequence →
      Words m (m.children c) w → Word m c w
  | choice {c a : ConstraintId} {w : List String} : m.kind? c = some .choice →
      a ∈ m.children c → Word m a w → Word m c w
/-- The names are words of the constraints one after the other. -/
inductive Words (m : ContentModel) : List ConstraintId → List String → Prop
  | nil : Words m [] []
  | cons {c : ConstraintId} {cs : List ConstraintId} {v w : List String} : Word m c v →
      Words m cs w → Words m (c :: cs) (v ++ w)
end

/-! ## Contents that can be filled -/

/-- No groups, alternatives for every choice, and no empty bounds. -/
structure Productive (m : ContentModel) : Prop where
  no_group : ∀ i, m.kind? i ≠ some .group
  choice_nonempty : ∀ i, m.kind? i = some .choice → m.children i ≠ []
  min_le_max : ∀ i, ∀ n ∈ (m.occurs i).max, (m.occurs i).min ≤ n

/-- Only the constraints that there are need to be looked at. -/
theorem productive_iff : m.Productive ↔ ∀ n < m.entries.size,
    m.kind? ⟨n⟩ ≠ some .group ∧ (m.kind? ⟨n⟩ = some .choice → m.children ⟨n⟩ ≠ []) ∧
    ∀ k ∈ (m.occurs ⟨n⟩).max, (m.occurs ⟨n⟩).min ≤ k := by
  constructor
  · exact fun hp n _ => ⟨hp.no_group _, hp.choice_nonempty _, hp.min_le_max _⟩
  · intro hall
    refine ⟨?_, ?_, ?_⟩
    · intro i hk
      exact (hall i.index (index_lt_of_kind? hk)).1 hk
    · intro i hk
      exact (hall i.index (index_lt_of_kind? hk)).2.1 hk
    · intro i
      by_cases hi : i.index < m.entries.size
      · exact (hall i.index hi).2.2
      · rw [occurs, get?_eq_none_of_le (by omega)]
        intro n hn
        obtain rfl := Option.some.inj hn
        exact Nat.le_refl 1

instance : Decidable m.Productive :=
  decidable_of_iff _ productive_iff.symm

/-- An element stands for its name as often as it has to be there. -/
theorem Productive.word_min (hp : m.Productive) (hc : m.kind? c = some .element) :
    m.Word c (List.replicate (m.occurs c).min (m.name c)) :=
  .element hc (Occurs.contains_iff.mpr ⟨Nat.le_refl _, hp.min_le_max c⟩)

end GuidedXml.Schema.ContentModel
