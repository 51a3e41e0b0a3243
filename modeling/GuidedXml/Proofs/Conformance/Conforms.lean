/-
# Conformance

Which documents are as a content model says. What is inside an element falls into runs, one for each
element of the content and in the order of the content; every run is as long as the bounds say, and
of each choice at most one alternative is there.

A choice may be missing altogether only with an excuse. The strict one is that some alternative need
not be there. The lenient one says the same of every alternative that nothing comes after.
-/
import GuidedXml.Document.Basic
import GuidedXml.Schema.ContentModel

namespace GuidedXml

open Schema (ConstraintId ContentModel)

namespace Schema.ContentModel

/-! ## Contents -/

/-- How often elements of the constraint are among elements of these names. -/
def tally (m : ContentModel) (names : List String) (i : ConstraintId) : Nat :=
  names.count (m.name i)

/-- What is asked of each alternative of a choice if none is there, given the elements of the
content and the names that are there. -/
abbrev Excuse := ContentModel → List ConstraintId → List String → ConstraintId → Prop

/-- Some alternative of the choice need not be there. -/
def Excuse.strict : Excuse := fun m _ _ i =>
  ∃ k ∈ m.alternatives i, (m.occurs k).min = 0

/-- The alternative need not be there, or something that comes after it is. -/
def Excuse.lenient : Excuse := fun m cs names i =>
  (m.occurs i).min = 0 ∨ ∃ j, [i, j].Sublist cs ∧ m.tally names j ≠ 0

/-- Elements of these names, in this order, make up the content. -/
structure Fills (x : Excuse) (m : ContentModel) (cs : List ConstraintId) (names : List String) :
    Prop where
  inOrder : names = cs.flatMap fun i => List.replicate (m.tally names i) (m.name i)
  single : ∀ i ∈ cs, m.isInChoice i = false → (m.occurs i).contains (m.tally names i) = true
  choice : ∀ i ∈ cs, m.isInChoice i = true →
    (∃ k ∈ m.alternatives i, m.tally names k ≠ 0 ∧
      (m.occurs k).contains (m.tally names k) = true ∧
      ∀ l ∈ m.alternatives i, l ≠ k → m.tally names l = 0) ∨
    ((∀ k ∈ m.alternatives i, m.tally names k = 0) ∧ x m cs names i)

end Schema.ContentModel

/-! ## Elements -/

namespace Document

/-- An element is as its constraint says, apart from what the elements inside are like. -/
structure Suits (d : Document) (x : ContentModel.Excuse) (m : ContentModel)
    (whitelist : List String) (h : Handle) (c : ConstraintId) : Prop where
  attributes : ∀ a ∈ d.attributes h,
    (∃ i ∈ m.attributes c, m.name i = d.name a) ∨ d.name a ∈ whitelist
  content : m.Fills x (m.contentElements c) ((d.elements h).map d.name)

/-- An element and all elements below it are as their constraints say. -/
inductive Conforms (d : Document) (x : ContentModel.Excuse) (m : ContentModel)
    (whitelist : List String) : Handle → ConstraintId → Prop
  | intro {h : Handle} {c : ConstraintId} : d.Suits x m whitelist h c →
      (∀ k ∈ d.elements h, ∀ i ∈ m.contentElements c, m.name i = d.name k →
        Conforms d x m whitelist k i) →
      Conforms d x m whitelist h c

end Document

end GuidedXml
