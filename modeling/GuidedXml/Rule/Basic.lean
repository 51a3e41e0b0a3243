/-
# Rules

A rule relates fields of a document to each other: if all literals of its premise hold, all literals
of its conclusion have to hold.

The main statement says when a rule holds of a document; what else an evaluation finds out is kept
beside it.
-/
import GuidedXml.Literal
import GuidedXml.Rule.Parameter
import GuidedXml.Table

namespace GuidedXml

/-- The name of a rule. -/
abbrev RuleId := String

/-- A rule about documents. -/
structure Rule where
  id : RuleId
  /-- The parameters, at most one of an id. -/
  parameters : List Parameter := []
  premise : List Literal := []
  conclusion : List Literal := []
  /-- What to say when the rule is violated. -/
  message : String := ""
  deriving DecidableEq, Repr

namespace Rule

/-- The parameters without those that a later one of the same id replaces in its place. -/
def distinct (ps : List Parameter) : List Parameter :=
  (Table.ofList (ps.map fun p => (p.id, p))).entries.map Prod.snd

/-- The values of the parameters in a document, by id. -/
def values (r : Rule) (d : Document) (id : String) : Option String :=
  (r.parameters.find? fun p => p.id = id).bind fun p => (p.resolve? d).map Prod.snd

/-- The nodes that the parameters lead to, the first one for every parameter, without
repetitions. -/
def nodes (r : Rule) (d : Document) : List Handle :=
  (r.parameters.filterMap fun p => (p.resolve? d).map Prod.fst).eraseDups

/-- Whether a literal holds in a document. -/
def literalHolds (r : Rule) (d : Document) (l : Literal) : Bool :=
  (l.evaluate (r.values d)).truth = .holds

/-- Whether the premise holds in a document. -/
def premiseHolds (r : Rule) (d : Document) : Bool :=
  r.premise.all (r.literalHolds d)

/-- Whether the rule holds of a document: a premise that fails or cannot be evaluated makes it
hold. -/
def holds (r : Rule) (d : Document) : Bool :=
  !r.premiseHolds d || r.conclusion.all (r.literalHolds d)

/-- A rule holds exactly if its conclusion holds wherever its premise does. -/
theorem holds_iff {r : Rule} {d : Document} :
    r.holds d = true ↔
      ((∀ l ∈ r.premise, r.literalHolds d l = true) →
        ∀ l ∈ r.conclusion, r.literalHolds d l = true) := by
  simp only [holds, premiseHolds, Bool.or_eq_true, Bool.not_eq_true', List.all_eq_true,
    ← Bool.not_eq_true]
  exact Decidable.imp_iff_not_or.symm

/-- The complaints of evaluating the rule: about its parameters, then about its premise, then, if
that holds, about its conclusion. -/
def diagnostics (r : Rule) (d : Document) : List Diagnostic :=
  let complaints := fun (ls : List Literal) =>
    ls.flatMap fun l => (l.evaluate (r.values d)).diagnostics
  let all := r.parameters.filterMap Parameter.diagnostic? ++ complaints r.premise ++
    if r.premiseHolds d then complaints r.conclusion else []
  all.map fun c => { c with rule := some r.id }

end Rule

end GuidedXml
