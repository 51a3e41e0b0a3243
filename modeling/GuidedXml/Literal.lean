/-
# Literals

A literal is one condition of a rule: a source whose expression holds, does not hold, or has no
truth value at all, which a diagnostic then explains.
-/
import GuidedXml.Diagnostic
import GuidedXml.Literal.Grammar
import GuidedXml.Literal.Value

namespace GuidedXml

/-- The three outcomes of a literal. -/
inductive Literal.Truth where
  | holds | fails
  /-- The literal could not be reduced to a boolean. -/
  | undetermined
  deriving DecidableEq, Repr

/-- The written form of an outcome. -/
def Literal.Truth.render : Truth → String
  | holds => "TRUE"
  | fails => "FALSE"
  | undetermined => "ERROR"

/-- A literal, given by its source. -/
structure Literal where
  source : String
  deriving DecidableEq, Repr

namespace Literal

/-- What evaluating a literal gives. -/
structure Outcome where
  truth : Truth
  diagnostics : List Diagnostic := []
  deriving DecidableEq, Repr

/-- The name of the parameter that a token refers to, if it refers to one. -/
def parameterOf? (t : Token) : Option String :=
  match t.lexeme with
  | .word name => if (Predicate.named? name).isSome then none else some name
  | _ => none

/-- The names of the parameters in a literal, in order and with repetitions. A source without tokens
refers to none. -/
def parameterNames (l : Literal) : List String :=
  match tokens l.source with
  | .error _ => []
  | .ok ts => ts.filterMap parameterOf?

/-- The expression of a literal when parameters have these values. -/
def expr (l : Literal) (values : String → Option String) : Except ReadFault Expr :=
  match tokens l.source with
  | .error fault => .error (.lexical fault)
  | .ok ts => read values ts

/-- The outcome that a complaint about the literal leads to. -/
def complain (l : Literal) (message : String) (span : Option Span) : Outcome where
  truth := .undetermined
  diagnostics := [{ subject := l.source, message, span }]

/-- The outcome of a literal when parameters have these values. -/
def evaluate (l : Literal) (values : String → Option String) : Outcome :=
  match l.expr values with
  | .error fault => l.complain fault.message fault.span?
  | .ok e =>
    match e.eval with
    | .error fault => l.complain fault.message none
    | .ok (.boolean b) => { truth := if b then .holds else .fails }
    | .ok v => l.complain ("Literal did not reduce to a boolean (got " ++ v.kind ++ ")") none

end Literal

end GuidedXml
