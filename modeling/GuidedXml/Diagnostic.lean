/-
# Diagnostics

Complaints about literals and parameters that do not stop the evaluation of a rule.
-/
import GuidedXml.Literal.Token

namespace GuidedXml

/-- How bad a complaint is. -/
inductive Severity where
  | error | warning | info
  deriving DecidableEq, Repr

/-- A complaint about a literal or a parameter. -/
structure Diagnostic where
  severity : Severity := .error
  /-- The rule that the subject belongs to, once it is known. -/
  rule : Option String := none
  /-- The literal or the path that the complaint is about. -/
  subject : String
  message : String
  /-- The place in the subject. -/
  span : Option Literal.Span := none
  suggestion : Option String := none
  deriving DecidableEq, Repr

end GuidedXml
