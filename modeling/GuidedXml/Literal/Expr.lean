/-
# Expressions of literals

A literal says an expression: arithmetic over numbers, quoted texts and the values of parameters,
comparisons, and calls of predicates.
-/

namespace GuidedXml.Literal

/-- The predicates that a literal can call. -/
inductive Predicate where
  | biggerThan
  | lowerThan
  | equalOrBiggerThan
  | equalOrLowerThan
  | isPresent
  | isSameText
  deriving DecidableEq, Repr

namespace Predicate

/-- All predicates. -/
def all : List Predicate :=
  [biggerThan, lowerThan, equalOrBiggerThan, equalOrLowerThan, isPresent, isSameText]

/-- The name by which a literal calls a predicate. -/
def name : Predicate → String
  | biggerThan => "edlValidation_biggerThan"
  | lowerThan => "edlValidation_lowerThan"
  | equalOrBiggerThan => "edlValidation_equalOrBiggerThan"
  | equalOrLowerThan => "edlValidation_equalOrLowerThan"
  | isPresent => "edlValidation_exists"
  | isSameText => "edlValidation_strIsEqual"

/-- The predicate of a name. -/
def named? (n : String) : Option Predicate :=
  all.find? fun p => p.name = n

/-- Every predicate is found by its name. -/
@[simp] theorem named?_name (p : Predicate) : named? p.name = some p := by
  cases p <;> decide

/-- A predicate found by a name has that name. -/
theorem name_of_named? {n : String} {p : Predicate} (h : named? n = some p) : p.name = n := by
  simpa using List.find?_some h

end Predicate

/-- The operators between two operands. -/
inductive Operator where
  | add | subtract | multiply | divide | equal
  deriving DecidableEq, Repr

/-- The expressions of literals. -/
inductive Expr where
  | number (x : Float)
  /-- A quoted text. -/
  | text (s : String)
  /-- The value of a parameter, a number or a text as it is used. -/
  | parameter (value : String)
  | negate (e : Expr)
  | binary (o : Operator) (left right : Expr)
  /-- A call; a slot without an expression stands for an argument left out. -/
  | call (p : Predicate) (slots : List (Option Expr))
  deriving Repr

end GuidedXml.Literal
