/-
# Values of expressions

What an expression evaluates to. Arithmetic and comparison over a parameter whose text is no number
gives the boolean `false`; an operand of a kind that an operation does not take is a fault.
-/
import GuidedXml.Literal.Expr
import GuidedXml.Number.Reading
import GuidedXml.Text.Blank

namespace GuidedXml.Literal

/-- What an expression evaluates to. -/
inductive Value where
  | number (x : Float)
  | text (s : String)
  /-- The text of a parameter, a number or a text as it is used. -/
  | parameter (s : String)
  | boolean (b : Bool)
  deriving Repr

/-- How a message names the kind of a value. -/
def Value.kind : Value → String
  | number _ => "number"
  | text _ => "string"
  | parameter _ => "parameter"
  | boolean _ => "boolean"

/-- Why an expression has no value. -/
inductive EvalFault where
  /-- The operation does not take operands of that kind. -/
  | operandKind (operation kind : String)
  /-- The predicate takes another number of arguments. -/
  | arity (p : Predicate) (expected found : Nat)
  | missingArgument (p : Predicate) (position : Nat)
  deriving DecidableEq, Repr

/-- The text of the fault. -/
def EvalFault.message : EvalFault → String
  | operandKind operation kind => operation ++ " cannot take " ++ kind
  | arity p expected found =>
    p.name ++ " takes " ++ toString expected ++ " argument(s), got " ++ toString found
  | missingArgument p position => p.name ++ " is missing argument " ++ toString position

/-! ## Operands -/

/-- The number that a text denotes, blanks around it aside. -/
def numberOf? (s : String) : Option Float :=
  Number.readFloat? (Text.trim s.toList)

/-- An operand of arithmetic as a number. -/
def Value.asNumber? : Value → Option Float
  | number x => some x
  | text s => numberOf? s
  | parameter s => numberOf? s
  | boolean _ => none

/-- An operand of a comparison: a number, or a parameter, which may be no number. -/
def Value.comparable (operation : String) : Value → Except EvalFault (Option Float)
  | number x => .ok (some x)
  | parameter s => .ok (numberOf? s)
  | v => .error (.operandKind operation v.kind)

/-- An operand that is a text. -/
def Value.textual (operation : String) : Value → Except EvalFault String
  | text s => .ok s
  | parameter s => .ok s
  | v => .error (.operandKind operation v.kind)

/-! ## Operations -/

/-- Compare two operands by `holds`; one that is no number compares with nothing. -/
def compareBy (operation : String) (holds : Float → Float → Bool) (a b : Value) :
    Except EvalFault Value :=
  match a.comparable operation with
  | .error fault => .error fault
  | .ok x =>
    match b.comparable operation with
    | .error fault => .error fault
    | .ok y =>
      match x, y with
      | some x, some y => .ok (.boolean (holds x y))
      | _, _ => .ok (.boolean false)

/-- The negative of a value. -/
def negate : Value → Except EvalFault Value
  | .number x => .ok (.number (-x))
  | .parameter s =>
    match numberOf? s with
    | some x => .ok (.number (-x))
    | none => .ok (.boolean false)
  | v => .error (.operandKind "unary -" v.kind)

/-- Compute on two operands by `op`. -/
def computeBy (op : Float → Float → Float) (a b : Value) : Value :=
  match a.asNumber?, b.asNumber? with
  | some x, some y => .number (op x y)
  | _, _ => .boolean false

/-- Apply an operator to two values. -/
def Operator.apply : Operator → Value → Value → Except EvalFault Value
  | add, a, b => .ok (computeBy (· + ·) a b)
  | subtract, a, b => .ok (computeBy (· - ·) a b)
  | multiply, a, b => .ok (computeBy (· * ·) a b)
  | divide, a, b => .ok (computeBy (· / ·) a b)
  | equal, a, b => compareBy "==" (· == ·) a b

/-- Apply a predicate of two arguments. -/
def Predicate.applyTwo (p : Predicate) (a b : Value) : Except EvalFault Value :=
  match p with
  | biggerThan => compareBy p.name (fun x y => decide (x > y)) a b
  | lowerThan => compareBy p.name (fun x y => decide (x < y)) a b
  | equalOrBiggerThan => compareBy p.name (fun x y => decide (x ≥ y)) a b
  | equalOrLowerThan => compareBy p.name (fun x y => decide (x ≤ y)) a b
  | isPresent => .error (.arity p 1 2)
  | isSameText =>
    match a.textual p.name with
    | .error fault => .error fault
    | .ok s =>
      match b.textual p.name with
      | .error fault => .error fault
      | .ok t => .ok (.boolean (s = t))

/-- Apply the predicate of presence to a value, which is there. -/
def present : Value → Except EvalFault Value
  | .boolean b => .error (.operandKind Predicate.isPresent.name (Value.boolean b).kind)
  | _ => .ok (.boolean true)

/-! ## Evaluation -/

/-- The value of an expression. The arguments of a call are looked at only if their number fits and
none of them is missing. -/
def Expr.eval : Expr → Except EvalFault Value
  | number x => .ok (.number x)
  | text s => .ok (.text s)
  | parameter value => .ok (.parameter value)
  | negate e =>
    match e.eval with
    | .error fault => .error fault
    | .ok v => Literal.negate v
  | binary o left right =>
    match left.eval with
    | .error fault => .error fault
    | .ok a =>
      match right.eval with
      | .error fault => .error fault
      | .ok b => o.apply a b
  | call .isPresent [] => .ok (.boolean false)
  | call .isPresent [none] => .ok (.boolean false)
  | call .isPresent [some e] =>
    match e.eval with
    | .error fault => .error fault
    | .ok v => present v
  | call .isPresent slots => .error (.arity .isPresent 1 slots.length)
  | call p [some left, some right] =>
    match left.eval with
    | .error fault => .error fault
    | .ok a =>
      match right.eval with
      | .error fault => .error fault
      | .ok b => p.applyTwo a b
  | call p [none, _] => .error (.missingArgument p 1)
  | call p [_, none] => .error (.missingArgument p 2)
  | call p slots => .error (.arity p 2 slots.length)

end GuidedXml.Literal
