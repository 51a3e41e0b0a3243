/-
# Reading expressions

The grammar of literals. Multiplication and division bind tighter than addition and subtraction,
these tighter than one equation of two sides; operators of one strength go from left to right.

A word that neither names a predicate nor a parameter with a value is passed over before reading
begins. The functions here read from the front of a list of items and return what is left.
-/
import GuidedXml.Literal.Token
import GuidedXml.Literal.Expr
import GuidedXml.Number.Reading

namespace GuidedXml.Literal

/-! ## Items -/

/-- What a token means once parameters have values. -/
inductive Meaning where
  | symbol (s : Symbol)
  | number (x : Float)
  | text (s : String)
  | parameter (value : String)
  | predicate (p : Predicate)
  deriving Repr

/-- A token with its meaning. -/
structure Item where
  meaning : Meaning
  token : Token
  deriving Repr

/-- The meaning of what a token says, if it has one. A name of a predicate always means that
predicate. -/
def meaning? (values : String → Option String) : Lexeme → Option Meaning
  | .symbol s => some (.symbol s)
  | .word name =>
    match Predicate.named? name with
    | some p => some (.predicate p)
    | none => (values name).map .parameter
  | .number digits => (Number.readFloat? digits.toList).map .number
  | .quoted content => some (.text content)

/-- The tokens that have a meaning, each with it. -/
def items (values : String → Option String) (ts : List Token) : List Item :=
  ts.filterMap fun t => (meaning? values t.lexeme).map (⟨·, t⟩)

/-! ## Faults -/

/-- Why a literal has no expression. -/
inductive ReadFault where
  | lexical (fault : LexFault)
  | unexpectedToken (span : Span) (expected found : String)
  | unexpectedEnd (expected : String)
  deriving DecidableEq, Repr

namespace ReadFault

/-- The text of the fault. -/
def message : ReadFault → String
  | lexical fault => fault.message
  | unexpectedToken span expected found =>
    "Unexpected token at " ++ span.render ++ ": expected " ++ expected ++ ", found " ++ found
  | unexpectedEnd expected => "Unexpected end of input: expected " ++ expected

/-- The place of the fault, if it has one. -/
def span? : ReadFault → Option Span
  | lexical fault => some fault.span
  | unexpectedToken span _ _ => some span
  | unexpectedEnd _ => none

/-- The fault of finding these items where something else is expected. -/
def expecting (expected : String) : List Item → ReadFault
  | [] => unexpectedEnd expected
  | i :: _ => unexpectedToken i.token.span expected i.token.lexeme.describe

end ReadFault

/-! ## Reading -/

/-- What was read, and the items left: fewer than `n` of them. -/
structure Reading (α : Type) (n : Nat) where
  value : α
  rest : List Item
  length_lt : rest.length < n

/-- The reading with more room for what is left. -/
def Reading.widen {α : Type} {m n : Nat} (r : Reading α m) (h : m ≤ n) : Reading α n :=
  ⟨r.value, r.rest, Nat.lt_of_lt_of_le r.length_lt h⟩

/-- What follows the symbol, if the items start with it. -/
def dropSymbol? (s : Symbol) : List Item → Option (List Item)
  | i :: is =>
    match i.meaning with
    | .symbol t => if t = s then some is else none
    | _ => none
  | [] => none

theorem length_of_dropSymbol? {s : Symbol} {is rest : List Item} (h : dropSymbol? s is = some rest) :
    rest.length < is.length := by
  unfold dropSymbol? at h
  split at h
  · split at h
    · split at h
      · simp_all
      · simp at h
    · simp at h
  · simp at h

/-- Read the symbol. -/
def readSymbol (s : Symbol) (is : List Item) : Except ReadFault { r : List Item // r.length < is.length } :=
  match h : dropSymbol? s is with
  | some rest => .ok ⟨rest, length_of_dropSymbol? h⟩
  | none => .error (.expecting ("'" ++ s.render ++ "'") is)

/-- The operator that a symbol stands for between terms. -/
def additive? : Meaning → Option Operator
  | .symbol .plus => some .add
  | .symbol .minus => some .subtract
  | _ => none

/-- The operator that a symbol stands for between factors. -/
def multiplicative? : Meaning → Option Operator
  | .symbol .star => some .multiply
  | .symbol .slash => some .divide
  | _ => none

/-- Whether an argument slot is left out before these items. -/
def slotIsEmpty (is : List Item) : Bool :=
  (dropSymbol? .comma is).isSome || (dropSymbol? .closeParen is).isSome

mutual

/-- A number, a text, a parameter, a call, or an expression in parentheses. -/
def readPrimary : (is : List Item) → Except ReadFault (Reading Expr is.length)
  | [] => .error (.expecting "expression" [])
  | i :: is =>
    match i.meaning with
    | .number x => .ok ⟨.number x, is, by simp⟩
    | .text s => .ok ⟨.text s, is, by simp⟩
    | .parameter value => .ok ⟨.parameter value, is, by simp⟩
    | .predicate p =>
      match readSymbol .openParen is with
      | .error fault => .error fault
      | .ok ⟨inner, h⟩ =>
        match dropClose : dropSymbol? .closeParen inner with
        | some rest =>
          .ok ⟨.call p [], rest, by
            have := length_of_dropSymbol? dropClose
            simp only [List.length_cons]; omega⟩
        | none =>
          match readSlots inner with
          | .error fault => .error fault
          | .ok slots =>
            match readSymbol .closeParen slots.rest with
            | .error fault => .error fault
            | .ok ⟨rest, h'⟩ =>
              .ok ⟨.call p slots.value, rest, by
                have := slots.length_lt
                simp only [List.length_cons]; omega⟩
    | .symbol .openParen =>
      match readExpr is with
      | .error fault => .error fault
      | .ok inner =>
        match readSymbol .closeParen inner.rest with
        | .error fault => .error fault
        | .ok ⟨rest, h⟩ =>
          .ok ⟨inner.value, rest, by
            have := inner.length_lt
            simp only [List.length_cons]; omega⟩
    | .symbol _ => .error (.expecting "expression" (i :: is))
termination_by is => (is.length, 0)

/-- The argument slots of a call, separated by commas. -/
def readSlots (is : List Item) : Except ReadFault (Reading (List (Option Expr)) (is.length + 1)) :=
  let first : Except ReadFault (Reading (Option Expr) (is.length + 1)) :=
    if slotIsEmpty is then .ok ⟨none, is, Nat.lt_succ_self _⟩
    else (readExpr is).map fun r => ⟨some r.value, r.rest, Nat.lt_succ_of_lt r.length_lt⟩
  match first with
  | .error fault => .error fault
  | .ok slot =>
    match h : dropSymbol? .comma slot.rest with
    | none => .ok ⟨[slot.value], slot.rest, slot.length_lt⟩
    | some rest =>
      have shorter : rest.length < is.length := by
        have := length_of_dropSymbol? h
        have := slot.length_lt
        omega
      match readSlots rest with
      | .error fault => .error fault
      | .ok slots => .ok ⟨slot.value :: slots.value, slots.rest, by
          have := slots.length_lt
          omega⟩
termination_by (is.length, 7)

/-- A primary expression with any number of minus signs before it. -/
def readUnary (is : List Item) : Except ReadFault (Reading Expr is.length) :=
  match h : dropSymbol? .minus is with
  | none => readPrimary is
  | some rest =>
    have shorter := length_of_dropSymbol? h
    match readUnary rest with
    | .error fault => .error fault
    | .ok operand => .ok ⟨.negate operand.value, operand.rest, by
        have := operand.length_lt
        omega⟩
termination_by (is.length, 1)

/-- Factors with signs of multiplication or division between them. -/
def readTerm (is : List Item) : Except ReadFault (Reading Expr is.length) :=
  match readUnary is with
  | .error fault => .error fault
  | .ok left =>
    have := left.length_lt
    match readFactors left.value left.rest with
    | .error fault => .error fault
    | .ok r => .ok (r.widen (by omega))
termination_by (is.length, 3)

/-- Further factors of a term that begins with `left`. -/
def readFactors (left : Expr) : (is : List Item) → Except ReadFault (Reading Expr (is.length + 1))
  | [] => .ok ⟨left, [], Nat.lt_succ_self _⟩
  | i :: is =>
    match multiplicative? i.meaning with
    | none => .ok ⟨left, i :: is, Nat.lt_succ_self _⟩
    | some o =>
      match readUnary is with
      | .error fault => .error fault
      | .ok right =>
        have := right.length_lt
        match readFactors (.binary o left right.value) right.rest with
        | .error fault => .error fault
        | .ok r => .ok (r.widen (by simp only [List.length_cons]; omega))
termination_by is => (is.length, 2)

/-- Terms with signs of addition or subtraction between them. -/
def readSum (is : List Item) : Except ReadFault (Reading Expr is.length) :=
  match readTerm is with
  | .error fault => .error fault
  | .ok left =>
    have := left.length_lt
    match readTerms left.value left.rest with
    | .error fault => .error fault
    | .ok r => .ok (r.widen (by omega))
termination_by (is.length, 5)

/-- Further terms of a sum that begins with `left`. -/
def readTerms (left : Expr) : (is : List Item) → Except ReadFault (Reading Expr (is.length + 1))
  | [] => .ok ⟨left, [], Nat.lt_succ_self _⟩
  | i :: is =>
    match additive? i.meaning with
    | none => .ok ⟨left, i :: is, Nat.lt_succ_self _⟩
    | some o =>
      match readTerm is with
      | .error fault => .error fault
      | .ok right =>
        have := right.length_lt
        match readTerms (.binary o left right.value) right.rest with
        | .error fault => .error fault
        | .ok r => .ok (r.widen (by simp only [List.length_cons]; omega))
termination_by is => (is.length, 4)

/-- A sum, or an equation of two sums. -/
def readExpr (is : List Item) : Except ReadFault (Reading Expr is.length) :=
  match readSum is with
  | .error fault => .error fault
  | .ok left =>
    have := left.length_lt
    match h : dropSymbol? .equal left.rest with
    | none => .ok left
    | some rest =>
      have := length_of_dropSymbol? h
      match readSum rest with
      | .error fault => .error fault
      | .ok right => .ok ⟨.binary .equal left.value right.value, right.rest, by
          have := right.length_lt
          omega⟩
termination_by (is.length, 6)

end

/-- The expression that a list of items says. -/
def readItems (is : List Item) : Except ReadFault Expr :=
  match readExpr is with
  | .error fault => .error fault
  | .ok r => if r.rest.isEmpty then .ok r.value else .error (.expecting "end of literal" r.rest)

/-- The expression that tokens say when parameters have these values. -/
def read (values : String → Option String) (ts : List Token) : Except ReadFault Expr :=
  readItems (items values ts)

end GuidedXml.Literal
