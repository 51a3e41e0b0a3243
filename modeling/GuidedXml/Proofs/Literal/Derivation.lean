/-
# What literals derive

The grammar of literals, without regard to how they are read: which tokens derive which expression
when parameters have values. The levels of the grammar are built from each other, operands first,
and parentheses and calls lead back from the last level to the first.

The main statements say that the tokens of a source are its pieces and that every number among them
can be read.
-/
import GuidedXml.Literal.Grammar
import Mathlib.Data.List.TakeWhile

namespace GuidedXml.Literal

/-! ## Levels -/

section Levels

variable (Operand : List Lexeme → Expr → Prop)

/-- An operand with any number of minus signs before it. -/
inductive Signed : List Lexeme → Expr → Prop
  | plain {ls : List Lexeme} {e : Expr} : Operand ls e → Signed ls e
  | negated {ls : List Lexeme} {e : Expr} : Signed ls e →
      Signed (.symbol .minus :: ls) (.negate e)

/-- Operands with operators between them, taken together from the left. -/
inductive Chain (op : Symbol → Operator → Prop) : List Lexeme → Expr → Prop
  | one {ls : List Lexeme} {e : Expr} : Operand ls e → Chain op ls e
  | more {ls ls' : List Lexeme} {a b : Expr} {s : Symbol} {o : Operator} :
      Chain op ls a → op s o → Operand ls' b → Chain op (ls ++ .symbol s :: ls') (.binary o a b)

/-- An operand, or an equation of two of them. -/
inductive Sides : List Lexeme → Expr → Prop
  | one {ls : List Lexeme} {e : Expr} : Operand ls e → Sides ls e
  | two {ls ls' : List Lexeme} {a b : Expr} : Operand ls a → Operand ls' b →
      Sides (ls ++ .symbol .equal :: ls') (.binary .equal a b)

/-- An argument of a call, which may be left out. -/
inductive Slot : List Lexeme → Option Expr → Prop
  | empty : Slot [] none
  | filled {ls : List Lexeme} {e : Expr} : Operand ls e → Slot ls (some e)

/-- One or more arguments with commas between them. -/
inductive Slots : List Lexeme → List (Option Expr) → Prop
  | last {ls : List Lexeme} {slot : Option Expr} : Slot Operand ls slot → Slots ls [slot]
  | next {ls ls' : List Lexeme} {slot : Option Expr} {slots : List (Option Expr)} :
      Slot Operand ls slot → Slots ls' slots →
      Slots (ls ++ .symbol .comma :: ls') (slot :: slots)

end Levels

/-- The operators between terms. -/
inductive Additive : Symbol → Operator → Prop
  | plus : Additive .plus .add
  | minus : Additive .minus .subtract

/-- The operators between factors. -/
inductive Multiplicative : Symbol → Operator → Prop
  | star : Multiplicative .star .multiply
  | slash : Multiplicative .slash .divide

/-! ## The grammar -/

/-- A number, a quoted text, a parameter with a value, an expression in parentheses, or a call. The
arguments of a call are nothing at all, or slots of which one is filled or two are separated. -/
inductive IsPrimary (values : String → Option String) : List Lexeme → Expr → Prop
  | number {digits : String} {x : Float} : Number.readFloat? digits.toList = some x →
      IsPrimary values [.number digits] (.number x)
  | quoted {content : String} : IsPrimary values [.quoted content] (.text content)
  | parameter {name value : String} : Predicate.named? name = none → values name = some value →
      IsPrimary values [.word name] (.parameter value)
  | parens {ls : List Lexeme} {e : Expr} :
      Sides (Chain (Chain (Signed (IsPrimary values)) Multiplicative) Additive) ls e →
      IsPrimary values (.symbol .openParen :: (ls ++ [.symbol .closeParen])) e
  | call {name : String} {p : Predicate} : Predicate.named? name = some p →
      IsPrimary values [.word name, .symbol .openParen, .symbol .closeParen] (.call p [])
  | callWith {name : String} {p : Predicate} {ls : List Lexeme} {slots : List (Option Expr)} :
      Predicate.named? name = some p →
      Slots (Sides (Chain (Chain (Signed (IsPrimary values)) Multiplicative) Additive)) ls slots →
      slots ≠ [none] →
      IsPrimary values (.word name :: .symbol .openParen :: (ls ++ [.symbol .closeParen]))
        (.call p slots)

/-- A primary expression with minus signs before it. -/
abbrev IsUnary (values : String → Option String) : List Lexeme → Expr → Prop :=
  Signed (IsPrimary values)

/-- Factors with operators between them. -/
abbrev IsTerm (values : String → Option String) : List Lexeme → Expr → Prop :=
  Chain (IsUnary values) Multiplicative

/-- Terms with operators between them. -/
abbrev IsSum (values : String → Option String) : List Lexeme → Expr → Prop :=
  Chain (IsTerm values) Additive

/-- A sum, or an equation of two sums. -/
abbrev IsExpr (values : String → Option String) : List Lexeme → Expr → Prop :=
  Sides (IsSum values)

/-! ## Numbers of a source -/

/-- A number as it is written in a literal: digits, or digits with a point among them. -/
inductive IsNumeral : List Char → Prop
  | whole {cs : List Char} : cs ≠ [] → (∀ c ∈ cs, c.isDigit = true) → IsNumeral cs
  | fractional {cs fs : List Char} : cs ≠ [] → (∀ c ∈ cs, c.isDigit = true) →
      (∀ c ∈ fs, c.isDigit = true) → IsNumeral (cs ++ '.' :: fs)

/-- A numeral has no sign. -/
theorem IsNumeral.splitSign {cs : List Char} (h : IsNumeral cs) :
    Number.splitSign cs = (false, cs) := by
  obtain ⟨c, rest, rfl, hc⟩ : ∃ c rest, cs = c :: rest ∧ c.isDigit = true := by
    cases h with
    | @whole cs hne hall =>
      cases cs with
      | nil => exact absurd rfl hne
      | cons c cs => exact ⟨c, cs, rfl, hall c (List.mem_cons_self ..)⟩
    | @fractional cs fs hne hall _ =>
      cases cs with
      | nil => exact absurd rfl hne
      | cons c cs => exact ⟨c, _, rfl, hall c (List.mem_cons_self ..)⟩
  unfold Number.splitSign
  split
  · rename_i cs heq
    rw [(List.cons.inj heq).1] at hc
    exact absurd hc (by decide)
  · rename_i cs heq
    rw [(List.cons.inj heq).1] at hc
    exact absurd hc (by decide)
  · rfl

/-- Every numeral is read as a number. -/
theorem IsNumeral.exists_readUnsigned? {cs : List Char} (h : IsNumeral cs) :
    ∃ x, Number.readUnsigned? cs = some x := by
  unfold Number.readUnsigned?
  cases h with
  | whole hne hall =>
    rw [← List.append_nil cs, List.takeWhile_append_of_pos hall, List.dropWhile_append_of_pos hall]
    simp [hne, Number.readExponent?]
  | @fractional cs fs hne hall hfs =>
    have hpoint : Char.isDigit '.' = false := by decide
    rw [List.takeWhile_append_of_pos hall, List.dropWhile_append_of_pos hall]
    simp only [List.takeWhile_cons, List.dropWhile_cons, hpoint, Bool.false_eq_true, if_false]
    rw [← List.append_nil fs, List.takeWhile_append_of_pos hfs, List.dropWhile_append_of_pos hfs]
    simp [hne, Number.readExponent?]

/-- Every such number can be read. -/
theorem IsNumeral.exists_readFloat? {cs : List Char} (h : IsNumeral cs) :
    ∃ x, Number.readFloat? cs = some x := by
  obtain ⟨x, hx⟩ := h.exists_readUnsigned?
  rw [Number.readFloat?, h.splitSign]
  dsimp only
  rw [hx]
  cases Number.readWord? cs with
  | none => exact ⟨x, rfl⟩
  | some y => exact ⟨y, rfl⟩

/-- A piece that is a number token is a number of digits. -/
theorem isNumeral_of_firstPiece {c : Char} {cs : List Char} {digits : String}
    (h : (firstPiece c cs).1 = .token (.number digits)) : IsNumeral digits.toList := by
  have hall : ∀ (c : Char) (cs : List Char), c.isDigit = true →
      ∀ x ∈ c :: cs.takeWhile Char.isDigit, x.isDigit = true := fun c cs hc =>
    List.forall_mem_cons.mpr ⟨hc, fun x hx => List.mem_takeWhile_imp hx⟩
  unfold firstPiece at h
  split at h
  · simp at h
  split at h
  · rename_i hc
    dsimp only at h
    split at h
    · rename_i r hr
      split at h
      · simp at h
      · obtain rfl : String.ofList (c :: (cs.takeWhile Char.isDigit ++ '.' ::
            r.takeWhile Char.isDigit)) = digits := by simpa using h
        rw [String.toList_ofList]
        exact .fractional (List.cons_ne_nil c _) (hall c cs hc) fun x hx =>
          List.mem_takeWhile_imp hx
    · obtain rfl : String.ofList (c :: cs.takeWhile Char.isDigit) = digits := by simpa using h
      rw [String.toList_ofList]
      exact .whole (List.cons_ne_nil c _) (hall c cs hc)
  split at h
  · split at h <;> simp at h
  split at h
  · split at h <;> simp at h
  split at h <;> simp at h

/-- A token of a source is one of its pieces. -/
theorem exists_firstPiece_of_mem_tokens {source : String} {ts : List Token}
    (hts : tokens source = .ok ts) {t : Token} (ht : t ∈ ts) :
    ∃ c cs, (firstPiece c cs).1 = .token t.lexeme := by
  -- every token stands for a piece, and every piece was the first one of what was left then
  have hpieces : ∀ cs p, p ∈ pieces cs → ∃ c cs', (firstPiece c cs').1 = p.1 := by
    intro cs p hp
    fun_induction pieces cs with
    | case1 => simp at hp
    | case2 c cs q ih =>
      rcases List.mem_cons.mp hp with rfl | hp
      · exact ⟨c, cs, rfl⟩
      · exact ih hp
  have htokens : ∀ (ps : List (Piece × List Char)) (start : Nat) (ts : List Token),
      tokensFrom start ps = .ok ts → t ∈ ts → ∃ p ∈ ps, p.1 = .token t.lexeme := by
    intro ps
    induction ps with
    | nil =>
      intro start ts h ht
      rw [← Except.ok.inj h] at ht
      simp at ht
    | cons p ps ih =>
      intro start ts h ht
      obtain ⟨piece, cs⟩ := p
      unfold tokensFrom at h
      cases piece with
      | separators =>
        obtain ⟨q, hq, hlex⟩ := ih _ _ h ht
        exact ⟨q, List.mem_cons_of_mem _ hq, hlex⟩
      | token l =>
        dsimp only at h
        cases hrest : tokensFrom (start + Text.byteCount cs) ps with
        | error fault =>
          rw [hrest] at h
          cases h
        | ok rest =>
          rw [hrest] at h
          rw [← Except.ok.inj h] at ht
          rcases List.mem_cons.mp ht with rfl | ht
          · exact ⟨_, List.mem_cons_self .., rfl⟩
          · obtain ⟨q, hq, hlex⟩ := ih _ _ hrest ht
            exact ⟨q, List.mem_cons_of_mem _ hq, hlex⟩
      | malformedNumber => cases h
      | unterminatedText => cases h
      | unexpected => cases h
  obtain ⟨p, hp, hlex⟩ := htokens _ _ _ hts ht
  obtain ⟨c, cs, hpiece⟩ := hpieces _ p hp
  exact ⟨c, cs, hpiece.trans hlex⟩

/-! ## Tokens and meanings -/

/-- Whether the token is read when parameters have these values: a word has to name a predicate or a
parameter with a value. -/
def isKnown (values : String → Option String) : Lexeme → Bool
  | .word name => (Predicate.named? name).isSome || (values name).isSome
  | _ => true

/-- The tokens that are read. -/
def knownLexemes (values : String → Option String) (ts : List Token) : List Lexeme :=
  (ts.map Token.lexeme).filter (isKnown values)

end GuidedXml.Literal
