/-
# Literals that compare texts

How a literal is read in which a parameter is compared with a text: the parameter and the text are
operands that no operator stands next to, so they are whole expressions, and the literal is one
call.

The main statement says when such a literal holds: exactly if the parameter has that text.
-/
import GuidedXml.Literal

namespace GuidedXml.Literal

variable {s : Symbol} {is : List Item} {i : Item} {e : Expr}

/-! ## Operands -/

/-- A symbol is not dropped where none such stands first. -/
theorem dropSymbol?_of_ne (h : ∀ i ∈ is.head?, i.meaning ≠ .symbol s) : dropSymbol? s is = none := by
  cases is with
  | nil => rfl
  | cons i is =>
    have hi := h i rfl
    unfold dropSymbol?
    dsimp only
    split
    · rename_i t ht
      rw [if_neg]
      rintro rfl
      exact hi ht
    · rfl

/-- No operator stands at the start of these items. -/
def EndsOperand (is : List Item) : Prop :=
  ∀ i ∈ is.head?, multiplicative? i.meaning = none ∧ additive? i.meaning = none ∧
    i.meaning ≠ .symbol .equal

/-- A comma and a closing parenthesis end an operand. -/
theorem endsOperand_of_meaning (hi : i.meaning = .symbol .comma ∨ i.meaning = .symbol .closeParen) :
    EndsOperand (i :: is) := by
  intro j hj
  cases hj
  rcases hi with hi | hi <;> rw [hi] <;> exact ⟨rfl, rfl, by simp⟩

/-- A primary expression that no operator stands next to is a whole expression. -/
theorem readExpr_of_readPrimary {r : Reading Expr is.length} (hr : readPrimary is = .ok r)
    (hbefore : ∀ i ∈ is.head?, i.meaning ≠ .symbol .minus) (hafter : EndsOperand r.rest) :
    readExpr is = .ok r := by
  have hunary : readUnary is = .ok r := by
    rw [readUnary]
    split
    · exact hr
    · rename_i rest h
      rw [dropSymbol?_of_ne hbefore] at h
      cases h
  have hterm : readTerm is = .ok r := by
    rw [readTerm, hunary]
    obtain ⟨e, rest, hlt⟩ := r
    dsimp only at hafter ⊢
    cases rest with
    | nil =>
      rw [readFactors]
      rfl
    | cons i rest =>
      rw [readFactors, (hafter i rfl).1]
      rfl
  have hsum : readSum is = .ok r := by
    rw [readSum, hterm]
    obtain ⟨e, rest, hlt⟩ := r
    dsimp only at hafter ⊢
    cases rest with
    | nil =>
      rw [readTerms]
      rfl
    | cons i rest =>
      rw [readTerms, (hafter i rfl).2.1]
      rfl
  rw [readExpr, hsum]
  dsimp only
  split
  · rfl
  · rename_i rest h
    rw [dropSymbol?_of_ne fun i hi => (hafter i hi).2.2] at h
    cases h

/-! ## Calls -/

/-- A symbol that stands first is dropped. -/
theorem dropSymbol?_of_eq (hi : i.meaning = .symbol s) : dropSymbol? s (i :: is) = some is := by
  unfold dropSymbol?
  dsimp only
  rw [hi]
  dsimp only
  rw [if_pos rfl]

/-- A symbol that stands first is read. -/
theorem readSymbol_of_eq (hi : i.meaning = .symbol s) :
    readSymbol s (i :: is) = .ok ⟨is, Nat.lt_succ_self _⟩ := by
  unfold readSymbol
  split
  · rename_i rest h
    rw [dropSymbol?_of_eq hi] at h
    cases h
    rfl
  · rename_i h
    rw [dropSymbol?_of_eq hi] at h
    cases h

/-- The last slot of a call. -/
theorem readSlots_last {r : Reading Expr is.length} (hslot : slotIsEmpty is = false)
    (hr : readExpr is = .ok r) (hlast : dropSymbol? .comma r.rest = none) :
    readSlots is = .ok ⟨[some r.value], r.rest, Nat.lt_succ_of_lt r.length_lt⟩ := by
  rw [readSlots]
  simp only [hslot, hr, Except.map, Bool.false_eq_true, if_false]
  split
  · rfl
  · rename_i rest h
    rw [hlast] at h
    cases h

/-- A slot of a call and those after it. -/
theorem readSlots_cons {r : Reading Expr is.length} {rest : List Item}
    {slots : Reading (List (Option Expr)) (rest.length + 1)} (hslot : slotIsEmpty is = false)
    (hr : readExpr is = .ok r) (hrest : dropSymbol? .comma r.rest = some rest)
    (hslots : readSlots rest = .ok slots) (h : slots.rest.length < is.length + 1) :
    readSlots is = .ok ⟨some r.value :: slots.value, slots.rest, h⟩ := by
  rw [readSlots]
  simp only [hslot, hr, Except.map, Bool.false_eq_true, if_false]
  split
  · rename_i hnone
    rw [hrest] at hnone
    cases hnone
  · rename_i rest' hsome
    rw [hrest] at hsome
    cases hsome
    rw [hslots]

/-- The item stands for the expression all by itself. -/
inductive Operand : Item → Expr → Prop
  | parameter {i : Item} {v : String} : i.meaning = .parameter v → Operand i (.parameter v)
  | text {i : Item} {t : String} : i.meaning = .text t → Operand i (.text t)

/-- No operand is a symbol. -/
theorem Operand.ne_symbol (h : Operand i e) (s : Symbol) : i.meaning ≠ .symbol s := by
  cases h with
  | parameter hi => rw [hi]; simp
  | text hi => rw [hi]; simp

/-- No symbol is dropped where an operand stands first. -/
theorem Operand.dropSymbol? (h : Operand i e) (s : Symbol) : dropSymbol? s (i :: is) = none := by
  refine dropSymbol?_of_ne fun j hj => ?_
  cases hj
  exact h.ne_symbol s

/-- A slot that begins with an operand is not empty. -/
theorem Operand.slotIsEmpty (h : Operand i e) : slotIsEmpty (i :: is) = false := by
  rw [Literal.slotIsEmpty, h.dropSymbol?, h.dropSymbol?]
  rfl

/-- A single operand is read as its expression. -/
theorem Operand.readExpr (h : Operand i e) (hafter : EndsOperand is) :
    readExpr (i :: is) = .ok ⟨e, is, Nat.lt_succ_self _⟩ := by
  refine readExpr_of_readPrimary ?_ ?_ hafter
  · cases h with
    | parameter hi => rw [readPrimary, hi]
    | text hi => rw [readPrimary, hi]
  · intro j hj
    cases hj
    exact h.ne_symbol .minus

/-- A call of a predicate on two operands is read as such. -/
theorem readItems_call {p : Predicate} {call opening left comma right closing : Item} {a b : Expr}
    (hcall : call.meaning = .predicate p) (hopening : opening.meaning = .symbol .openParen)
    (hleft : Operand left a) (hcomma : comma.meaning = .symbol .comma) (hright : Operand right b)
    (hclosing : closing.meaning = .symbol .closeParen) :
    readItems [call, opening, left, comma, right, closing] = .ok (.call p [some a, some b]) := by
  have hend : dropSymbol? .comma [closing] = none := by
    refine dropSymbol?_of_ne fun j hj => ?_
    cases hj
    rw [hclosing]
    simp
  have hsecond := readSlots_last hright.slotIsEmpty
    (hright.readExpr (endsOperand_of_meaning (.inr hclosing))) hend
  have hslots := readSlots_cons hleft.slotIsEmpty
    (hleft.readExpr (endsOperand_of_meaning (.inl hcomma))) (dropSymbol?_of_eq hcomma) hsecond
    (by simp)
  have hprimary : readPrimary [call, opening, left, comma, right, closing] =
      .ok ⟨.call p [some a, some b], [], by simp⟩ := by
    rw [readPrimary, hcall]
    simp only [readSymbol_of_eq hopening]
    split
    · rename_i rest h
      rw [hleft.dropSymbol?] at h
      cases h
    · rw [hslots]
      simp only [readSymbol_of_eq hclosing]
  have hexpr := readExpr_of_readPrimary hprimary (fun j hj => by
    cases hj
    rw [hcall]
    simp) (fun j hj => by cases hj)
  rw [readItems, hexpr]
  rfl

/-! ## Comparisons -/

/-- What a literal says that compares a parameter with a text. -/
def comparison (x t : String) : List Lexeme :=
  [.word Predicate.isSameText.name, .symbol .openParen, .word x, .symbol .comma, .quoted t,
    .symbol .closeParen]

/-- A comparison of a parameter with a text is read as a call. -/
theorem expr_of_comparison {l : Literal} {values : String → Option String} {x t v : String}
    (hlexemes : (tokens l.source).map (·.map Token.lexeme) = .ok (comparison x t))
    (hx : Predicate.named? x = none) (hv : values x = some v) :
    l.expr values = .ok (.call .isSameText [some (.parameter v), some (.text t)]) := by
  obtain ⟨ts, hts, hlexemes⟩ : ∃ ts, tokens l.source = .ok ts ∧
      ts.map Token.lexeme = comparison x t := by
    cases hts : tokens l.source with
    | error fault =>
      rw [hts] at hlexemes
      cases hlexemes
    | ok ts =>
      rw [hts] at hlexemes
      exact ⟨ts, rfl, Except.ok.inj hlexemes⟩
  simp only [comparison, List.map_eq_cons_iff, List.map_eq_nil_iff] at hlexemes
  obtain ⟨call, _, rfl, hcall, opening, _, rfl, hopening, left, _, rfl, hleft, comma, _, rfl,
    hcomma, right, _, rfl, hright, closing, _, rfl, hclosing, rfl⟩ := hlexemes
  have hpredicate : Predicate.named? Predicate.isSameText.name = some .isSameText := by
    decide
  have hitems : items values [call, opening, left, comma, right, closing] =
      [⟨.predicate .isSameText, call⟩, ⟨.symbol .openParen, opening⟩, ⟨.parameter v, left⟩,
        ⟨.symbol .comma, comma⟩, ⟨.text t, right⟩, ⟨.symbol .closeParen, closing⟩] := by
    simp [items, meaning?, hcall, hopening, hleft, hcomma, hright, hclosing, hpredicate, hx, hv]
  rw [expr, hts]
  dsimp only
  rw [read, hitems]
  exact readItems_call rfl rfl (.parameter rfl) rfl (.text rfl) rfl

/-- A literal that compares a parameter with a text holds exactly if the parameter has that
text. -/
theorem truth_of_comparison {l : Literal} {values : String → Option String} {x t v : String}
    (hlexemes : (tokens l.source).map (·.map Token.lexeme) = .ok (comparison x t))
    (hx : Predicate.named? x = none) (hv : values x = some v) :
    (l.evaluate values).truth = if v = t then .holds else .fails := by
  rw [evaluate, expr_of_comparison hlexemes hx hv]
  simp [Expr.eval, Predicate.applyTwo, Value.textual]

end GuidedXml.Literal
