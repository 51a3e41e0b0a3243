/-
# What reading literals comes to

The items of a source are its tokens that are read, each with what it means. Each function of the
reader is described by one equation that leaves out the room for what is left and the reasons of
faults; the functions for factors and for terms are two cases of one loop.

The main statements are these equations and the one that says which tokens of a source are read.
-/
import GuidedXml.Proofs.Literal.Derivation
import GuidedXml.Proofs.Rule.Comparing

namespace GuidedXml.Literal

variable {α : Type} {values : String → Option String} {n : Nat} {s : Symbol} {i : Item}
  {is js rest : List Item} {e : Expr}

/-! ## Items of tokens -/

/-- What the tokens of the items say. -/
def lexemes (is : List Item) : List Lexeme :=
  is.map fun i => i.token.lexeme

@[simp] theorem lexemes_nil : lexemes [] = [] := rfl

@[simp] theorem lexemes_cons : lexemes (i :: is) = i.token.lexeme :: lexemes is := rfl

@[simp] theorem lexemes_append : lexemes (is ++ js) = lexemes is ++ lexemes js :=
  List.map_append

/-- Where what the tokens say falls in two, so do the items. -/
theorem lexemes_eq_append {ls ls' : List Lexeme} (h : lexemes is = ls ++ ls') :
    ∃ js ks, is = js ++ ks ∧ lexemes js = ls ∧ lexemes ks = ls' :=
  List.map_eq_append_iff.mp h

/-- Where the tokens say one thing first, one item stands for it. -/
theorem lexemes_eq_cons {l : Lexeme} {ls : List Lexeme} (h : lexemes is = l :: ls) :
    ∃ i js, is = i :: js ∧ i.token.lexeme = l ∧ lexemes js = ls :=
  List.map_eq_cons_iff.mp h

/-- Items that mean what their tokens mean. -/
def Faithful (values : String → Option String) (is : List Item) : Prop :=
  ∀ i ∈ is, meaning? values i.token.lexeme = some i.meaning

@[simp] theorem faithful_cons : Faithful values (i :: is) ↔
    meaning? values i.token.lexeme = some i.meaning ∧ Faithful values is :=
  List.forall_mem_cons

/-- Items are faithful exactly if both parts of them are. -/
@[simp] theorem faithful_append :
    Faithful values (is ++ js) ↔ Faithful values is ∧ Faithful values js :=
  List.forall_mem_append

/-- What a token means tells what it says. -/
theorem meaning?_eq_some {l : Lexeme} {m : Meaning} : meaning? values l = some m ↔
    match m with
    | .symbol s => l = .symbol s
    | .number x => ∃ digits, l = .number digits ∧ Number.readFloat? digits.toList = some x
    | .text t => l = .quoted t
    | .parameter value =>
      ∃ name, l = .word name ∧ Predicate.named? name = none ∧ values name = some value
    | .predicate p => ∃ name, l = .word name ∧ Predicate.named? name = some p := by
  cases l with
  | symbol s => cases m <;> simp [meaning?]
  | word name => cases hp : Predicate.named? name <;> cases m <;> simp [meaning?, hp]
  | number digits => cases m <;> simp [meaning?]
  | quoted content => cases m <;> simp [meaning?]

/-- The items of tokens mean what their tokens mean. -/
theorem faithful_items {ts : List Token} : Faithful values (items values ts) := by
  intro i hi
  obtain ⟨t, -, ht⟩ := List.mem_filterMap.mp hi
  obtain ⟨m, hm, rfl⟩ := Option.map_eq_some_iff.mp ht
  exact hm

/-- A token of a source has a meaning exactly if it is read. -/
theorem isSome_meaning?_of_mem_tokens {source : String} {ts : List Token}
    (hts : tokens source = .ok ts) {t : Token} (ht : t ∈ ts) :
    (meaning? values t.lexeme).isSome = isKnown values t.lexeme := by
  obtain ⟨c, cs, hpiece⟩ := exists_firstPiece_of_mem_tokens hts ht
  cases hl : t.lexeme with
  | symbol s => rfl
  | word name => cases hp : Predicate.named? name <;> simp [meaning?, isKnown, hp]
  | number digits =>
    rw [hl] at hpiece
    obtain ⟨x, hx⟩ := (isNumeral_of_firstPiece hpiece).exists_readFloat?
    simp [meaning?, isKnown, hx]
  | quoted content => rfl

/-- The items of a source are its tokens that are read. -/
theorem lexemes_items {source : String} {ts : List Token} (hts : tokens source = .ok ts) :
    lexemes (items values ts) = knownLexemes values ts := by
  have hall : ∀ t ∈ ts, (meaning? values t.lexeme).isSome = isKnown values t.lexeme :=
    fun t ht => isSome_meaning?_of_mem_tokens hts ht
  clear hts
  induction ts with
  | nil => rfl
  | cons t ts ih =>
    obtain ⟨ht, hrest⟩ := List.forall_mem_cons.mp hall
    have htail := ih hrest
    cases hm : meaning? values t.lexeme with
    | none =>
      rw [hm] at ht
      simpa [items, knownLexemes, hm, ← ht] using htail
    | some m =>
      rw [hm] at ht
      simpa [items, knownLexemes, hm, ← ht] using htail

/-! ## What reading gives -/

/-- A symbol is dropped exactly if an item that means it stands first. -/
theorem dropSymbol?_eq_some :
    dropSymbol? s is = some rest ↔ ∃ i, is = i :: rest ∧ i.meaning = .symbol s := by
  constructor
  · intro h
    unfold dropSymbol? at h
    split at h
    · rename_i i is
      split at h
      · rename_i t ht
        split at h
        · rename_i hts
          rw [hts] at ht
          exact ⟨i, by rw [Option.some.inj h], ht⟩
        · cases h
      · cases h
    · cases h
  · rintro ⟨i, rfl, hi⟩
    exact dropSymbol?_of_eq hi

/-- Another symbol is not dropped. -/
theorem dropSymbol?_of_symbol_ne {t : Symbol} (hi : i.meaning = .symbol t) (hne : t ≠ s) :
    dropSymbol? s (i :: is) = none := by
  refine dropSymbol?_of_ne fun j hj => ?_
  cases hj
  rw [hi]
  exact fun heq => hne (Meaning.symbol.inj heq)

/-- What was read and what is left. -/
def outcome : Except ReadFault (Reading α n) → Option (α × List Item)
  | .ok r => some (r.value, r.rest)
  | .error _ => none

theorem outcome_ok (r : Reading α n) : outcome (.ok r) = some (r.value, r.rest) := rfl

/-- What a call of the predicate reads after its name. -/
def outcomeCall (p : Predicate) (is : List Item) : Option (Expr × List Item) :=
  (dropSymbol? .openParen is).bind fun inner =>
    match dropSymbol? .closeParen inner with
    | some rest => some (.call p [], rest)
    | none =>
      (outcome (readSlots inner)).bind fun slots =>
        (dropSymbol? .closeParen slots.2).map fun rest => (.call p slots.1, rest)

/-- A primary is told by what its first item means. -/
theorem outcome_readPrimary :
    outcome (readPrimary (i :: is)) =
      match i.meaning with
      | .number x => some (.number x, is)
      | .text t => some (.text t, is)
      | .parameter value => some (.parameter value, is)
      | .predicate p => outcomeCall p is
      | .symbol .openParen =>
        (outcome (readExpr is)).bind fun inner =>
          (dropSymbol? .closeParen inner.2).map fun rest => (inner.1, rest)
      | .symbol _ => none := by
  -- reading a symbol and dropping it succeed together and leave the same
  have hsymbol : ∀ (s : Symbol) (is : List Item),
      (∃ rest h, readSymbol s is = .ok ⟨rest, h⟩ ∧ dropSymbol? s is = some rest) ∨
        (∃ fault, readSymbol s is = .error fault) ∧ dropSymbol? s is = none := by
    intro s is
    unfold readSymbol
    split
    · rename_i rest h
      exact .inl ⟨rest, length_of_dropSymbol? h, rfl, h⟩
    · rename_i h
      exact .inr ⟨⟨_, rfl⟩, h⟩
  rw [readPrimary]
  cases i.meaning with
  | number x => rfl
  | text t => rfl
  | parameter value => rfl
  | predicate p =>
    dsimp only [outcomeCall]
    rcases hsymbol .openParen is with ⟨inner, h, hread, hdrop⟩ | ⟨⟨fault, hread⟩, hdrop⟩
    · rw [hread, hdrop]
      dsimp only [Option.bind_some]
      split
      · rename_i rest hclose
        simp only [hclose, outcome_ok]
      · rename_i hclose
        rw [hclose]
        dsimp only
        cases readSlots inner with
        | error fault => rfl
        | ok slots =>
          simp only [outcome_ok, Option.bind_some]
          rcases hsymbol .closeParen slots.rest with
            ⟨rest, h, hread, hdrop⟩ | ⟨⟨fault, hread⟩, hdrop⟩
          · rw [hread, hdrop]
            rfl
          · rw [hread, hdrop]
            rfl
    · rw [hread, hdrop]
      rfl
  | symbol s =>
    cases s with
    | openParen =>
      dsimp only
      cases readExpr is with
      | error fault => rfl
      | ok inner =>
        simp only [outcome_ok, Option.bind_some]
        rcases hsymbol .closeParen inner.rest with
          ⟨rest, h, hread, hdrop⟩ | ⟨⟨fault, hread⟩, hdrop⟩
        · rw [hread, hdrop]
          rfl
        · rw [hread, hdrop]
          rfl
    | _ => rfl

/-- Slots are one slot, then more of them as long as a comma follows. -/
theorem outcome_readSlots :
    outcome (readSlots is) =
      (if slotIsEmpty is then some (none, is)
        else (outcome (readExpr is)).map fun r => (some r.1, r.2)).bind fun slot =>
          match dropSymbol? .comma slot.2 with
          | none => some ([slot.1], slot.2)
          | some js => (outcome (readSlots js)).map fun r => (slot.1 :: r.1, r.2) := by
  have hfirst : (if slotIsEmpty is then some (none, is)
        else (outcome (readExpr is)).map fun r => (some r.1, r.2)) =
      outcome (if slotIsEmpty is then .ok ⟨none, is, Nat.lt_succ_self _⟩
        else (readExpr is).map fun r => ⟨some r.value, r.rest, Nat.lt_succ_of_lt r.length_lt⟩ :
          Except ReadFault (Reading (Option Expr) (is.length + 1))) := by
    split
    · rfl
    · cases readExpr is <;> rfl
  rw [readSlots, hfirst]
  dsimp only
  split
  · rename_i fault h
    rw [h]
    rfl
  · rename_i slot h
    rw [h, outcome_ok, Option.bind_some]
    split
    · rename_i hlast
      rw [hlast, outcome_ok]
    · rename_i js hnext
      simp only [hnext]
      cases readSlots js <;> rfl

/-- A minus sign negates what follows it, and anything else begins a primary. -/
theorem outcome_readUnary :
    outcome (readUnary is) =
      match dropSymbol? .minus is with
      | none => outcome (readPrimary is)
      | some js => (outcome (readUnary js)).map fun r => (.negate r.1, r.2) := by
  rw [readUnary]
  split
  · rename_i h
    rw [h]
  · rename_i js h
    simp only [h]
    cases readUnary js <;> rfl

/-- A term is one operand and the factors after it. -/
theorem outcome_readTerm : outcome (readTerm is) =
    (outcome (readUnary is)).bind fun r => outcome (readFactors r.1 r.2) := by
  rw [readTerm]
  cases readUnary is with
  | error fault => rfl
  | ok left =>
    simp only [outcome_ok, Option.bind_some]
    cases readFactors left.value left.rest <;> rfl

/-- A sum is one term and the terms after it. -/
theorem outcome_readSum : outcome (readSum is) =
    (outcome (readTerm is)).bind fun r => outcome (readTerms r.1 r.2) := by
  rw [readSum]
  cases readTerm is with
  | error fault => rfl
  | ok left =>
    simp only [outcome_ok, Option.bind_some]
    cases readTerms left.value left.rest <;> rfl

/-- An expression is one sum, or two of them with an equals sign between them. -/
theorem outcome_readExpr :
    outcome (readExpr is) = (outcome (readSum is)).bind fun left =>
      match dropSymbol? .equal left.2 with
      | none => some left
      | some js => (outcome (readSum js)).map fun r => (.binary .equal left.1 r.1, r.2) := by
  rw [readExpr]
  cases readSum is with
  | error fault => rfl
  | ok left =>
    simp only [outcome_ok, Option.bind_some]
    split
    · rename_i h
      rw [h, outcome_ok]
    · rename_i js h
      simp only [h]
      cases readSum js <;> rfl

/-- `loop` goes on with operators and operands as long as there are operators. -/
structure IsLoop (op? : Meaning → Option Operator) (op : Symbol → Operator → Prop)
    (operand : List Item → Option (Expr × List Item))
    (loop : Expr → List Item → Option (Expr × List Item)) : Prop where
  operator {m : Meaning} {o : Operator} : op? m = some o ↔ ∃ s, m = .symbol s ∧ op s o
  nil (e : Expr) : loop e [] = some (e, [])
  stop (e : Expr) {i : Item} {is : List Item} : op? i.meaning = none →
    loop e (i :: is) = some (e, i :: is)
  go (e : Expr) {i : Item} {is : List Item} {o : Operator} : op? i.meaning = some o →
    loop e (i :: is) = (operand is).bind fun r => loop (.binary o e r.1) r.2

/-- The factors of a term are read in a loop. -/
theorem isLoop_readFactors : IsLoop multiplicative? Multiplicative
    (fun is => outcome (readUnary is)) (fun e is => outcome (readFactors e is)) where
  operator {m o} := by
    constructor
    · intro h
      unfold multiplicative? at h
      split at h
      · cases h
        exact ⟨_, rfl, .star⟩
      · cases h
        exact ⟨_, rfl, .slash⟩
      · cases h
    · rintro ⟨s, rfl, hop⟩
      cases hop <;> rfl
  nil e := by rw [readFactors, outcome_ok]
  stop e {i is} h := by rw [readFactors, h, outcome_ok]
  go e {i is o} h := by
    rw [readFactors, h]
    dsimp only
    cases readUnary is with
    | error fault => rfl
    | ok right =>
      simp only [outcome_ok, Option.bind_some]
      cases readFactors (.binary o e right.value) right.rest <;> rfl

/-- The terms of a sum are read in a loop. -/
theorem isLoop_readTerms : IsLoop additive? Additive
    (fun is => outcome (readTerm is)) (fun e is => outcome (readTerms e is)) where
  operator {m o} := by
    constructor
    · intro h
      unfold additive? at h
      split at h
      · cases h
        exact ⟨_, rfl, .plus⟩
      · cases h
        exact ⟨_, rfl, .minus⟩
      · cases h
    · rintro ⟨s, rfl, hop⟩
      cases hop <;> rfl
  nil e := by rw [readTerms, outcome_ok]
  stop e {i is} h := by rw [readTerms, h, outcome_ok]
  go e {i is o} h := by
    rw [readTerms, h]
    dsimp only
    cases readTerm is with
    | error fault => rfl
    | ok right =>
      simp only [outcome_ok, Option.bind_some]
      cases readTerms (.binary o e right.value) right.rest <;> rfl

end GuidedXml.Literal
