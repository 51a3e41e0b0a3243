/-
# What is derived is read

Level by level, a derivation for the front of the items is what the reader gives, provided that no
operator follows which the level would go on with. As the reader gives at most one expression, at
most one is derived.

The main statement says that reading the tokens of a source gives an expression exactly if the
tokens that are read derive it.
-/
import GuidedXml.Proofs.Literal.Soundness

namespace GuidedXml.Literal

variable {α : Type} {values : String → Option String} {n : Nat} {s : Symbol} {i : Item}
  {is js rest : List Item} {e : Expr}

/-! ## Operands and operators -/

/-- The reader takes a front of at most `n` items off the items and gives what that front derives,
when what is left is as `F` says. -/
def CompleteUpTo (values : String → Option String) (n : Nat) (F : List Item → Prop)
    (G : List Lexeme → α → Prop) (reader : List Item → Option (α × List Item)) : Prop :=
  ∀ front rest a, Faithful values front → front.length ≤ n → F rest → G (lexemes front) a →
    reader (front ++ rest) = some (a, rest)

/-- The token of a symbol means nothing but it. -/
theorem meaning_of_lexeme (hi : meaning? values i.token.lexeme = some i.meaning)
    (hl : i.token.lexeme = .symbol s) : i.meaning = .symbol s := by
  rw [hl] at hi
  exact (Option.some.inj hi).symm

/-- No primary starts with a symbol other than an opening parenthesis. -/
theorem dropSymbol?_of_readPrimary {r : Expr × List Item} (h : outcome (readPrimary is) = some r)
    (hs : s ≠ .openParen) : dropSymbol? s is = none := by
  cases hd : dropSymbol? s is with
  | none => rfl
  | some js =>
    obtain ⟨i, rfl, hi⟩ := dropSymbol?_eq_some.mp hd
    rw [outcome_readPrimary, hi] at h
    cases s with
    | openParen => exact absurd rfl hs
    | _ => cases h

/-- Completeness passes from primaries to operands with signs. -/
theorem complete_readUnary
    (h : CompleteUpTo values n (fun _ => True) (IsPrimary values)
      fun is => outcome (readPrimary is)) :
    CompleteUpTo values n (fun _ => True) (IsUnary values) fun is => outcome (readUnary is) := by
  intro front rest e hf hlen _ hd
  dsimp only
  generalize hls : lexemes front = ls at hd
  induction hd generalizing front with
  | plain hp =>
    -- no primary expression starts with a minus sign, so none is taken for an operator
    rw [← hls] at hp
    have hr := h front rest _ hf hlen trivial hp
    rw [outcome_readUnary, dropSymbol?_of_readPrimary hr (by decide)]
    exact hr
  | negated hd ih =>
    obtain ⟨i, js, rfl, hi, hjs⟩ := lexemes_eq_cons hls
    obtain ⟨hfi, hf⟩ := faithful_cons.mp hf
    rw [List.cons_append, outcome_readUnary, dropSymbol?_of_eq (meaning_of_lexeme hfi hi)]
    dsimp only
    rw [ih js hf (Nat.le_of_succ_le hlen) hjs, Option.map_some]

section Chains

variable {F F' : List Item → Prop} {G : List Lexeme → Expr → Prop}
  {op? : Meaning → Option Operator} {op : Symbol → Operator → Prop}
  {operand : List Item → Option (Expr × List Item)}
  {loop : Expr → List Item → Option (Expr × List Item)}

/-- Behind the items of a chain the loop goes on with the expression of the chain. -/
theorem IsLoop.bind_loop (hl : IsLoop op? op operand loop) (h : CompleteUpTo values n F G operand)
    (hF : ∀ i is, (op? i.meaning).isSome → F (i :: is)) {ls : List Lexeme} (hc : Chain G op ls e) :
    ∀ front rest, Faithful values front → front.length ≤ n → F rest → lexemes front = ls →
      ((operand (front ++ rest)).bind fun r => loop r.1 r.2) = loop e rest := by
  -- chains grow to the right, so the operand that is read first is the one at the start of the chain
  induction hc with
  | one hc =>
    rintro front rest hf hlen hrest rfl
    rw [h front rest _ hf hlen hrest hc, Option.bind_some]
  | @more ls ls' a b s o hc hop hb ih =>
    intro front rest hf hlen hrest hls
    obtain ⟨left, tail, rfl, hleft, htail⟩ := lexemes_eq_append hls
    obtain ⟨i, right, rfl, hi, rfl⟩ := lexemes_eq_cons htail
    obtain ⟨hfl, hf⟩ := faithful_append.mp hf
    obtain ⟨hfi, hfr⟩ := faithful_cons.mp hf
    rw [List.length_append, List.length_cons] at hlen
    have ho : op? i.meaning = some o := hl.operator.mpr ⟨s, meaning_of_lexeme hfi hi, hop⟩
    rw [List.append_assoc, List.cons_append,
      ih left _ hfl (by omega) (hF i _ (by rw [ho]; rfl)) hleft, hl.go a ho,
      h right rest b hfr (by omega) hrest hb, Option.bind_some]

/-- The items of a chain are read to their end where the loop cannot go on behind them. -/
theorem IsLoop.complete_chain (hl : IsLoop op? op operand loop)
    (h : CompleteUpTo values n F G operand) (hF : ∀ i is, (op? i.meaning).isSome → F (i :: is))
    (hF' : ∀ is, F' is → F is ∧ ∀ i ∈ is.head?, op? i.meaning = none) :
    CompleteUpTo values n F' (Chain G op) fun is => (operand is).bind fun r => loop r.1 r.2 := by
  intro front rest e hf hlen hrest hc
  obtain ⟨hrest, hstop⟩ := hF' rest hrest
  dsimp only
  rw [hl.bind_loop h hF hc front rest hf hlen hrest rfl]
  cases rest with
  | nil => exact hl.nil e
  | cons i rest => exact hl.stop e (hstop i rfl)

end Chains

/-- No operator between factors stands at the start of these items. -/
def EndsTerm (is : List Item) : Prop :=
  ∀ i ∈ is.head?, multiplicative? i.meaning = none

/-- No operator between factors or terms stands at the start of these items. -/
def EndsSum (is : List Item) : Prop :=
  ∀ i ∈ is.head?, multiplicative? i.meaning = none ∧ additive? i.meaning = none

/-- Completeness passes from operands to terms. -/
theorem complete_readTerm
    (h : CompleteUpTo values n (fun _ => True) (IsUnary values) fun is => outcome (readUnary is)) :
    CompleteUpTo values n EndsTerm (IsTerm values) fun is => outcome (readTerm is) := by
  have hchain : CompleteUpTo values n EndsTerm (IsTerm values) _ :=
    isLoop_readFactors.complete_chain h (fun _ _ _ => trivial) fun is his => ⟨trivial, his⟩
  simpa only [outcome_readTerm] using hchain

/-- Completeness passes from terms to sums. -/
theorem complete_readSum
    (h : CompleteUpTo values n EndsTerm (IsTerm values) fun is => outcome (readTerm is)) :
    CompleteUpTo values n EndsSum (IsSum values) fun is => outcome (readSum is) := by
  have hadditive : ∀ i is, (additive? i.meaning).isSome → EndsTerm (i :: is) := by
    intro i is hi j hj
    cases hj
    obtain ⟨o, ho⟩ := Option.isSome_iff_exists.mp hi
    obtain ⟨s, hs, hop⟩ := isLoop_readTerms.operator.mp ho
    rw [hs]
    cases hop <;> rfl
  have hchain : CompleteUpTo values n EndsSum (IsSum values) _ :=
    isLoop_readTerms.complete_chain h hadditive fun is his =>
      ⟨fun i hi => (his i hi).1, fun i hi => (his i hi).2⟩
  simpa only [outcome_readSum] using hchain

/-- Completeness passes from sums to expressions. -/
theorem complete_readExpr
    (h : CompleteUpTo values n EndsSum (IsSum values) fun is => outcome (readSum is)) :
    CompleteUpTo values n EndsOperand (IsExpr values) fun is => outcome (readExpr is) := by
  intro front rest e hf hlen hrest hd
  have hsum : EndsSum rest := fun i hi => ⟨(hrest i hi).1, (hrest i hi).2.1⟩
  dsimp only
  rw [outcome_readExpr]
  generalize hls : lexemes front = ls at hd
  cases hd with
  | one hd =>
    rw [← hls] at hd
    have hr : outcome (readSum (front ++ rest)) = some (e, rest) := h front rest e hf hlen hsum hd
    rw [hr, Option.bind_some, dropSymbol?_of_ne fun i hi => (hrest i hi).2.2]
  | @two _ _ a b ha hb =>
    obtain ⟨left, tail, rfl, rfl, htail⟩ := lexemes_eq_append hls
    obtain ⟨i, right, rfl, hi, rfl⟩ := lexemes_eq_cons htail
    obtain ⟨hfl, hf⟩ := faithful_append.mp hf
    obtain ⟨hfi, hfr⟩ := faithful_cons.mp hf
    rw [List.length_append, List.length_cons] at hlen
    have hequal := meaning_of_lexeme hfi hi
    have hends : EndsSum (i :: (right ++ rest)) := by
      intro j hj
      cases hj
      rw [hequal]
      exact ⟨rfl, rfl⟩
    have hleft : outcome (readSum (left ++ i :: (right ++ rest))) =
        some (a, i :: (right ++ rest)) :=
      h left _ a hfl (by omega) hends ha
    have hright : outcome (readSum (right ++ rest)) = some (b, rest) :=
      h right rest b hfr (by omega) hsum hb
    rw [List.append_assoc, List.cons_append, hleft, Option.bind_some, dropSymbol?_of_eq hequal]
    dsimp only
    rw [hright, Option.map_some]

/-! ## Arguments -/

/-- An expression starts with no comma and no closing parenthesis. -/
theorem slotIsEmpty_of_readExpr {r : Expr × List Item} (h : outcome (readExpr is) = some r) :
    slotIsEmpty is = false := by
  rw [outcome_readExpr] at h
  obtain ⟨_, h, -⟩ := Option.bind_eq_some_iff.mp h
  rw [outcome_readSum] at h
  obtain ⟨_, h, -⟩ := Option.bind_eq_some_iff.mp h
  rw [outcome_readTerm] at h
  obtain ⟨_, h, -⟩ := Option.bind_eq_some_iff.mp h
  rw [outcome_readUnary] at h
  cases hd : dropSymbol? .minus is with
  | none =>
    rw [hd] at h
    rw [slotIsEmpty, dropSymbol?_of_readPrimary h (by decide),
      dropSymbol?_of_readPrimary h (by decide)]
    rfl
  | some js =>
    obtain ⟨i, rfl, hi⟩ := dropSymbol?_eq_some.mp hd
    rw [slotIsEmpty, dropSymbol?_of_symbol_ne hi (by decide),
      dropSymbol?_of_symbol_ne hi (by decide)]
    rfl

/-- A comma or a closing parenthesis stands at the start of these items. -/
def EndsSlot (is : List Item) : Prop :=
  ∃ i js, is = i :: js ∧ (i.meaning = .symbol .comma ∨ i.meaning = .symbol .closeParen)

/-- A slot is read as derived, be it empty or filled. -/
theorem complete_slot {front : List Item} {slot : Option Expr}
    (h : CompleteUpTo values n EndsOperand (IsExpr values) fun is => outcome (readExpr is))
    (hf : Faithful values front) (hlen : front.length ≤ n) (hrest : EndsSlot rest)
    (hd : Slot (IsExpr values) (lexemes front) slot) :
    (if slotIsEmpty (front ++ rest) then some (none, front ++ rest)
      else (outcome (readExpr (front ++ rest))).map fun r => (some r.1, r.2)) =
      some (slot, rest) := by
  obtain ⟨i, js, rfl, hi⟩ := hrest
  generalize hls : lexemes front = ls at hd
  cases hd with
  | empty =>
    obtain rfl := List.map_eq_nil_iff.mp hls
    have hempty : slotIsEmpty (i :: js) = true := by
      rcases hi with hi | hi <;> simp [slotIsEmpty, dropSymbol?_of_eq hi]
    rw [List.nil_append, if_pos hempty]
  | @filled _ e hd =>
    rw [← hls] at hd
    have hr : outcome (readExpr (front ++ i :: js)) = some (e, i :: js) :=
      h front (i :: js) e hf hlen (endsOperand_of_meaning hi) hd
    rw [if_neg (by rw [slotIsEmpty_of_readExpr hr]; exact Bool.false_ne_true), hr, Option.map_some]

/-- Completeness passes from expressions to the slots of a call. -/
theorem complete_readSlots
    (h : CompleteUpTo values n EndsOperand (IsExpr values) fun is => outcome (readExpr is)) :
    CompleteUpTo values n (fun is => (dropSymbol? .closeParen is).isSome) (Slots (IsExpr values))
      fun is => outcome (readSlots is) := by
  intro front rest slots hf hlen hrest hd
  obtain ⟨js, hclose⟩ := Option.isSome_iff_exists.mp hrest
  obtain ⟨ic, rfl, hic⟩ := dropSymbol?_eq_some.mp hclose
  dsimp only
  generalize hls : lexemes front = ls at hd
  induction hd generalizing front with
  | @last _ slot hslot =>
    rw [← hls] at hslot
    rw [outcome_readSlots, complete_slot h hf hlen ⟨ic, js, rfl, .inr hic⟩ hslot, Option.bind_some,
      dropSymbol?_of_symbol_ne hic (by decide)]
  | @next _ _ slot slots hslot hd ih =>
    obtain ⟨first, tail, rfl, rfl, htail⟩ := lexemes_eq_append hls
    obtain ⟨i, others, rfl, hi, hothers⟩ := lexemes_eq_cons htail
    obtain ⟨hff, hf⟩ := faithful_append.mp hf
    obtain ⟨hfi, hfo⟩ := faithful_cons.mp hf
    rw [List.length_append, List.length_cons] at hlen
    have hcomma := meaning_of_lexeme hfi hi
    rw [List.append_assoc, List.cons_append, outcome_readSlots,
      complete_slot h hff (by omega) ⟨i, _, rfl, .inl hcomma⟩ hslot, Option.bind_some,
      dropSymbol?_of_eq hcomma]
    dsimp only
    rw [ih others hfo (by omega) hothers, Option.map_some]

/-- Before a closing parenthesis there is one slot, which is empty. -/
theorem readSlots_of_closes (h : (dropSymbol? .closeParen is).isSome) :
    outcome (readSlots is) = some ([none], is) := by
  obtain ⟨js, hclose⟩ := Option.isSome_iff_exists.mp h
  obtain ⟨i, rfl, hi⟩ := dropSymbol?_eq_some.mp hclose
  have hempty : slotIsEmpty (i :: js) = true := by simp [slotIsEmpty, hclose]
  rw [outcome_readSlots, if_pos hempty, Option.bind_some,
    dropSymbol?_of_symbol_ne hi (by decide)]

/-! ## Primary expressions -/

/-- A call with nothing between its parentheses has no arguments. -/
theorem outcomeCall_nothing {p : Predicate} {io ic : Item} (ho : io.meaning = .symbol .openParen)
    (hc : ic.meaning = .symbol .closeParen) :
    outcomeCall p (io :: ic :: rest) = some (.call p [], rest) := by
  rw [outcomeCall, dropSymbol?_of_eq ho, Option.bind_some, dropSymbol?_of_eq hc]

/-- A call with slots between its parentheses has them as its arguments. -/
theorem outcomeCall_slots {p : Predicate} {io ic : Item} {front : List Item}
    {slots : List (Option Expr)}
    (h : CompleteUpTo values n EndsOperand (IsExpr values) fun is => outcome (readExpr is))
    (hf : Faithful values front) (hlen : front.length ≤ n) (ho : io.meaning = .symbol .openParen)
    (hc : ic.meaning = .symbol .closeParen) (hd : Slots (IsExpr values) (lexemes front) slots)
    (hne : slots ≠ [none]) :
    outcomeCall p (io :: (front ++ ic :: rest)) = some (.call p slots, rest) := by
  have hclose : dropSymbol? .closeParen (ic :: rest) = some rest := dropSymbol?_of_eq hc
  have hslots : outcome (readSlots (front ++ ic :: rest)) = some (slots, ic :: rest) :=
    complete_readSlots h front (ic :: rest) slots hf hlen
      (Option.isSome_iff_exists.mpr ⟨rest, hclose⟩) hd
  -- a closing parenthesis here would have made a single slot that is left out
  have hnone : dropSymbol? .closeParen (front ++ ic :: rest) = none := by
    cases hd' : dropSymbol? .closeParen (front ++ ic :: rest) with
    | none => rfl
    | some js =>
      rw [readSlots_of_closes (Option.isSome_iff_exists.mpr ⟨js, hd'⟩)] at hslots
      exact absurd (congrArg Prod.fst (Option.some.inj hslots)).symm hne
  rw [outcomeCall, dropSymbol?_of_eq ho, Option.bind_some, hnone]
  dsimp only
  rw [hslots, Option.bind_some, hclose, Option.map_some]

/-- Completeness passes from expressions to primaries with one item more. -/
theorem complete_readPrimary
    (h : CompleteUpTo values n EndsOperand (IsExpr values) fun is => outcome (readExpr is)) :
    CompleteUpTo values (n + 1) (fun _ => True) (IsPrimary values)
      fun is => outcome (readPrimary is) := by
  intro front rest e hf hlen _ hd
  dsimp only
  generalize hls : lexemes front = ls at hd
  cases ls with
  | nil => cases hd
  | cons l ls =>
    obtain ⟨i, front, rfl, hi, htail⟩ := lexemes_eq_cons hls
    obtain ⟨hfi, hf⟩ := faithful_cons.mp hf
    rw [List.cons_append, outcome_readPrimary]
    rw [hi] at hfi
    -- the first item means what its token means, so that the derivation tells the branch of the
    -- reader
    have hmeaning : ∀ m, meaning? values l = some m → i.meaning = m := fun m hm =>
      Option.some.inj (hfi.symm.trans hm)
    cases hd with
    | @number digits x hx =>
      obtain rfl := List.map_eq_nil_iff.mp htail
      rw [hmeaning (.number x) (by simp [meaning?, hx])]
      rfl
    | quoted =>
      obtain rfl := List.map_eq_nil_iff.mp htail
      rw [hmeaning _ rfl]
      rfl
    | @parameter name value hp hv =>
      obtain rfl := List.map_eq_nil_iff.mp htail
      rw [hmeaning (.parameter value) (by simp [meaning?, hp, hv])]
      rfl
    | parens hd =>
      obtain ⟨inner, tail, rfl, rfl, hend⟩ := lexemes_eq_append htail
      obtain ⟨ic, tail, rfl, hc, hnil⟩ := lexemes_eq_cons hend
      obtain rfl := List.map_eq_nil_iff.mp hnil
      obtain ⟨hfinner, hfc⟩ := faithful_append.mp hf
      have hclose := meaning_of_lexeme (faithful_cons.mp hfc).1 hc
      have hr : outcome (readExpr (inner ++ ic :: rest)) = some (e, ic :: rest) :=
        h inner (ic :: rest) e hfinner (by simp at hlen; omega)
          (endsOperand_of_meaning (.inr hclose)) hd
      rw [hmeaning _ rfl, List.append_assoc]
      simp only [List.cons_append, List.nil_append, hr, Option.bind_some, dropSymbol?_of_eq hclose,
        Option.map_some]
    | @call name p hp =>
      obtain ⟨io, tail, rfl, ho, htail⟩ := lexemes_eq_cons htail
      obtain ⟨ic, tail, rfl, hc, htail⟩ := lexemes_eq_cons htail
      obtain rfl := List.map_eq_nil_iff.mp htail
      obtain ⟨hfo, hf⟩ := faithful_cons.mp hf
      rw [hmeaning (.predicate p) (by simp [meaning?, hp])]
      exact outcomeCall_nothing (meaning_of_lexeme hfo ho)
        (meaning_of_lexeme (faithful_cons.mp hf).1 hc)
    | @callWith name p _ slots hp hd hne =>
      obtain ⟨io, tail, rfl, ho, htail⟩ := lexemes_eq_cons htail
      obtain ⟨inner, tail, rfl, rfl, hend⟩ := lexemes_eq_append htail
      obtain ⟨ic, tail, rfl, hc, hnil⟩ := lexemes_eq_cons hend
      obtain rfl := List.map_eq_nil_iff.mp hnil
      obtain ⟨hfo, hf⟩ := faithful_cons.mp hf
      obtain ⟨hfinner, hfc⟩ := faithful_append.mp hf
      rw [hmeaning (.predicate p) (by simp [meaning?, hp]), List.cons_append, List.append_assoc]
      exact outcomeCall_slots h hfinner (by simp at hlen; omega) (meaning_of_lexeme hfo ho)
        (meaning_of_lexeme (faithful_cons.mp hfc).1 hc) hd hne

/-- Whatever is derived is read. -/
theorem completeUpTo_readExpr (n : Nat) :
    CompleteUpTo values n EndsOperand (IsExpr values) fun is => outcome (readExpr is) := by
  induction n with
  | zero =>
    have hprimary : CompleteUpTo values 0 (fun _ => True) (IsPrimary values)
        fun is => outcome (readPrimary is) := by
      intro front rest e hf hlen _ hd
      obtain rfl := List.length_eq_zero_iff.mp (Nat.le_zero.mp hlen)
      cases hd
    exact complete_readExpr (complete_readSum (complete_readTerm (complete_readUnary hprimary)))
  | succ n ih =>
    exact complete_readExpr
      (complete_readSum (complete_readTerm (complete_readUnary (complete_readPrimary ih))))

/-! ## Literals -/

/-- Reading items gives the expression that their tokens derive. -/
theorem readItems_eq_ok (hf : Faithful values is) :
    readItems is = .ok e ↔ IsExpr values (lexemes is) e := by
  have houtcome : readItems is = .ok e ↔ outcome (readExpr is) = some (e, []) := by
    rw [readItems]
    cases readExpr is with
    | error fault => simp [outcome]
    | ok r =>
      rw [outcome_ok]
      by_cases hrest : r.rest = [] <;> simp [hrest]
  rw [houtcome]
  constructor
  · intro h
    obtain ⟨front, his, hfront⟩ := soundUpTo_readExpr is.length is e [] hf (Nat.le_refl _) h
    rw [List.append_nil] at his
    rwa [his]
  · intro h
    have hr := completeUpTo_readExpr is.length is [] e hf (Nat.le_refl _) (by simp [EndsOperand]) h
    rwa [List.append_nil] at hr

/-- Reading the tokens of a source gives an expression exactly if the tokens that are read derive
it, and they derive at most one expression. -/
theorem read_iff_isExpr {source : String} {ts : List Token} (hts : tokens source = .ok ts)
    (values : String → Option String) :
    (∀ e, read values ts = .ok e ↔ IsExpr values (knownLexemes values ts) e) ∧
      ∀ e e', IsExpr values (knownLexemes values ts) e →
        IsExpr values (knownLexemes values ts) e' → e = e' := by
  have hread : ∀ e, read values ts = .ok e ↔ IsExpr values (knownLexemes values ts) e := by
    intro e
    rw [read, readItems_eq_ok faithful_items, lexemes_items hts]
  refine ⟨hread, fun e e' he he' => ?_⟩
  have heq := ((hread e).mpr he).symm.trans ((hread e').mpr he')
  exact Except.ok.inj heq

/-- A word without a value leaves its slot of a call empty. -/
theorem read_call_with_slot_left_out :
    ∃ ts, tokens "edlValidation_strIsEqual(-a, b)" = .ok ts ∧
      read (fun name => if name = "a" then some "1" else none) ts =
        .ok (.call .isSameText [some (.negate (.parameter "1")), none]) := by
  have hts : tokens "edlValidation_strIsEqual(-a, b)" =
      .ok [⟨.word "edlValidation_strIsEqual", ⟨0, 24⟩⟩, ⟨.symbol .openParen, ⟨24, 25⟩⟩,
        ⟨.symbol .minus, ⟨25, 26⟩⟩, ⟨.word "a", ⟨26, 27⟩⟩, ⟨.symbol .comma, ⟨27, 28⟩⟩,
        ⟨.word "b", ⟨29, 30⟩⟩, ⟨.symbol .closeParen, ⟨30, 31⟩⟩] := by
    decide +kernel
  refine ⟨_, hts, ((read_iff_isExpr hts _).1 _).mpr ?_⟩
  have hknown : knownLexemes (fun name => if name = "a" then some "1" else none)
      [⟨.word "edlValidation_strIsEqual", ⟨0, 24⟩⟩, ⟨.symbol .openParen, ⟨24, 25⟩⟩,
        ⟨.symbol .minus, ⟨25, 26⟩⟩, ⟨.word "a", ⟨26, 27⟩⟩, ⟨.symbol .comma, ⟨27, 28⟩⟩,
        ⟨.word "b", ⟨29, 30⟩⟩, ⟨.symbol .closeParen, ⟨30, 31⟩⟩] =
      .word "edlValidation_strIsEqual" :: .symbol .openParen ::
        (([.symbol .minus, .word "a"] ++ [.symbol .comma]) ++ [.symbol .closeParen]) := by
    decide +kernel
  rw [hknown]
  refine .one (.one (.one (.plain (.callWith (by decide) (.next (.filled ?_) (.last .empty))
    (by simp)))))
  exact .one (.one (.one (.negated (.plain (.parameter (by decide) (by simp))))))

end GuidedXml.Literal
