/-
# What is read is derived

Level by level, what the reader takes off the front of the items derives what it gives. The levels
lead back to the first only behind a parenthesis, so the induction is on the number of items.

The main statement says so of whole expressions.
-/
import GuidedXml.Proofs.Literal.Outcomes

namespace GuidedXml.Literal

variable {α : Type} {values : String → Option String} {n : Nat} {s : Symbol} {i : Item}
  {is js rest : List Item} {e : Expr}

/-! ## Operands and operators -/

/-- What the reader takes off the front of at most `n` items derives what it gives. -/
def SoundUpTo (values : String → Option String) (n : Nat) (G : List Lexeme → α → Prop)
    (reader : List Item → Option (α × List Item)) : Prop :=
  ∀ is a rest, Faithful values is → is.length ≤ n → reader is = some (a, rest) →
    ∃ front, is = front ++ rest ∧ G (lexemes front) a

/-- A reader that is sound for many items is so for fewer. -/
theorem SoundUpTo.mono {m : Nat} {G : List Lexeme → α → Prop}
    {reader : List Item → Option (α × List Item)} (h : SoundUpTo values n G reader) (hm : m ≤ n) :
    SoundUpTo values m G reader :=
  fun is a rest hf hlen hr => h is a rest hf (Nat.le_trans hlen hm) hr

/-- Only the token of a symbol means it. -/
theorem lexeme_of_meaning (hi : meaning? values i.token.lexeme = some i.meaning)
    (hs : i.meaning = .symbol s) : i.token.lexeme = .symbol s := by
  rw [hs] at hi
  exact meaning?_eq_some.mp hi

/-- Soundness passes from primaries to operands with signs. -/
theorem sound_readUnary
    (h : SoundUpTo values n (IsPrimary values) fun is => outcome (readPrimary is)) :
    SoundUpTo values n (IsUnary values) fun is => outcome (readUnary is) := by
  have hplain : ∀ is e rest, Faithful values is → is.length ≤ n →
      dropSymbol? .minus is = none → outcome (readUnary is) = some (e, rest) →
      ∃ front, is = front ++ rest ∧ IsUnary values (lexemes front) e := by
    intro is e rest hf hlen hd hr
    rw [outcome_readUnary, hd] at hr
    obtain ⟨front, his, hfront⟩ := h is e rest hf hlen hr
    exact ⟨front, his, .plain hfront⟩
  intro is
  induction is with
  | nil => exact fun e rest hf hlen hr => hplain [] e rest hf hlen rfl hr
  | cons i is ih =>
    intro e rest hf hlen hr
    cases hd : dropSymbol? .minus (i :: is) with
    | none => exact hplain _ e rest hf hlen hd hr
    | some js =>
      obtain ⟨i', heq, hi⟩ := dropSymbol?_eq_some.mp hd
      obtain ⟨rfl, rfl⟩ := List.cons.inj heq
      dsimp only at hr
      rw [outcome_readUnary, hd] at hr
      obtain ⟨⟨a, rest'⟩, hoperand, heq⟩ := Option.map_eq_some_iff.mp hr
      cases heq
      obtain ⟨hfi, hf⟩ := faithful_cons.mp hf
      obtain ⟨front, rfl, hfront⟩ := ih a rest' hf (Nat.le_of_succ_le hlen) hoperand
      refine ⟨i :: front, rfl, ?_⟩
      rw [lexemes_cons, lexeme_of_meaning hfi hi]
      exact .negated hfront

section Chains

variable {G : List Lexeme → Expr → Prop} {op? : Meaning → Option Operator}
  {op : Symbol → Operator → Prop} {operand : List Item → Option (Expr × List Item)}
  {loop : Expr → List Item → Option (Expr × List Item)}

/-- A loop adds links to the chain that it is given. -/
theorem IsLoop.sound (hl : IsLoop op? op operand loop) (h : SoundUpTo values n G operand) :
    ∀ is left e rest, Faithful values is → is.length ≤ n → loop left is = some (e, rest) →
      ∃ front, is = front ++ rest ∧
        ∀ ls, Chain G op ls left → Chain G op (ls ++ lexemes front) e := by
  have hdone : ∀ is left e rest, loop left is = some (left, is) → loop left is = some (e, rest) →
      ∃ front, is = front ++ rest ∧
        ∀ ls, Chain G op ls left → Chain G op (ls ++ lexemes front) e := by
    intro is left e rest hstop hr
    rw [hstop] at hr
    cases hr
    exact ⟨[], rfl, fun ls hls => by simpa using hls⟩
  induction n using Nat.strong_induction_on with
  | _ n ih =>
    intro is left e rest hf hlen hr
    cases is with
    | nil => exact hdone [] left e rest (hl.nil left) hr
    | cons i is =>
      cases ho : op? i.meaning with
      | none => exact hdone _ left e rest (hl.stop left ho) hr
      | some o =>
        rw [hl.go left ho] at hr
        obtain ⟨⟨right, js⟩, hright, hloop⟩ := Option.bind_eq_some_iff.mp hr
        obtain ⟨hfi, hf⟩ := faithful_cons.mp hf
        obtain ⟨front, rfl, hfront⟩ := h is right js hf (Nat.le_of_succ_le hlen) hright
        rw [List.length_cons, List.length_append] at hlen
        obtain ⟨front', rfl, hfront'⟩ := ih js.length (by omega) (h.mono (by omega)) js _ e rest
          (faithful_append.mp hf).2 (Nat.le_refl _) hloop
        obtain ⟨s, hs, hop⟩ := hl.operator.mp ho
        -- the chain so far takes in the operand before the loop goes on with it
        refine ⟨i :: front ++ front', by simp, fun ls hls => ?_⟩
        have hmore := hfront' _ (.more hls hop hfront)
        rw [← lexeme_of_meaning hfi hs] at hmore
        simpa using hmore

/-- What one operand and the loop after it read is a chain of operands. -/
theorem IsLoop.sound_chain (hl : IsLoop op? op operand loop) (h : SoundUpTo values n G operand) :
    SoundUpTo values n (Chain G op) fun is => (operand is).bind fun r => loop r.1 r.2 := by
  intro is e rest hf hlen hr
  obtain ⟨⟨left, js⟩, hleft, hloop⟩ := Option.bind_eq_some_iff.mp hr
  obtain ⟨front, rfl, hfront⟩ := h is left js hf hlen hleft
  rw [List.length_append] at hlen
  obtain ⟨front', rfl, hfront'⟩ :=
    hl.sound h js left e rest (faithful_append.mp hf).2 (by omega) hloop
  refine ⟨front ++ front', by simp, ?_⟩
  rw [lexemes_append]
  exact hfront' _ (.one hfront)

end Chains

/-- Soundness passes from operands to terms. -/
theorem sound_readTerm (h : SoundUpTo values n (IsUnary values) fun is => outcome (readUnary is)) :
    SoundUpTo values n (IsTerm values) fun is => outcome (readTerm is) := by
  simpa only [outcome_readTerm] using isLoop_readFactors.sound_chain h

/-- Soundness passes from terms to sums. -/
theorem sound_readSum (h : SoundUpTo values n (IsTerm values) fun is => outcome (readTerm is)) :
    SoundUpTo values n (IsSum values) fun is => outcome (readSum is) := by
  simpa only [outcome_readSum] using isLoop_readTerms.sound_chain h

/-- Soundness passes from sums to expressions. -/
theorem sound_readExpr (h : SoundUpTo values n (IsSum values) fun is => outcome (readSum is)) :
    SoundUpTo values n (IsExpr values) fun is => outcome (readExpr is) := by
  intro is e rest hf hlen hr
  dsimp only at hr
  rw [outcome_readExpr] at hr
  obtain ⟨⟨left, js⟩, hleft, hside⟩ := Option.bind_eq_some_iff.mp hr
  obtain ⟨front, rfl, hfront⟩ := h is left js hf hlen hleft
  dsimp only at hside
  cases hd : dropSymbol? .equal js with
  | none =>
    rw [hd] at hside
    cases hside
    exact ⟨front, rfl, .one hfront⟩
  | some ks =>
    rw [hd] at hside
    obtain ⟨⟨right, rest'⟩, hright, heq⟩ := Option.map_eq_some_iff.mp hside
    cases heq
    obtain ⟨i, rfl, hi⟩ := dropSymbol?_eq_some.mp hd
    obtain ⟨hfi, hf⟩ := faithful_cons.mp (faithful_append.mp hf).2
    rw [List.length_append, List.length_cons] at hlen
    obtain ⟨front', rfl, hfront'⟩ := h ks right rest' hf (by omega) hright
    refine ⟨front ++ i :: front', by simp, ?_⟩
    rw [lexemes_append, lexemes_cons, lexeme_of_meaning hfi hi]
    exact .two hfront hfront'

/-! ## Arguments -/

/-- Soundness passes from expressions to the slots of a call. -/
theorem sound_readSlots (h : SoundUpTo values n (IsExpr values) fun is => outcome (readExpr is)) :
    SoundUpTo values n (Slots (IsExpr values)) fun is => outcome (readSlots is) := by
  induction n using Nat.strong_induction_on with
  | _ n ih =>
    intro is slots rest hf hlen hr
    dsimp only at hr
    rw [outcome_readSlots] at hr
    obtain ⟨⟨slot, js⟩, hslot, hrest⟩ := Option.bind_eq_some_iff.mp hr
    obtain ⟨front, rfl, hfront⟩ : ∃ front, is = front ++ js ∧
        Slot (IsExpr values) (lexemes front) slot := by
      split at hslot
      · cases hslot
        exact ⟨[], rfl, .empty⟩
      · obtain ⟨⟨e, ks⟩, he, heq⟩ := Option.map_eq_some_iff.mp hslot
        cases heq
        obtain ⟨front, his, hfront⟩ := h is e ks hf hlen he
        exact ⟨front, his, .filled hfront⟩
    dsimp only at hrest
    cases hd : dropSymbol? .comma js with
    | none =>
      rw [hd] at hrest
      cases hrest
      exact ⟨front, rfl, .last hfront⟩
    | some ks =>
      rw [hd] at hrest
      obtain ⟨⟨slots', rest'⟩, hslots, heq⟩ := Option.map_eq_some_iff.mp hrest
      cases heq
      obtain ⟨i, rfl, hi⟩ := dropSymbol?_eq_some.mp hd
      obtain ⟨hfi, hf⟩ := faithful_cons.mp (faithful_append.mp hf).2
      rw [List.length_append, List.length_cons] at hlen
      obtain ⟨front', rfl, hfront'⟩ := ih ks.length (by omega) (h.mono (by omega)) ks slots' rest'
        hf (Nat.le_refl _) hslots
      refine ⟨front ++ i :: front', by simp, ?_⟩
      rw [lexemes_append, lexemes_cons, lexeme_of_meaning hfi hi]
      exact .next hfront hfront'

/-- One slot that is left out is read only before a closing parenthesis. -/
theorem closes_of_readSlots (h : outcome (readSlots is) = some ([none], rest)) :
    (dropSymbol? .closeParen is).isSome := by
  rw [outcome_readSlots] at h
  obtain ⟨⟨slot, js⟩, hslot, hrest⟩ := Option.bind_eq_some_iff.mp h
  dsimp only at hrest
  cases hd : dropSymbol? .comma js with
  | none =>
    rw [hd] at hrest
    cases hrest
    split at hslot
    · rename_i hempty
      cases hslot
      simpa [slotIsEmpty, hd] using hempty
    · obtain ⟨r, -, heq⟩ := Option.map_eq_some_iff.mp hslot
      cases heq
  | some ks =>
    rw [hd] at hrest
    obtain ⟨⟨slots, rest'⟩, hslots, heq⟩ := Option.map_eq_some_iff.mp hrest
    obtain rfl : slots = [] := by
      cases heq
      rfl
    rw [outcome_readSlots] at hslots
    obtain ⟨⟨slot', js'⟩, -, hrest'⟩ := Option.bind_eq_some_iff.mp hslots
    dsimp only at hrest'
    split at hrest'
    · cases hrest'
    · obtain ⟨r, -, heq⟩ := Option.map_eq_some_iff.mp hrest'
      cases heq

/-! ## Primary expressions -/

/-- What follows the name of a predicate is derived with it as a call. -/
theorem sound_outcomeCall {name : String} {p : Predicate}
    (h : SoundUpTo values n (IsExpr values) fun is => outcome (readExpr is))
    (hp : Predicate.named? name = some p) :
    SoundUpTo values n (fun ls => IsPrimary values (.word name :: ls)) (outcomeCall p) := by
  intro is e rest hf hlen hr
  obtain ⟨inner, hopen, hinner⟩ := Option.bind_eq_some_iff.mp hr
  obtain ⟨io, rfl, hio⟩ := dropSymbol?_eq_some.mp hopen
  obtain ⟨hfo, hf⟩ := faithful_cons.mp hf
  cases hclose : dropSymbol? .closeParen inner with
  | some js =>
    rw [hclose] at hinner
    cases hinner
    obtain ⟨ic, rfl, hic⟩ := dropSymbol?_eq_some.mp hclose
    obtain ⟨hfc, hf⟩ := faithful_cons.mp hf
    refine ⟨[io, ic], rfl, ?_⟩
    simp only [lexemes_cons, lexemes_nil, lexeme_of_meaning hfo hio, lexeme_of_meaning hfc hic]
    exact .call hp
  | none =>
    rw [hclose] at hinner
    obtain ⟨⟨slots, js⟩, hslots, hend⟩ := Option.bind_eq_some_iff.mp hinner
    obtain ⟨rest', hdrop, heq⟩ := Option.map_eq_some_iff.mp hend
    cases heq
    obtain ⟨ic, rfl, hic⟩ := dropSymbol?_eq_some.mp hdrop
    have hne : slots ≠ [none] := by
      rintro rfl
      have hcloses := closes_of_readSlots hslots
      rw [hclose] at hcloses
      cases hcloses
    obtain ⟨front, rfl, hfront⟩ :=
      sound_readSlots h inner slots _ hf (Nat.le_of_succ_le hlen) hslots
    obtain ⟨hfc, hf⟩ := faithful_cons.mp (faithful_append.mp hf).2
    refine ⟨io :: (front ++ [ic]), by simp, ?_⟩
    simp only [lexemes_cons, lexemes_append, lexemes_nil, lexeme_of_meaning hfo hio,
      lexeme_of_meaning hfc hic]
    exact .callWith hp hfront hne

/-- Soundness passes from expressions to primaries with one item more, the one that stands before
them. -/
theorem sound_readPrimary (h : SoundUpTo values n (IsExpr values) fun is => outcome (readExpr is)) :
    SoundUpTo values (n + 1) (IsPrimary values) fun is => outcome (readPrimary is) := by
  intro is e rest hf hlen hr
  dsimp only at hr
  cases is with
  | nil =>
    rw [readPrimary] at hr
    cases hr
  | cons i is =>
    obtain ⟨hfi, hf⟩ := faithful_cons.mp hf
    have hlen := Nat.le_of_succ_le_succ hlen
    rw [outcome_readPrimary] at hr
    cases hm : i.meaning with
    | number x =>
      rw [hm] at hfi hr
      cases hr
      obtain ⟨digits, hl, hx⟩ := meaning?_eq_some.mp hfi
      refine ⟨[i], rfl, ?_⟩
      rw [lexemes_cons, hl]
      exact .number hx
    | text t =>
      rw [hm] at hfi hr
      cases hr
      refine ⟨[i], rfl, ?_⟩
      rw [lexemes_cons, meaning?_eq_some.mp hfi]
      exact .quoted
    | parameter value =>
      rw [hm] at hfi hr
      cases hr
      obtain ⟨name, hl, hp, hv⟩ := meaning?_eq_some.mp hfi
      refine ⟨[i], rfl, ?_⟩
      rw [lexemes_cons, hl]
      exact .parameter hp hv
    | predicate p =>
      rw [hm] at hfi hr
      obtain ⟨name, hl, hp⟩ := meaning?_eq_some.mp hfi
      obtain ⟨front, rfl, hfront⟩ := sound_outcomeCall h hp is e rest hf hlen hr
      refine ⟨i :: front, rfl, ?_⟩
      rw [lexemes_cons, hl]
      exact hfront
    | symbol s =>
      -- of the symbols an opening parenthesis alone begins a primary
      have hopen : s = .openParen := by
        rw [hm] at hr
        cases s <;> first | rfl | cases hr
      rw [hopen] at hm
      rw [hm] at hr
      obtain ⟨⟨e, js⟩, he, hend⟩ := Option.bind_eq_some_iff.mp hr
      obtain ⟨rest', hdrop, heq⟩ := Option.map_eq_some_iff.mp hend
      cases heq
      obtain ⟨ic, rfl, hic⟩ := dropSymbol?_eq_some.mp hdrop
      obtain ⟨front, rfl, hfront⟩ := h is e _ hf hlen he
      obtain ⟨hfc, hf⟩ := faithful_cons.mp (faithful_append.mp hf).2
      refine ⟨i :: (front ++ [ic]), by simp, ?_⟩
      simp only [lexemes_cons, lexemes_append, lexemes_nil, lexeme_of_meaning hfi hm,
        lexeme_of_meaning hfc hic]
      exact .parens hfront

/-- Whatever is read is derived. -/
theorem soundUpTo_readExpr (n : Nat) :
    SoundUpTo values n (IsExpr values) fun is => outcome (readExpr is) := by
  induction n with
  | zero =>
    have hprimary : SoundUpTo values 0 (IsPrimary values) fun is => outcome (readPrimary is) := by
      intro is e rest hf hlen hr
      obtain rfl := List.length_eq_zero_iff.mp (Nat.le_zero.mp hlen)
      dsimp only at hr
      rw [readPrimary] at hr
      cases hr
    exact sound_readExpr (sound_readSum (sound_readTerm (sound_readUnary hprimary)))
  | succ n ih =>
    exact sound_readExpr (sound_readSum (sound_readTerm (sound_readUnary (sound_readPrimary ih))))

end GuidedXml.Literal
