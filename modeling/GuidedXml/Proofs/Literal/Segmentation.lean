/-
# Longest match

Which pieces a literal can be made of, given by patterns and without regard to how a piece is found,
and how the longest match of a pattern cuts a text from the left.

No two patterns match the same text, so a text is cut in one way at most. A piece that the reading
of tokens takes is told by its first character, and the patterns that can start with it are few.

The main statement says that the tokens of a source are the pieces of that cutting, the separators
aside, and where they stand in the source.
-/
import GuidedXml.Literal.Token
import Mathlib

namespace GuidedXml.Literal

variable {c : Char} {cs p q : List Char}

/-! ## Patterns -/

/-- The shapes of pieces. -/
inductive Shape where
  | symbol (s : Symbol)
  | word
  | number
  | quoted
  | malformedNumber
  | unterminatedText
  | separators
  deriving DecidableEq, Repr

/-- One or more digits. -/
def IsDigits (cs : List Char) : Prop :=
  cs ≠ [] ∧ ∀ c ∈ cs, c.isDigit = true

/-- What may stand after an opening quote: characters other than quotes and backslashes, and
backslashes with the character after them, which is no line feed. -/
inductive IsQuotable : List Char → Prop
  | nil : IsQuotable []
  | plain {c : Char} {cs : List Char} : c ≠ '\'' → c ≠ '\\' → IsQuotable cs → IsQuotable (c :: cs)
  | escaped {c : Char} {cs : List Char} : c ≠ '\n' → IsQuotable cs → IsQuotable ('\\' :: c :: cs)

/-- Which texts have a shape. -/
def Shape.Matches : Shape → List Char → Prop
  | symbol s, cs => cs = s.render.toList
  | word, cs => ∃ c r, cs = c :: r ∧ isLetter c = true ∧ ∀ x ∈ r, isWordChar x = true
  | number, cs => IsDigits cs ∨ ∃ ds fs, cs = ds ++ '.' :: fs ∧ IsDigits ds ∧ IsDigits fs
  | quoted, cs => ∃ r, cs = '\'' :: (r ++ ['\'']) ∧ IsQuotable r
  | malformedNumber, cs => ∃ ds, cs = ds ++ ['.'] ∧ IsDigits ds
  | unterminatedText, cs => ∃ r, cs = '\'' :: r ∧ IsQuotable r
  | separators, cs => cs ≠ [] ∧ ∀ x ∈ cs, isSeparator x = true

/-- The text starts with a piece of that shape, and with no longer piece of any shape. -/
structure IsLongest (k : Shape) (piece cs : List Char) : Prop where
  starts : piece <+: cs
  shaped : k.Matches piece
  longest : ∀ k' piece', piece' <+: cs → Shape.Matches k' piece' → piece'.length ≤ piece.length

/-- A text cut into its longest pieces, one after the other. -/
inductive Segmented : List Char → List (Shape × List Char) → Prop
  | nil : Segmented [] []
  | cons {k : Shape} {piece rest : List Char} {segs : List (Shape × List Char)} :
      IsLongest k piece (piece ++ rest) → Segmented rest segs →
      Segmented (piece ++ rest) ((k, piece) :: segs)

/-- Whether the shape is that of a piece that is wrong. -/
def Shape.isFault : Shape → Bool
  | malformedNumber | unterminatedText => true
  | _ => false

/-- A quoted text as it is meant: a backslash right before a quote is left out. -/
def unescaped : List Char → List Char
  | [] => []
  | c :: cs => if c = '\\' ∧ cs.head? = some '\'' then unescaped cs else c :: unescaped cs

/-- What the token of a piece says; separators and pieces that are wrong are no tokens. -/
def Shape.lexeme? : Shape → List Char → Option Lexeme
  | symbol s, _ => some (.symbol s)
  | word, piece => some (.word (String.ofList piece))
  | number, piece => some (.number (String.ofList piece))
  | quoted, piece => some (.quoted (String.ofList (unescaped piece.tail.dropLast)))
  | _, _ => none

/-- The tokens of a text that was cut, from a byte position on. -/
def tokensOf : Nat → List (Shape × List Char) → List Token
  | _, [] => []
  | start, (k, piece) :: segs =>
    let span : Span := ⟨start, start + Text.byteCount piece⟩
    match k.lexeme? piece with
    | some l => ⟨l, span⟩ :: tokensOf span.stop segs
    | none => tokensOf span.stop segs

variable {k k' : Shape} {segs segs' : List (Shape × List Char)}

/-! ## First characters -/

/-- What can start with a character. -/
inductive Head where
  | letter | digit | quote | separator
  | symbol (s : Symbol)
  deriving DecidableEq

/-- The symbol that starts with a character. -/
def leading? (c : Char) : Option Symbol :=
  if c = '=' then some .equal else symbol? c

/-- What can start with the character. -/
def headOf (c : Char) : Head :=
  if isLetter c then .letter
  else if c.isDigit then .digit
  else if c = '\'' then .quote
  else match leading? c with
    | some s => .symbol s
    | none => .separator

/-- What a piece of the shape starts with. -/
def Shape.head : Shape → Head
  | symbol s => .symbol s
  | word => .letter
  | number | malformedNumber => .digit
  | quoted | unterminatedText => .quote
  | separators => .separator

/-- A digit is no letter. -/
theorem isLetter_of_isDigit (hc : c.isDigit = true) : isLetter c = false := by
  rw [Bool.eq_false_iff]
  intro hl
  simp only [isLetter, Char.isAlpha, Char.isUpper, Char.isLower, Char.isDigit, Bool.or_eq_true,
    Bool.and_eq_true, decide_eq_true_eq, ge_iff_le, UInt32.le_iff_toNat_le] at hl hc
  have : 'A'.val.toNat = 65 := rfl
  have : '9'.val.toNat = 57 := rfl
  have : 'a'.val.toNat = 97 := rfl
  omega

/-- Eight characters start a symbol. -/
theorem leading?_eq_none_iff :
    leading? c = none ↔ c ∉ ['+', '-', '*', '/', '(', ')', ',', '='] := by
  unfold leading? symbol?
  split
  · simp_all
  · split <;> simp_all

/-- Separators are the characters that start nothing else. -/
theorem isSeparator_iff : isSeparator c = true ↔
    isLetter c = false ∧ c.isDigit = false ∧ c ≠ '\'' ∧ leading? c = none := by
  have hlist : "+-*/(),='".toList = ['+', '-', '*', '/', '(', ')', ',', '=', '\''] := by decide
  rw [leading?_eq_none_iff, isSeparator, hlist]
  simp [isLetter, Char.isAlphanum, and_assoc]
  tauto

/-- A character starts nothing exactly if it is a separator. -/
theorem headOf_eq_separator_iff : headOf c = .separator ↔ isSeparator c = true := by
  rw [isSeparator_iff]
  unfold headOf
  split_ifs with hl hd hq
  · simp [hl]
  · simp [hd]
  · simp [hq]
  · simp only [hl, hd, hq, ne_eq, not_false_eq_true, true_and]
    cases leading? c <;> simp

/-- Digits start with a digit. -/
theorem IsDigits.head (h : IsDigits (c :: cs)) : headOf c = .digit := by
  have hc := h.2 c (List.mem_cons_self ..)
  simp [headOf, hc, isLetter_of_isDigit hc]

/-- What starts with digits starts with a digit. -/
theorem IsDigits.head_append {ds : List Char} (h : IsDigits ds) (hp : c :: p = ds ++ cs) :
    headOf c = .digit := by
  cases ds with
  | nil => exact absurd rfl h.1
  | cons d ds =>
    rw [(List.cons.inj hp).1]
    exact h.head

/-- The first character of a text tells which shapes it can have. -/
theorem Shape.Matches.headOf (h : k.Matches (c :: p)) : Literal.headOf c = k.head := by
  cases k with
  | symbol s =>
    have h : c :: p = s.render.toList := h
    cases s <;> obtain rfl := (List.cons.inj h).1 <;> decide
  | word =>
    obtain ⟨_, _, hp, hc, -⟩ := h
    rw [← (List.cons.inj hp).1] at hc
    exact if_pos hc
  | number =>
    rcases h with h | ⟨ds, fs, hp, hds, -⟩
    · exact h.head
    · exact hds.head_append hp
  | quoted =>
    obtain ⟨r, hp, -⟩ := h
    rw [(List.cons.inj hp).1]
    decide
  | malformedNumber =>
    obtain ⟨ds, hp, hds⟩ := h
    exact hds.head_append hp
  | unterminatedText =>
    obtain ⟨r, hp, -⟩ := h
    rw [(List.cons.inj hp).1]
    decide
  | separators => exact headOf_eq_separator_iff.mpr (h.2 c (List.mem_cons_self ..))

/-- No piece is empty. -/
theorem Shape.Matches.ne_nil (h : k.Matches p) : p ≠ [] := by
  rintro rfl
  cases k with
  | symbol s => cases s <;> cases h
  | word =>
    obtain ⟨c, r, hp, -⟩ := h
    cases hp
  | number =>
    rcases h with h | ⟨ds, fs, hp, -⟩
    · exact h.1 rfl
    · simp at hp
  | quoted =>
    obtain ⟨r, hp, -⟩ := h
    cases hp
  | malformedNumber =>
    obtain ⟨ds, hp, -⟩ := h
    simp at hp
  | unterminatedText =>
    obtain ⟨r, hp, -⟩ := h
    cases hp
  | separators => exact h.1 rfl

/-! ## Quoted texts -/

/-- A plain character belongs to what is quoted. -/
theorem splitQuoted_plain (hquote : c ≠ '\'') (hback : c ≠ '\\') (cs : List Char) :
    splitQuoted (c :: cs) = (c :: (splitQuoted cs).1, (splitQuoted cs).2) := by
  rw [splitQuoted]
  · exact if_neg hquote
  · rintro rfl
    exact absurd rfl hback
  · rintro d ds rfl
    exact absurd rfl hback

/-- A backslash and the character after it belong to what is quoted, unless that ends the line. -/
theorem splitQuoted_escaped (hc : c ≠ '\n') (cs : List Char) :
    splitQuoted ('\\' :: c :: cs) = ('\\' :: c :: (splitQuoted cs).1, (splitQuoted cs).2) := by
  rw [splitQuoted]
  exact if_neg hc

/-- What is taken after a quote can stand there. -/
theorem isQuotable_splitQuoted (cs : List Char) : IsQuotable (splitQuoted cs).1 := by
  fun_induction splitQuoted cs with
  | case1 => exact .nil
  | case2 => exact .nil
  | case3 => exact .nil
  | case4 c cs hc r ih => exact .escaped hc ih
  | case5 => exact .nil
  | case6 c cs hnil hcons hquote r ih =>
    refine .plain hquote ?_ ih
    rintro rfl
    cases cs with
    | nil => exact hnil rfl rfl
    | cons d ds => exact hcons d ds rfl rfl

/-- Nothing longer can stand there. -/
theorem IsQuotable.length_le (hq : IsQuotable q) (hp : q <+: cs) :
    q.length ≤ (splitQuoted cs).1.length := by
  obtain ⟨r, rfl⟩ := hp
  induction hq with
  | nil => exact Nat.zero_le _
  | plain hquote hback _ ih =>
    rw [List.cons_append, splitQuoted_plain hquote hback]
    exact Nat.succ_le_succ ih
  | escaped hc _ ih =>
    rw [List.cons_append, List.cons_append, splitQuoted_escaped hc]
    exact Nat.succ_le_succ (Nat.succ_le_succ ih)

/-- What can be quoted begins with a plain character or with one after a backslash. -/
theorem isQuotable_cons_iff : IsQuotable (c :: cs) ↔
    (c ≠ '\'' ∧ c ≠ '\\' ∧ IsQuotable cs) ∨
      (c = '\\' ∧ ∃ d r, cs = d :: r ∧ d ≠ '\n' ∧ IsQuotable r) := by
  constructor
  · intro h
    cases h with
    | plain hquote hback h => exact .inl ⟨hquote, hback, h⟩
    | escaped hd h => exact .inr ⟨rfl, _, _, rfl, hd, h⟩
  · rintro (⟨hquote, hback, h⟩ | ⟨rfl, d, r, rfl, hd, h⟩)
    · exact .plain hquote hback h
    · exact .escaped hd h

/-- A quote that closes a text is not part of what is quoted. -/
theorem IsQuotable.not_append_quote (hq : IsQuotable q) : ¬ IsQuotable (q ++ ['\'']) := by
  induction hq with
  | nil => simp [isQuotable_cons_iff]
  | plain hquote hback _ ih => simp [isQuotable_cons_iff, hback, ih]
  | escaped hc _ ih => simp [isQuotable_cons_iff, ih]

/-- An escaped quote is a backslash with a quote behind it. -/
theorem dropPiece?_escape (c : Char) (cs : List Char) :
    Text.dropPiece? ['\\', '\''] (c :: cs) =
      if c = '\\' ∧ cs.head? = some '\'' then some cs.tail else none := by
  rw [Text.dropPiece?]
  by_cases hc : c = '\\'
  · subst hc
    cases cs with
    | nil => rfl
    | cons d ds =>
      rw [if_pos rfl, Text.dropPiece?]
      by_cases hd : d = '\''
      · subst hd
        rfl
      · rw [if_neg (Ne.symm hd), if_neg (by simpa using hd)]
  · rw [if_neg (Ne.symm hc), if_neg fun h => hc h.1]

/-- A text without an escaped quote has no backslash to leave out. -/
theorem unescaped_of_uncut (h : Text.cutAtPiece ['\\', '\''] cs = none) : unescaped cs = cs := by
  induction cs with
  | nil => rfl
  | cons c cs ih =>
    rw [Text.cutAtPiece, dropPiece?_escape] at h
    by_cases hc : c = '\\' ∧ cs.head? = some '\''
    · rw [if_pos hc] at h
      cases h
    · rw [if_neg hc] at h
      rw [unescaped, if_neg hc, ih (Option.map_eq_none_iff.mp h)]

/-- The backslash of the first escaped quote is left out, and then those behind it. -/
theorem unescaped_of_cut {before after : List Char}
    (h : Text.cutAtPiece ['\\', '\''] cs = some (before, after)) :
    unescaped cs = before ++ '\'' :: unescaped after ∧ after.length < cs.length := by
  induction cs generalizing before with
  | nil => cases h
  | cons c cs ih =>
    rw [Text.cutAtPiece, dropPiece?_escape] at h
    by_cases hc : c = '\\' ∧ cs.head? = some '\''
    · rw [if_pos hc] at h
      cases h
      cases cs with
      | nil => cases hc.2
      | cons d ds =>
        obtain rfl := Option.some.inj hc.2
        refine ⟨?_, Nat.lt_succ_of_lt (Nat.lt_succ_self _)⟩
        rw [unescaped, if_pos hc, unescaped, if_neg (by simp)]
        rfl
    · rw [if_neg hc] at h
      obtain ⟨⟨b, a⟩, hcut, heq⟩ := Option.map_eq_some_iff.mp h
      cases heq
      obtain ⟨hunescaped, hlt⟩ := ih hcut
      rw [unescaped, if_neg hc, hunescaped]
      exact ⟨rfl, Nat.lt_succ_of_lt hlt⟩

/-- Replacing every escaped quote by the quote leaves out the backslashes before quotes. -/
theorem unquote_eq (cs : List Char) : unquote cs = unescaped cs := by
  have hupTo : ∀ n cs, cs.length ≤ n →
      Text.replaceUpTo n ['\\', '\''] ['\''] cs = unescaped cs := by
    intro n
    induction n with
    | zero =>
      intro cs hn
      rw [List.length_eq_zero_iff.mp (Nat.le_zero.mp hn)]
      rfl
    | succ n ih =>
      intro cs hn
      rw [Text.replaceUpTo]
      cases h : Text.cutAtPiece ['\\', '\''] cs with
      | none => exact (unescaped_of_uncut h).symm
      | some parts =>
        obtain ⟨before, after⟩ := parts
        obtain ⟨hunescaped, hlt⟩ := unescaped_of_cut h
        dsimp only
        rw [ih after (by omega), hunescaped, List.append_assoc]
        rfl
  exact hupTo _ _ (Nat.le_refl _)

/-! ## The first piece -/

/-- A text begins with at most one longest piece. -/
theorem IsLongest.unique {p p' : List Char} (h : IsLongest k p cs) (h' : IsLongest k' p' cs) :
    p = p' := by
  have hlen : p.length = p'.length :=
    Nat.le_antisymm (h'.longest k p h.starts h.shaped) (h.longest k' p' h'.starts h'.shaped)
  exact (List.prefix_of_prefix_length_le h.starts h'.starts (Nat.le_of_eq hlen)).eq_of_length hlen

/-- A piece is longest if no other one with the same first character is longer. -/
theorem isLongest_cons (hp : p <+: cs) (hm : k.Matches (c :: p))
    (hmax : ∀ k' q, q <+: cs → Shape.Matches k' (c :: q) → k'.head = k.head →
      q.length ≤ p.length) : IsLongest k (c :: p) (c :: cs) := by
  refine ⟨List.cons_prefix_cons.mpr ⟨rfl, hp⟩, hm, ?_⟩
  intro k' piece hpiece hm'
  cases piece with
  | nil => exact Nat.zero_le _
  | cons c' q =>
    obtain ⟨rfl, hq⟩ := List.cons_prefix_cons.mp hpiece
    exact Nat.succ_le_succ (hmax k' q hq hm' (hm'.headOf.symm.trans hm.headOf))

/-- A prefix of such characters is no longer than all of them that stand in front. -/
theorem length_le_takeWhile {f : Char → Bool} (hp : p <+: cs) (hall : ∀ x ∈ p, f x = true) :
    p.length ≤ (cs.takeWhile f).length := by
  obtain ⟨r, rfl⟩ := hp
  rw [List.takeWhile_append_of_pos hall, List.length_append]
  exact Nat.le_add_right ..

/-- What starts with a digit is no longer than the digits there, or has a point after them. -/
theorem Shape.Matches.numeral (h : k.Matches (c :: p)) (hk : k.head = .digit) (hp : p <+: cs) :
    p.length ≤ (cs.takeWhile Char.isDigit).length ∨
      ∃ fs, p = cs.takeWhile Char.isDigit ++ '.' :: fs ∧ (∀ x ∈ fs, x.isDigit = true) ∧
        (fs = [] → k = .malformedNumber) := by
  have hpoint : ∀ ds fs, IsDigits ds → c :: p = ds ++ '.' :: fs →
      p = cs.takeWhile Char.isDigit ++ '.' :: fs := by
    intro ds fs hds heq
    cases ds with
    | nil => exact absurd rfl hds.1
    | cons d ds =>
      rw [List.cons_append] at heq
      obtain ⟨-, rfl⟩ := List.cons.inj heq
      obtain ⟨r, rfl⟩ := hp
      have hall : ∀ x ∈ ds, x.isDigit = true := fun x hx => hds.2 x (List.mem_cons_of_mem _ hx)
      rw [List.append_assoc, List.takeWhile_append_of_pos hall]
      simp
  cases k with
  | number =>
    rcases h with h | ⟨ds, fs, heq, hds, hfs⟩
    · exact .inl (length_le_takeWhile hp fun x hx => h.2 x (List.mem_cons_of_mem _ hx))
    · exact .inr ⟨fs, hpoint ds fs hds heq, hfs.2, fun hnil => absurd hnil hfs.1⟩
  | malformedNumber =>
    obtain ⟨ds, heq, hds⟩ := h
    exact .inr ⟨[], hpoint ds [] hds heq, by simp, fun _ => rfl⟩
  | _ => cases hk

/-- The longest word goes on as long as letters, digits and underscores follow. -/
theorem isLongest_word (hc : isLetter c = true) :
    IsLongest .word (c :: cs.takeWhile isWordChar) (c :: cs) := by
  refine isLongest_cons (List.takeWhile_prefix _)
    ⟨c, _, rfl, hc, fun x hx => List.mem_takeWhile_imp hx⟩ ?_
  intro k' q hq hm hk
  cases k' with
  | word =>
    obtain ⟨_, _, hcons, -, hall⟩ := hm
    exact length_le_takeWhile hq ((List.cons.inj hcons).2 ▸ hall)
  | _ => cases hk

/-- The longest run of separators goes on as long as separators follow. -/
theorem isLongest_separators (hc : isSeparator c = true) :
    IsLongest .separators (c :: cs.takeWhile isSeparator) (c :: cs) := by
  refine isLongest_cons (List.takeWhile_prefix _)
    ⟨List.cons_ne_nil _ _, List.forall_mem_cons.mpr ⟨hc, fun x hx => List.mem_takeWhile_imp hx⟩⟩ ?_
  intro k' q hq hm hk
  cases k' with
  | separators => exact length_le_takeWhile hq fun x hx => hm.2 x (List.mem_cons_of_mem _ hx)
  | _ => cases hk

section Numbers

variable {r : List Char}

/-- A digit and the digits behind it are digits. -/
theorem isDigits_cons_takeWhile (hc : c.isDigit = true) :
    IsDigits (c :: cs.takeWhile Char.isDigit) :=
  ⟨List.cons_ne_nil _ _, List.forall_mem_cons.mpr ⟨hc, fun _ hx => List.mem_takeWhile_imp hx⟩⟩

/-- What goes on behind the characters taken is a prefix of what is left. -/
theorem prefix_dropWhile {f : Char → Bool} (h : cs.takeWhile f ++ p <+: cs) :
    p <+: cs.dropWhile f := by
  obtain ⟨r, hr⟩ := h
  have heq : cs.takeWhile f ++ (p ++ r) = cs.takeWhile f ++ cs.dropWhile f := by
    rw [← List.append_assoc, hr, List.takeWhile_append_dropWhile]
  exact ⟨r, List.append_cancel_left heq⟩

/-- Digits without a point after them. -/
theorem isLongest_whole (hc : c.isDigit = true) (hr : ∀ r, cs.dropWhile Char.isDigit ≠ '.' :: r) :
    IsLongest .number (c :: cs.takeWhile Char.isDigit) (c :: cs) := by
  refine isLongest_cons (List.takeWhile_prefix _) (.inl (isDigits_cons_takeWhile hc)) ?_
  intro k' q hq hm hk
  rcases hm.numeral hk hq with hle | ⟨fs, rfl, -, -⟩
  · exact hle
  · obtain ⟨r, hdrop⟩ := prefix_dropWhile hq
    exact absurd hdrop.symm (hr _)

/-- A point after digits is taken, and so are the digits after it. -/
theorem length_le_of_point (hr : cs.dropWhile Char.isDigit = '.' :: r) (hq : q <+: cs)
    (hm : k.Matches (c :: q)) (hk : k.head = .digit) :
    q.length ≤ (cs.takeWhile Char.isDigit ++ '.' :: r.takeWhile Char.isDigit).length := by
  rcases hm.numeral hk hq with hle | ⟨fs, rfl, hfs, -⟩
  · rw [List.length_append]
    omega
  · have hdrop := prefix_dropWhile hq
    rw [hr] at hdrop
    have hle := length_le_takeWhile (List.cons_prefix_cons.mp hdrop).2 hfs
    simp only [List.length_append, List.length_cons]
    omega

/-- Digits, a point and the digits behind it are a prefix of the text. -/
theorem prefix_of_point (hr : cs.dropWhile Char.isDigit = '.' :: r) :
    cs.takeWhile Char.isDigit ++ '.' :: r.takeWhile Char.isDigit <+: cs := by
  refine ⟨r.dropWhile Char.isDigit, ?_⟩
  rw [List.append_assoc, List.cons_append, List.takeWhile_append_dropWhile, ← hr,
    List.takeWhile_append_dropWhile]

/-- The longest number goes on behind a point that digits follow. -/
theorem isLongest_fractional (hc : c.isDigit = true) (hr : cs.dropWhile Char.isDigit = '.' :: r)
    (hf : r.takeWhile Char.isDigit ≠ []) :
    IsLongest .number (c :: (cs.takeWhile Char.isDigit ++ '.' :: r.takeWhile Char.isDigit))
      (c :: cs) :=
  isLongest_cons (prefix_of_point hr)
    (.inr ⟨_, _, rfl, isDigits_cons_takeWhile hc, hf, fun _ hx => List.mem_takeWhile_imp hx⟩)
    fun _ _ hq hm hk => length_le_of_point hr hq hm hk

/-- A point without digits behind it makes a malformed number. -/
theorem isLongest_malformedNumber (hc : c.isDigit = true)
    (hr : cs.dropWhile Char.isDigit = '.' :: r) (hf : r.takeWhile Char.isDigit = []) :
    IsLongest .malformedNumber (c :: (cs.takeWhile Char.isDigit ++ ['.'])) (c :: cs) := by
  have hpoint := prefix_of_point hr
  rw [hf] at hpoint
  refine isLongest_cons hpoint ⟨_, rfl, isDigits_cons_takeWhile hc⟩ ?_
  intro k' q hq hm hk
  have hle := length_le_of_point hr hq hm hk
  rwa [hf] at hle

end Numbers

section Quotes

variable {content r : List Char}

/-- A closed quotation is a longest piece. -/
theorem isLongest_quoted (hcs : splitQuoted cs = (content, '\'' :: r)) :
    IsLongest .quoted ('\'' :: (content ++ ['\''])) ('\'' :: cs) := by
  have happend := splitQuoted_append cs
  have hcontent := isQuotable_splitQuoted cs
  rw [hcs] at happend hcontent
  refine isLongest_cons ⟨r, by simpa using happend⟩ ⟨content, rfl, hcontent⟩ ?_
  intro k' q hq hm hk
  rw [List.length_append]
  cases k' with
  | quoted =>
    obtain ⟨body, hcons, hbody⟩ := hm
    obtain rfl := (List.cons.inj hcons).2
    have hle := hbody.length_le ((List.prefix_append body _).trans hq)
    rw [hcs] at hle
    simpa using hle
  | unterminatedText =>
    obtain ⟨body, hcons, hbody⟩ := hm
    obtain rfl := (List.cons.inj hcons).2
    have hle := hbody.length_le hq
    rw [hcs] at hle
    exact Nat.le_add_right_of_le hle
  | _ => cases hk

/-- A quotation that is never closed is a longest piece. -/
theorem isLongest_unterminatedText (hcs : splitQuoted cs = (content, r))
    (hr : ∀ r', r ≠ '\'' :: r') :
    IsLongest .unterminatedText ('\'' :: content) ('\'' :: cs) := by
  have happend := splitQuoted_append cs
  have hcontent := isQuotable_splitQuoted cs
  rw [hcs] at happend hcontent
  refine isLongest_cons ⟨r, happend⟩ ⟨content, rfl, hcontent⟩ ?_
  intro k' q hq hm hk
  cases k' with
  | quoted =>
    obtain ⟨body, hcons, hbody⟩ := hm
    obtain rfl := (List.cons.inj hcons).2
    have hle := hbody.length_le ((List.prefix_append body _).trans hq)
    rw [hcs] at hle
    -- were the body all of the content, the closing quote would come right after the content
    rcases Nat.lt_or_eq_of_le hle with hlt | heq
    · rw [List.length_append]
      exact hlt
    · obtain ⟨rest, hrest⟩ := hq
      rw [← happend, List.append_assoc] at hrest
      exact absurd (List.append_inj hrest heq).2.symm (hr rest)
  | unterminatedText =>
    obtain ⟨body, hcons, hbody⟩ := hm
    obtain rfl := (List.cons.inj hcons).2
    have hle := hbody.length_le hq
    rwa [hcs] at hle
  | _ => cases hk

end Quotes

section Symbols

variable {s : Symbol}

/-- A symbol of one character is written as that character. -/
theorem render_of_symbol? (hs : symbol? c = some s) : s.render.toList = [c] := by
  unfold symbol? at hs
  split at hs <;> first | (obtain rfl := Option.some.inj hs; rfl) | cases hs

/-- A text that starts with a symbol has it as its longest piece. -/
theorem isLongest_symbol (hs : s.render.toList = c :: p) (hp : p <+: cs) :
    IsLongest (.symbol s) (c :: p) (c :: cs) := by
  refine isLongest_cons hp hs.symm ?_
  intro k' q hq hm hk
  cases k' with
  | symbol s' =>
    obtain rfl : s' = s := Head.symbol.inj hk
    have hsame : c :: q = c :: p := (show c :: q = _ from hm).trans hs
    rw [(List.cons.inj hsame).2]
  | _ => cases hk

/-- An equals sign alone is no piece. -/
theorem not_matches_lone_equal (hcs : ∀ r, cs ≠ '=' :: r) (hp : p <+: '=' :: cs)
    (hm : k.Matches p) : False := by
  cases p with
  | nil => exact hm.ne_nil rfl
  | cons c q =>
    obtain ⟨rfl, r, hq⟩ := List.cons_prefix_cons.mp hp
    have hk : Head.symbol .equal = k.head := hm.headOf
    cases k with
    | symbol s =>
      obtain rfl : .equal = s := Head.symbol.inj hk
      have hm : '=' :: q = ['=', '='] := hm
      rw [(List.cons.inj hm).2] at hq
      exact hcs r hq.symm
    | _ => cases hk

end Symbols

/-- What reading takes for a piece has its shape and is longest; where nothing starts a piece, no
shape matches. -/
def Piece.Agrees (chars cs : List Char) : Piece → Prop
  | .token l => ∃ k : Shape, k.lexeme? chars = some l ∧ IsLongest k chars cs
  | .separators => IsLongest .separators chars cs
  | .malformedNumber => IsLongest .malformedNumber chars cs
  | .unterminatedText => IsLongest .unterminatedText chars cs
  | .unexpected => ∀ k p, p <+: cs → ¬ Shape.Matches k p

/-- The first piece that is cut off agrees with the characters it is cut off. -/
theorem agrees_firstPiece (c : Char) (cs : List Char) :
    (firstPiece c cs).1.Agrees (c :: (firstPiece c cs).2) (c :: cs) := by
  unfold firstPiece
  split_ifs with hl hd hq heq
  · exact ⟨.word, rfl, isLongest_word hl⟩
  · dsimp only
    split
    · rename_i r hr
      split_ifs with hf
      · exact isLongest_malformedNumber hd hr (List.isEmpty_iff.mp hf)
      · exact ⟨.number, rfl, isLongest_fractional hd hr fun h => hf (List.isEmpty_iff.mpr h)⟩
    · rename_i hr
      exact ⟨.number, rfl, isLongest_whole hd hr⟩
  · subst hq
    split
    · rename_i content r hcs
      refine ⟨.quoted, ?_, isLongest_quoted hcs⟩
      simp [Shape.lexeme?, unquote_eq]
    · rename_i content r hr hcs
      exact isLongest_unterminatedText hcs hr
  · subst heq
    split
    · rename_i r
      exact ⟨.symbol .equal, rfl, isLongest_symbol rfl ⟨r, rfl⟩⟩
    · rename_i hcs
      exact fun k p hp hm => not_matches_lone_equal hcs hp hm
  · cases hs : symbol? c with
    | some s => exact ⟨.symbol s, rfl, isLongest_symbol (render_of_symbol? hs) List.nil_prefix⟩
    | none =>
      refine isLongest_separators (isSeparator_iff.mpr ?_)
      exact ⟨Bool.eq_false_iff.mpr hl, Bool.eq_false_iff.mpr hd, hq, (if_neg heq).trans hs⟩

/-! ## Uniqueness -/

/-- A number ends in a digit. -/
theorem Shape.Matches.getLast_number (h : Shape.number.Matches p) :
    ∃ x, p.getLast? = some x ∧ x.isDigit = true := by
  have hlast : ∀ ds, IsDigits ds → ∃ x, ds.getLast? = some x ∧ x.isDigit = true := by
    intro ds hds
    exact ⟨_, List.getLast?_eq_some_getLast hds.1, hds.2 _ (List.getLast_mem hds.1)⟩
  rcases h with h | ⟨ds, fs, rfl, -, hfs⟩
  · exact hlast p h
  · obtain ⟨x, hx, hd⟩ := hlast fs hfs
    refine ⟨x, ?_, hd⟩
    rw [List.getLast?_append, List.getLast?_cons, hx]
    rfl

/-- A text has one shape at most. -/
theorem Shape.Matches.unique (h : k.Matches p) (h' : k'.Matches p) : k = k' := by
  cases p with
  | nil => exact absurd rfl h.ne_nil
  | cons c q =>
    -- the first character tells the shapes apart but for these two pairs
    have hhead : k.head = k'.head := h.headOf.symm.trans h'.headOf
    have hnumber : ∀ {p : List Char},
        Shape.number.Matches p → ¬ Shape.malformedNumber.Matches p := by
      rintro p hn ⟨ds, rfl, -⟩
      obtain ⟨x, hx, hd⟩ := hn.getLast_number
      rw [List.getLast?_concat] at hx
      rw [← Option.some.inj hx] at hd
      exact absurd hd (by decide)
    have hquoted : ∀ {p : List Char},
        Shape.quoted.Matches p → ¬ Shape.unterminatedText.Matches p := by
      rintro p ⟨r, rfl, hr⟩ ⟨r', heq, hr'⟩
      rw [← (List.cons.inj heq).2] at hr'
      exact hr.not_append_quote hr'
    cases k with
    | symbol s =>
      cases k' with
      | symbol s' => exact congrArg Shape.symbol (Head.symbol.inj hhead)
      | _ => cases hhead
    | word =>
      cases k' with
      | word => rfl
      | _ => cases hhead
    | number =>
      cases k' with
      | number => rfl
      | malformedNumber => exact absurd h' (hnumber h)
      | _ => cases hhead
    | quoted =>
      cases k' with
      | quoted => rfl
      | unterminatedText => exact absurd h' (hquoted h)
      | _ => cases hhead
    | malformedNumber =>
      cases k' with
      | number => exact absurd h (hnumber h')
      | malformedNumber => rfl
      | _ => cases hhead
    | unterminatedText =>
      cases k' with
      | quoted => exact absurd h (hquoted h')
      | unterminatedText => rfl
      | _ => cases hhead
    | separators =>
      cases k' with
      | separators => rfl
      | _ => cases hhead

/-- A text is segmented by its longest first piece and a segmentation of the rest. -/
theorem segmented_iff : Segmented cs segs ↔ (cs = [] ∧ segs = []) ∨
    ∃ k piece rest tail, cs = piece ++ rest ∧ segs = (k, piece) :: tail ∧
      IsLongest k piece cs ∧ Segmented rest tail := by
  constructor
  · intro h
    cases h with
    | nil => exact .inl ⟨rfl, rfl⟩
    | cons hpiece hrest => exact .inr ⟨_, _, _, _, rfl, rfl, hpiece, hrest⟩
  · rintro (⟨rfl, rfl⟩ | ⟨k, piece, rest, tail, rfl, rfl, hpiece, hrest⟩)
    · exact .nil
    · exact .cons hpiece hrest

/-- A text that starts with a longest piece is cut after it. -/
theorem segmented_append_iff {piece rest : List Char} (h : IsLongest k piece (piece ++ rest)) :
    Segmented (piece ++ rest) segs ↔ ∃ tail, segs = (k, piece) :: tail ∧ Segmented rest tail := by
  constructor
  · intro hsegs
    rcases segmented_iff.mp hsegs with
      ⟨hnil, -⟩ | ⟨k', piece', rest', tail, heq, rfl, hpiece, htail⟩
    · exact absurd (List.append_eq_nil_iff.mp hnil).1 h.shaped.ne_nil
    · obtain rfl := h.unique hpiece
      obtain rfl := List.append_cancel_left heq
      obtain rfl := h.shaped.unique hpiece.shaped
      exact ⟨tail, rfl, htail⟩
  · rintro ⟨tail, rfl, htail⟩
    exact .cons h htail

/-- A text is cut in one way. -/
theorem Segmented.unique (h : Segmented cs segs) (h' : Segmented cs segs') : segs = segs' := by
  induction h generalizing segs' with
  | nil =>
    rcases segmented_iff.mp h' with ⟨-, rfl⟩ | ⟨k, piece, rest, tail, heq, -, hpiece, -⟩
    · rfl
    · exact absurd (List.append_eq_nil_iff.mp heq.symm).1 hpiece.shaped.ne_nil
  | cons hpiece hrest ih =>
    obtain ⟨tail, rfl, htail⟩ := (segmented_append_iff hpiece).mp h'
    rw [ih htail]

/-! ## The tokens of a source -/

/-- The pieces of a text that was cut, none of which is wrong. -/
def Sound (segs : List (Shape × List Char)) : Prop :=
  ∀ s ∈ segs, s.1.isFault = false

/-- A text has sound segments exactly if its longest first piece is no fault and the rest has sound
segments. -/
theorem exists_sound_append_iff {piece rest : List Char} (h : IsLongest k piece (piece ++ rest))
    {P : List (Shape × List Char) → Prop} :
    (∃ segs, Segmented (piece ++ rest) segs ∧ Sound segs ∧ P segs) ↔
      k.isFault = false ∧ ∃ tail, Segmented rest tail ∧ Sound tail ∧ P ((k, piece) :: tail) := by
  constructor
  · rintro ⟨segs, hsegs, hsound, hP⟩
    obtain ⟨tail, rfl, htail⟩ := (segmented_append_iff h).mp hsegs
    obtain ⟨hk, hsound⟩ := List.forall_mem_cons.mp hsound
    exact ⟨hk, tail, htail, hsound, hP⟩
  · rintro ⟨hk, tail, htail, hsound, hP⟩
    exact ⟨_, .cons h htail, List.forall_mem_cons.mpr ⟨hk, hsound⟩, hP⟩

/-- A piece that is a token is no fault. -/
theorem isFault_of_lexeme? {l : Lexeme} (h : k.lexeme? p = some l) : k.isFault = false := by
  cases k with
  | malformedNumber => cases h
  | unterminatedText => cases h
  | _ => rfl

/-- The tokens of segments begin with that of the first one, if it is a token. -/
theorem tokensOf_token {start : Nat} {l : Lexeme} (h : k.lexeme? p = some l) :
    tokensOf start ((k, p) :: segs) =
      ⟨l, start, start + Text.byteCount p⟩ :: tokensOf (start + Text.byteCount p) segs := by
  simp only [tokensOf, h]

/-- The tokens of a text from those of what follows its first piece. -/
theorem tokensFrom_cons_iff {piece : Piece} {rest : List Char} {others : List (Piece × List Char)}
    {start : Nat} {ts : List Token} (hagrees : piece.Agrees (c :: p) (c :: p ++ rest))
    (ih : ∀ start ts, tokensFrom start others = .ok ts ↔
      ∃ segs, Segmented rest segs ∧ Sound segs ∧ ts = tokensOf start segs) :
    tokensFrom start ((piece, c :: p) :: others) = .ok ts ↔
      ∃ segs, Segmented (c :: p ++ rest) segs ∧ Sound segs ∧ ts = tokensOf start segs := by
  cases piece with
  | separators =>
    rw [exists_sound_append_iff hagrees]
    exact (ih _ ts).trans (and_iff_right rfl).symm
  | token l =>
    obtain ⟨k, hlexeme, hlongest⟩ := hagrees
    rw [exists_sound_append_iff hlongest]
    simp only [tokensOf_token hlexeme, isFault_of_lexeme? hlexeme, true_and, tokensFrom]
    cases hothers : tokensFrom (start + Text.byteCount (c :: p)) others with
    | error fault =>
      refine ⟨fun h => (by cases h), ?_⟩
      rintro ⟨tail, htail, hsound, -⟩
      have := (ih (start + Text.byteCount (c :: p)) _).mpr ⟨tail, htail, hsound, rfl⟩
      rw [hothers] at this
      cases this
    | ok us =>
      -- what is left of the text has one segmentation, so that its tokens are these
      obtain ⟨tail, htail, hsound, rfl⟩ := (ih _ us).mp hothers
      constructor
      · intro h
        exact ⟨tail, htail, hsound, (Except.ok.inj h).symm⟩
      · rintro ⟨tail', htail', -, rfl⟩
        rw [htail'.unique htail]
        rfl
  | malformedNumber =>
    rw [exists_sound_append_iff hagrees]
    exact ⟨fun h => (by cases h), fun h => (by cases h.1)⟩
  | unterminatedText =>
    rw [exists_sound_append_iff hagrees]
    exact ⟨fun h => (by cases h), fun h => (by cases h.1)⟩
  | unexpected =>
    refine ⟨fun h => (by cases h), ?_⟩
    rintro ⟨segs, hsegs, -, -⟩
    rcases segmented_iff.mp hsegs with ⟨hnil, -⟩ | ⟨k, _, _, _, -, -, hlongest, -⟩
    · cases hnil
    · exact absurd hlongest.shaped (hagrees k _ hlongest.starts)

/-- Reading gives the tokens of the text that is cut by longest match, unless a piece is wrong. -/
theorem tokensFrom_pieces_iff {start : Nat} {ts : List Token} :
    tokensFrom start (pieces cs) = .ok ts ↔
      ∃ segs, Segmented cs segs ∧ Sound segs ∧ ts = tokensOf start segs := by
  fun_induction pieces cs generalizing start ts with
  | case1 =>
    constructor
    · intro h
      exact ⟨[], .nil, fun _ hs => (by cases hs), (Except.ok.inj h).symm⟩
    · rintro ⟨segs, hsegs, -, rfl⟩
      rw [hsegs.unique .nil]
      rfl
  | case2 c cs piece =>
    rename_i ih
    have hagrees : piece.1.Agrees (c :: piece.2) (c :: cs) := agrees_firstPiece c cs
    obtain ⟨rest, hrest⟩ : piece.2 <+: cs := firstPiece_prefix c cs
    obtain rfl : cs.drop piece.2.length = rest := by
      rw [← hrest]
      exact List.drop_left
    have hcs : c :: cs = c :: piece.2 ++ cs.drop piece.2.length := by
      rw [List.cons_append, hrest]
    rw [hcs] at hagrees ⊢
    exact tokensFrom_cons_iff hagrees fun _ _ => ih

end GuidedXml.Literal
