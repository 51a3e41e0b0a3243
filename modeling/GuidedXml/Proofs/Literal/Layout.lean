/-
# Where the tokens of a literal stand

The tokens of a literal are the pieces that the longest match of the patterns cuts it into,
separators left out. Each token says what is written at its place, the places follow each other, and
nothing but separators stands outside them.

The main statement says so of every source.
-/
import GuidedXml.Proofs.Literal.Segmentation

namespace GuidedXml.Literal

open Text (byteCount)

variable {cs p : List Char} {k : Shape} {segs : List (Shape × List Char)} {start : Nat} {t : Token}

/-! ## Places -/

/-- The piece stands in the text, and the span is its place. -/
def Span.Covers (s : Span) (cs piece : List Char) : Prop :=
  ∃ before after, cs = before ++ piece ++ after ∧
    s = ⟨byteCount before, byteCount before + byteCount piece⟩

/-- What is written where a token stands. -/
inductive Says : Lexeme → List Char → Prop
  | symbol (s : Symbol) : Says (.symbol s) s.render.toList
  | word (name : String) : Says (.word name) name.toList
  | number (digits : String) : Says (.number digits) digits.toList
  | quoted {body : List Char} : IsQuotable body →
      Says (.quoted (String.ofList (unescaped body))) ('\'' :: (body ++ ['\'']))

/-- Every token says what is written at its place, each place is behind the one before, and every
character outside all places is a separator. -/
structure LaidOut (cs : List Char) (ts : List Token) : Prop where
  written : ∀ t ∈ ts, ∃ piece, piece ≠ [] ∧ t.span.Covers cs piece ∧ Says t.lexeme piece
  increasing : ts.Pairwise fun t u => t.span.stop ≤ u.span.start
  between : ∀ before c after, cs = before ++ c :: after →
    (∀ t ∈ ts, byteCount before < t.span.start ∨ t.span.stop ≤ byteCount before) →
    isSeparator c = true

/-! ## The tokens of a text that was cut -/

/-- The lexeme made of a piece says what the piece is. -/
theorem says_of_lexeme? {l : Lexeme} (hm : k.Matches p) (hl : k.lexeme? p = some l) : Says l p := by
  cases k with
  | symbol s =>
    obtain rfl := Option.some.inj hl
    obtain rfl : p = s.render.toList := hm
    exact .symbol s
  | word =>
    obtain rfl := Option.some.inj hl
    simpa using Says.word (String.ofList p)
  | number =>
    obtain rfl := Option.some.inj hl
    simpa using Says.number (String.ofList p)
  | quoted =>
    obtain ⟨body, rfl, hbody⟩ := hm
    obtain rfl := Option.some.inj hl
    simpa using Says.quoted hbody
  | _ => cases hl

/-- The tokens of segments are that of the first one, if it is a token, and those of the rest behind
it. -/
theorem mem_tokensOf_cons_iff : t ∈ tokensOf start ((k, p) :: segs) ↔
    (k.lexeme? p = some t.lexeme ∧ t.span = ⟨start, start + byteCount p⟩) ∨
      t ∈ tokensOf (start + byteCount p) segs := by
  obtain ⟨l, span⟩ := t
  cases hl : k.lexeme? p with
  | none => simp [tokensOf, hl]
  | some l' =>
    rw [tokensOf_token hl, List.mem_cons]
    simp [eq_comm]

/-- No token starts before its segments do. -/
theorem start_le_of_mem (ht : t ∈ tokensOf start segs) : start ≤ t.span.start := by
  induction segs generalizing start with
  | nil => cases ht
  | cons s segs ih =>
    obtain ⟨k, p⟩ := s
    rcases mem_tokensOf_cons_iff.mp ht with ⟨-, hspan⟩ | ht
    · rw [hspan]
    · exact Nat.le_trans (Nat.le_add_right ..) (ih ht)

/-- No token starts before the one before it has ended. -/
theorem pairwise_tokensOf (start : Nat) (segs : List (Shape × List Char)) :
    (tokensOf start segs).Pairwise fun t u => t.span.stop ≤ u.span.start := by
  induction segs generalizing start with
  | nil => exact .nil
  | cons s segs ih =>
    obtain ⟨k, p⟩ := s
    cases hl : k.lexeme? p with
    | none =>
      simp only [tokensOf, hl]
      exact ih _
    | some l =>
      rw [tokensOf_token hl]
      exact .cons (fun t ht => start_le_of_mem ht) (ih _)

/-- A token stands at the place of its piece, whatever comes before the text. -/
theorem written_of_mem (h : Segmented cs segs) (before : List Char)
    (ht : t ∈ tokensOf (byteCount before) segs) :
    ∃ piece, piece ≠ [] ∧ t.span.Covers (before ++ cs) piece ∧ Says t.lexeme piece := by
  induction h generalizing before with
  | nil => cases ht
  | @cons k piece rest segs hpiece hrest ih =>
    rcases mem_tokensOf_cons_iff.mp ht with ⟨hl, hspan⟩ | ht
    · exact ⟨piece, hpiece.shaped.ne_nil, ⟨before, rest, (List.append_assoc ..).symm, hspan⟩,
        says_of_lexeme? hpiece.shaped hl⟩
    · rw [← Text.byteCount_append] at ht
      rw [← List.append_assoc]
      exact ih (before ++ piece) ht

/-- A character of a text that begins with a piece is in the piece or behind it. -/
theorem cases_of_append {c : Char} {piece rest before after : List Char}
    (h : piece ++ rest = before ++ c :: after) :
    (∃ p, piece = before ++ c :: p) ∨ ∃ b, before = piece ++ b ∧ rest = b ++ c :: after := by
  rcases List.append_eq_append_iff.mp h with ⟨b, hbefore, hrest⟩ | ⟨b, hpiece, hafter⟩
  · exact .inr ⟨b, hbefore, hrest⟩
  · cases b with
    | nil => exact .inr ⟨[], by simpa using hpiece.symm, hafter.symm⟩
    | cons d p =>
      rw [List.cons_append] at hafter
      exact .inl ⟨p, by rw [hpiece, (List.cons.inj hafter).1]⟩

/-- A character that no token covers belongs to a piece of separators. -/
theorem isSeparator_of_uncovered (h : Segmented cs segs) (hsound : Sound segs) {c : Char}
    {before after : List Char} (hcs : cs = before ++ c :: after)
    (hout : ∀ t ∈ tokensOf start segs,
      start + byteCount before < t.span.start ∨ t.span.stop ≤ start + byteCount before) :
    isSeparator c = true := by
  induction h generalizing start before with
  | nil => simp at hcs
  | @cons k piece rest segs hpiece hrest ih =>
    obtain ⟨hk, hsound⟩ := List.forall_mem_cons.mp hsound
    rcases cases_of_append hcs with ⟨p, rfl⟩ | ⟨b, rfl, hrest'⟩
    · cases hl : k.lexeme? (before ++ c :: p) with
      | some l =>
        -- the token of the piece would cover the character
        have hcover := hout ⟨l, _⟩ (mem_tokensOf_cons_iff.mpr (.inl ⟨hl, rfl⟩))
        have := c.utf8Size_pos
        simp only [Text.byteCount_append, Text.byteCount_cons] at hcover
        omega
      | none =>
        cases k with
        | separators => exact hpiece.shaped.2 c (by simp)
        | malformedNumber => cases hk
        | unterminatedText => cases hk
        | _ => cases hl
    · have hlater : ∀ t ∈ tokensOf (start + byteCount piece) segs,
          start + byteCount piece + byteCount b < t.span.start ∨
            t.span.stop ≤ start + byteCount piece + byteCount b := by
        intro t ht
        have hcover := hout t (mem_tokensOf_cons_iff.mpr (.inr ht))
        rwa [Text.byteCount_append, ← Nat.add_assoc] at hcover
      exact ih hsound hrest' hlater

/-- The tokens of a source are the pieces that longest match cuts it into, where it can be cut and
no piece is wrong; it can be cut in one way at most. The tokens say what is written at their places,
which follow each other, and everything else is separators. -/
theorem tokens_exact (source : String) :
    (∀ ts, tokens source = .ok ts ↔
      ∃ segs, Segmented source.toList segs ∧ Sound segs ∧ ts = tokensOf 0 segs) ∧
    (∀ segs segs', Segmented source.toList segs → Segmented source.toList segs' → segs = segs') ∧
    ∀ ts, tokens source = .ok ts → LaidOut source.toList ts := by
  have hread : ∀ ts, tokens source = .ok ts ↔
      ∃ segs, Segmented source.toList segs ∧ Sound segs ∧ ts = tokensOf 0 segs :=
    fun ts => tokensFrom_pieces_iff
  refine ⟨hread, fun segs segs' h h' => h.unique h', fun ts hts => ?_⟩
  obtain ⟨segs, hsegs, hsound, rfl⟩ := (hread ts).mp hts
  refine ⟨fun t ht => written_of_mem hsegs [] ht, pairwise_tokensOf 0 segs, ?_⟩
  intro before c after hcs hout
  have huncovered : ∀ t ∈ tokensOf 0 segs,
      0 + byteCount before < t.span.start ∨ t.span.stop ≤ 0 + byteCount before := by
    simpa using hout
  exact isSeparator_of_uncovered hsegs hsound hcs huncovered

/-- An equation of a parameter and a text with a quote in it. -/
def quotedMode : String :=
  "MODE == 'it\\'s'"

/-- What the equation is made of. -/
def quotedModeTokens : List Token :=
  [⟨.word "MODE", 0, 4⟩, ⟨.symbol .equal, 5, 7⟩, ⟨.quoted "it's", 8, 15⟩]

/-- The tokens of the equation stand at their places. -/
theorem laidOut_quotedMode :
    tokens quotedMode = .ok quotedModeTokens ∧ LaidOut quotedMode.toList quotedModeTokens := by
  have hread : tokens quotedMode = .ok quotedModeTokens := by cbv
  exact ⟨hread, (tokens_exact quotedMode).2.2 quotedModeTokens hread⟩

end GuidedXml.Literal
