/-
# Cutting texts

Splitting a text at a character, finding a piece in a text, and replacing every occurrence of a
piece.

The main statement is that the parts of a split text, joined by the separator, give the text back.
-/

namespace GuidedXml.Text

/-! ## Splitting at a character -/

/-- The parts of a text between the occurrences of `sep`; there is always at least one. -/
def splitAt (sep : Char) : List Char → List (List Char)
  | [] => [[]]
  | c :: cs =>
    if c = sep then [] :: splitAt sep cs
    else match splitAt sep cs with
      | [] => [[c]]
      | p :: ps => (c :: p) :: ps

/-- A text is never split into nothing. -/
theorem splitAt_ne_nil (sep : Char) (cs : List Char) : splitAt sep cs ≠ [] := by
  cases cs with
  | nil => simp [splitAt]
  | cons c cs =>
    by_cases h : c = sep
    · simp [splitAt, h]
    · simp only [splitAt, h, if_false]
      split <;> simp

/-- The parts of a split text, joined by the separator, give the text back. -/
theorem intercalate_splitAt (sep : Char) (cs : List Char) :
    List.intercalate [sep] (splitAt sep cs) = cs := by
  induction cs with
  | nil => simp [splitAt, List.intercalate]
  | cons c cs ih =>
    have hne := splitAt_ne_nil sep cs
    by_cases h : c = sep
    · subst h
      obtain ⟨p, ps, hp⟩ := List.exists_cons_of_ne_nil hne
      simp [splitAt, hp, List.intercalate] at ih ⊢
      exact ih
    · obtain ⟨p, ps, hp⟩ := List.exists_cons_of_ne_nil hne
      cases ps with
      | nil => simp [splitAt, h, hp, List.intercalate] at ih ⊢; exact ih
      | cons q qs => simp [splitAt, h, hp, List.intercalate] at ih ⊢; exact ih

/-- The text before the first `sep` and the text after it, if there is one. -/
def cutAt (sep : Char) : List Char → Option (List Char × List Char)
  | [] => none
  | c :: cs =>
    if c = sep then some ([], cs) else (cutAt sep cs).map fun p => (c :: p.1, p.2)

/-- The text after the last `sep`, or the whole text if there is none. -/
def afterLast (sep : Char) (cs : List Char) : List Char :=
  (cs.reverse.takeWhile (· ≠ sep)).reverse

/-! ## Pieces of a text -/

/-- What follows the piece, if the text starts with it. -/
def dropPiece? : List Char → List Char → Option (List Char)
  | [], cs => some cs
  | _ :: _, [] => none
  | p :: ps, c :: cs => if p = c then dropPiece? ps cs else none

/-- The text before the first occurrence of the piece and the text after it, if it occurs. -/
def cutAtPiece (piece : List Char) : List Char → Option (List Char × List Char)
  | [] => (dropPiece? piece []).map fun r => ([], r)
  | c :: cs =>
    match dropPiece? piece (c :: cs) with
    | some r => some ([], r)
    | none => (cutAtPiece piece cs).map fun p => (c :: p.1, p.2)

/-- Whether the piece occurs in the text. -/
def hasPiece (piece cs : List Char) : Bool :=
  (cutAtPiece piece cs).isSome

/-- Replace occurrences of the piece from the left, at most `n` of them. -/
def replaceUpTo : Nat → List Char → List Char → List Char → List Char
  | 0, _, _, cs => cs
  | n + 1, piece, new, cs =>
    match cutAtPiece piece cs with
    | none => cs
    | some (before, after) => before ++ new ++ replaceUpTo n piece new after

/-- The text with every occurrence of the nonempty piece replaced, from the left and without
overlaps. -/
def replaceAll (piece new cs : List Char) : List Char :=
  replaceUpTo cs.length piece new cs

end GuidedXml.Text
