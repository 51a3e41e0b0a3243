/-
# Tokens of literals

A literal is written with words, numbers, quoted texts and symbols; any other character separates
them. The source is cut from the left into pieces, each as long as possible.

The main statements say that a piece is never empty and that the pieces of a source join to the
source.
-/
import GuidedXml.Text.Bytes
import GuidedXml.Text.Cut

namespace GuidedXml.Literal

/-! ## Tokens -/

/-- A range of byte positions, the stop excluded. -/
structure Span where
  start : Nat
  stop : Nat
  deriving DecidableEq, Repr

/-- The written form of a span. -/
def Span.render (s : Span) : String :=
  toString s.start ++ ".." ++ toString s.stop

/-- The symbols of literals. -/
inductive Symbol where
  | plus | minus | star | slash | equal | openParen | closeParen | comma
  deriving DecidableEq, Repr

/-- The written form of a symbol. -/
def Symbol.render : Symbol → String
  | plus => "+"
  | minus => "-"
  | star => "*"
  | slash => "/"
  | equal => "=="
  | openParen => "("
  | closeParen => ")"
  | comma => ","

/-- What a token says. -/
inductive Lexeme where
  | symbol (s : Symbol)
  /-- The name of a parameter or of a predicate. -/
  | word (name : String)
  /-- A number, as it is written. -/
  | number (digits : String)
  /-- A quoted text, without its quotes. -/
  | quoted (content : String)
  deriving DecidableEq, Repr

/-- How a message names what a token says. -/
def Lexeme.describe : Lexeme → String
  | symbol s => "'" ++ s.render ++ "'"
  | word name => "word '" ++ name ++ "'"
  | number digits => "number " ++ digits
  | quoted content => "string '" ++ content ++ "'"

/-- A token and the place of its source. -/
structure Token where
  lexeme : Lexeme
  span : Span
  deriving DecidableEq, Repr

/-! ## Pieces -/

/-- Whether the character is a Latin letter. -/
def isLetter (c : Char) : Bool :=
  c.isAlpha

/-- Whether the character may follow the first letter of a word. -/
def isWordChar (c : Char) : Bool :=
  c.isAlphanum || c = '_'

/-- Whether the character separates tokens. -/
def isSeparator (c : Char) : Bool :=
  !c.isAlphanum && !"+-*/(),='".toList.contains c

/-- What a piece of the source is. -/
inductive Piece where
  | separators
  | token (l : Lexeme)
  /-- Digits and a point that no digit follows. -/
  | malformedNumber
  /-- A quote whose text has no end. -/
  | unterminatedText
  /-- A character that starts no token. -/
  | unexpected
  deriving DecidableEq, Repr

/-- The text after an opening quote up to the closing one, and what is left from there. A backslash
takes the next character with it, unless that is a line feed. -/
def splitQuoted : List Char → List Char × List Char
  | [] => ([], [])
  | ['\\'] => ([], ['\\'])
  | '\\' :: c :: cs =>
    if c = '\n' then ([], '\\' :: c :: cs)
    else
      let r := splitQuoted cs
      ('\\' :: c :: r.1, r.2)
  | c :: cs =>
    if c = '\'' then ([], c :: cs)
    else
      let r := splitQuoted cs
      (c :: r.1, r.2)

/-- The split keeps every character. -/
theorem splitQuoted_append (cs : List Char) : (splitQuoted cs).1 ++ (splitQuoted cs).2 = cs := by
  fun_induction splitQuoted cs <;> simp_all +zetaDelta

/-- The content of a quoted text: an escaped quote stands for the quote alone. -/
def unquote (cs : List Char) : List Char :=
  Text.replaceAll ['\\', '\''] ['\''] cs

/-- A symbol of one character. -/
def symbol? : Char → Option Symbol
  | '+' => some .plus
  | '-' => some .minus
  | '*' => some .star
  | '/' => some .slash
  | '(' => some .openParen
  | ')' => some .closeParen
  | ',' => some .comma
  | _ => none

/-- The first piece of a source that starts with `c`: what it is and what characters of the rest it
takes. -/
def firstPiece (c : Char) (cs : List Char) : Piece × List Char :=
  if isLetter c then
    let name := cs.takeWhile isWordChar
    (.token (.word (String.ofList (c :: name))), name)
  else if c.isDigit then
    let whole := cs.takeWhile Char.isDigit
    match cs.dropWhile Char.isDigit with
    | '.' :: r =>
      let fraction := r.takeWhile Char.isDigit
      if fraction.isEmpty then (.malformedNumber, whole ++ ['.'])
      else
        let rest := whole ++ '.' :: fraction
        (.token (.number (String.ofList (c :: rest))), rest)
    | _ => (.token (.number (String.ofList (c :: whole))), whole)
  else if c = '\'' then
    match splitQuoted cs with
    | (content, '\'' :: _) =>
      (.token (.quoted (String.ofList (unquote content))), content ++ ['\''])
    | (content, _) => (.unterminatedText, content)
  else if c = '=' then
    match cs with
    | '=' :: _ => (.token (.symbol .equal), ['='])
    | _ => (.unexpected, [])
  else match symbol? c with
    | some s => (.token (.symbol s), [])
    | none => (.separators, cs.takeWhile isSeparator)

/-- The characters of a piece are the next ones of the source. -/
theorem firstPiece_prefix (c : Char) (cs : List Char) : (firstPiece c cs).2 <+: cs := by
  unfold firstPiece
  have hdigits := List.takeWhile_append_dropWhile (p := Char.isDigit) (l := cs)
  have hquoted := splitQuoted_append cs
  split
  · exact List.takeWhile_prefix _
  split
  · dsimp only
    split
    · rename_i r hr
      rw [hr] at hdigits
      split
      · exact ⟨r, by simpa using hdigits⟩
      · refine ⟨r.dropWhile Char.isDigit, ?_⟩
        rw [List.append_assoc, List.cons_append, List.takeWhile_append_dropWhile]
        exact hdigits
    · exact List.takeWhile_prefix _
  split
  · split
    · rename_i content r hr
      rw [hr] at hquoted
      exact ⟨r, by simpa using hquoted⟩
    · rename_i content r _ hr
      rw [hr] at hquoted
      exact ⟨r, hquoted⟩
  split
  · split
    · rename_i r
      exact ⟨r, rfl⟩
    · exact List.nil_prefix
  split
  · exact List.nil_prefix
  · exact List.takeWhile_prefix _

/-! ## The tokens of a source -/

/-- Why a source has no tokens. -/
structure LexFault where
  span : Span
  /-- What is wrong at that place. -/
  reason : String
  deriving DecidableEq, Repr

/-- The text of the fault. -/
def LexFault.message (f : LexFault) : String :=
  "Lexer error at " ++ f.span.render ++ ": " ++ f.reason

/-- The pieces of a source, each with its characters. -/
def pieces : List Char → List (Piece × List Char)
  | [] => []
  | c :: cs =>
    let p := firstPiece c cs
    (p.1, c :: p.2) :: pieces (cs.drop p.2.length)
termination_by cs => cs.length
decreasing_by
  simp only [List.length_drop, List.length_cons]
  omega

/-- The pieces of a source join to the source. -/
theorem flatMap_pieces (cs : List Char) : (pieces cs).flatMap Prod.snd = cs := by
  fun_induction pieces cs with
  | case1 => rfl
  | case2 c cs p ih =>
    obtain ⟨r, hr⟩ := firstPiece_prefix c cs
    rw [List.flatMap_cons, ih]
    have : cs.drop p.2.length = r := by
      rw [← hr]
      simp [p]
    rw [this]
    simpa using hr

/-- The tokens among the pieces from a byte position on, up to the first piece that is wrong. -/
def tokensFrom : Nat → List (Piece × List Char) → Except LexFault (List Token)
  | _, [] => .ok []
  | start, (piece, cs) :: rest =>
    let span : Span := ⟨start, start + Text.byteCount cs⟩
    match piece with
    | .separators => tokensFrom span.stop rest
    | .token l => (tokensFrom span.stop rest).map (⟨l, span⟩ :: ·)
    | .malformedNumber => .error ⟨span, "Number has no digits after the decimal point"⟩
    | .unterminatedText => .error ⟨span, "String is not terminated"⟩
    | .unexpected => .error ⟨span, "Unexpected character '" ++ String.ofList cs ++ "'"⟩

/-- The tokens of a source. -/
def tokens (source : String) : Except LexFault (List Token) :=
  tokensFrom 0 (pieces source.toList)

end GuidedXml.Literal
