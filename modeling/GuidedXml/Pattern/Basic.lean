/-
# Patterns

A pattern says which pieces of a text it matches: single characters of a set, conditions on a place
in the text, and sequences, alternatives and repetitions of these.

`advance` carries a set of places to the places where a match that started at one of them can end.
-/
import GuidedXml.Pattern.CharSet

namespace GuidedXml

/-- Conditions on the characters before and after a place. -/
inductive Pattern.Look where
  | textStart
  | textEnd
  /-- The start of a line; with `crlf` a carriage return also ends a line. -/
  | lineStart (crlf : Bool)
  | lineEnd (crlf : Bool)
  /-- A word character on one side and none on the other. -/
  | wordEdge (word : Pattern.CharSet)
  | noWordEdge (word : Pattern.CharSet)
  | wordStart (word : Pattern.CharSet)
  | wordEnd (word : Pattern.CharSet)
  /-- No word character before. -/
  | wordStartHalf (word : Pattern.CharSet)
  /-- No word character after. -/
  | wordEndHalf (word : Pattern.CharSet)

/-- The patterns. -/
inductive Pattern where
  | empty
  | chars (s : Pattern.CharSet)
  | look (l : Pattern.Look)
  /-- A group whose match is remembered, which does not matter to what matches. -/
  | group (p : Pattern)
  | seq (p q : Pattern)
  | alt (p q : Pattern)
  /-- From `min` to `max` matches one after the other, or any number from `min` on. -/
  | rep (p : Pattern) (min : Nat) (max : Option Nat)

namespace Pattern

/-! ## Building -/

/-- The pattern that matches patterns one after the other; what is empty is left out. -/
def seqAll : List Pattern → Pattern
  | [] => empty
  | empty :: ps => seqAll ps
  | p :: ps =>
    match seqAll ps with
    | empty => p
    | q => seq p q

/-- The branches of a pattern. -/
def branches : Pattern → List Pattern
  | alt p q => p.branches ++ q.branches
  | p => [p]

/-- The set whose characters the pattern matches, if it is such a pattern. -/
def chars? : Pattern → Option CharSet
  | chars s => some s
  | _ => none

/-- The set of branches that are single characters all, or sets of several characters all. -/
def joined? (ps : List Pattern) : Option CharSet :=
  match ps.mapM chars? with
  | some (s :: ss) =>
    if ss.all fun t => t.isSingle = s.isSingle then some (CharSet.unions (s :: ss)) else none
  | _ => none

/-- The patterns as branches, unchanged. -/
def altList : List Pattern → Pattern
  | [] => empty
  | [p] => p
  | p :: ps => alt p (altList ps)

/-- The pattern that matches what one of the patterns matches. Branches of branches are branches,
and branches that are all of one character each are a set. -/
def altAll (ps : List Pattern) : Pattern :=
  let all := ps.flatMap branches
  match joined? all with
  | some s => chars s
  | none => altList all

/-- Whether no match of the pattern has a character, so that it only tells places apart. -/
def isNarrow : Pattern → Bool
  | empty => true
  | chars _ => false
  | look _ => true
  | group p => p.isNarrow
  | seq p q => p.isNarrow && q.isNarrow
  | alt p q => p.isNarrow && q.isNarrow
  | rep p _ _ => p.isNarrow

/-- The repetition of a pattern. A match without characters is not repeated. -/
def repeated (p : Pattern) (min : Nat) (max : Option Nat) : Pattern :=
  let bounds := if p.isNarrow then (Nat.min min 1, some (Nat.min (max.getD 1) 1)) else (min, max)
  match bounds with
  | (0, some 0) => empty
  | (1, some 1) => p
  | (min, max) => rep p min max

/-! ## Matching -/

/-- Whether the condition holds between two characters; at an end of the text there is none. -/
def Look.holds (l : Look) (before after : Option Char) : Bool :=
  let wordBefore := fun (word : CharSet) => before.any word.contains
  let wordAfter := fun (word : CharSet) => after.any word.contains
  match l with
  | textStart => before.isNone
  | textEnd => after.isNone
  | lineStart false => before.isNone || before = some '\n'
  | lineStart true =>
    before.isNone || before = some '\n' || (before = some '\r' && after ≠ some '\n')
  | lineEnd false => after.isNone || after = some '\n'
  | lineEnd true =>
    after.isNone || after = some '\r' || (after = some '\n' && before ≠ some '\r')
  | wordEdge word => wordBefore word != wordAfter word
  | noWordEdge word => wordBefore word == wordAfter word
  | wordStart word => !wordBefore word && wordAfter word
  | wordEnd word => wordBefore word && !wordAfter word
  | wordStartHalf word => !wordBefore word
  | wordEndHalf word => !wordAfter word

/-- The character before a place. -/
def charBefore? (text : Array Char) (i : Nat) : Option Char :=
  if i = 0 then none else text[i - 1]?

/-- Apply a step `n` times, unless no place is left. -/
def iterate (step : List Nat → List Nat) : Nat → List Nat → List Nat
  | 0, places => places
  | n + 1, places => if places.isEmpty then [] else iterate step n (step places)

/-- The places seen and those that up to `n` further steps from the newest of them lead to. -/
def spread (step : List Nat → List Nat) : Nat → List Nat → List Nat → List Nat
  | 0, _, seen => seen
  | n + 1, newest, seen =>
    let new := (step newest).filter fun i => !seen.contains i
    if new.isEmpty then seen else spread step n new (seen ++ new)

/-- Every place seen stays. -/
theorem subset_spread (step : List Nat → List Nat) (n : Nat) (newest seen : List Nat) :
    seen ⊆ spread step n newest seen := by
  induction n generalizing newest seen with
  | zero => exact List.Subset.refl _
  | succ n ih =>
    simp only [spread]
    split
    · exact List.Subset.refl _
    · exact List.Subset.trans (List.subset_append_left _ _) (ih _ _)

/-- The places where a match that starts at one of the given places can end. More steps than the
text has places lead to no new place. -/
def advance (text : Array Char) : Pattern → List Nat → List Nat
  | empty, places => places
  | chars s, places =>
    (places.filter fun i => match text[i]? with
      | some c => s.contains c
      | none => false).map (· + 1)
  | look l, places => places.filter fun i => l.holds (charBefore? text i) text[i]?
  | group p, places => advance text p places
  | seq p q, places => advance text q (advance text p places)
  | alt p q, places => (advance text p places ++ advance text q places).eraseDups
  | rep p min max, places =>
    let least := iterate (advance text p) min places
    let further := match max with
      | none => text.size + 1
      | some m => Nat.min (m - min) (text.size + 1)
    spread (advance text p) further least least

/-- Whether the pattern matches somewhere in the text. -/
def matchesIn (p : Pattern) (s : String) : Bool :=
  let text := s.toList.toArray
  !(advance text p (List.range (text.size + 1))).isEmpty

end Pattern

end GuidedXml
