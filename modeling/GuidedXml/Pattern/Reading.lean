/-
# Reading patterns

The written form of patterns: characters and escapes, sets in brackets, groups with flags,
alternatives and repetitions.

A pattern is read from the left, one item after the other; open groups wait on a stack. Each of the
loops here takes at least one character in a step, so that the number of characters bounds them.

With every item stands how deep it is nested: a group, a repetition and a set in brackets are one
deeper than what they hold, and so are several items, branches or members together. A pattern that
is nested deeper than `maxNesting`, or takes too much room, is refused.
-/
import GuidedXml.Number.Reading
import GuidedXml.Pattern.Property
import GuidedXml.Pattern.Size
import GuidedXml.Text.Cut

namespace GuidedXml.Pattern

/-! ## Flags -/

/-- How the items of a group are read. -/
structure Flags where
  /-- Letters match in either case. -/
  foldCase : Bool := false
  /-- The line conditions hold inside the text too. -/
  multiLine : Bool := false
  /-- A point matches line feeds too. -/
  dotAll : Bool := false
  /-- Greedy and lazy repetitions change roles, which does not matter to what matches. -/
  swapGreed : Bool := false
  /-- Classes are those of all scripts, not of the basic Latin block alone. -/
  allScripts : Bool := true
  /-- A carriage return ends a line too. -/
  crlf : Bool := false
  /-- Blanks and comments between items mean nothing. -/
  spaced : Bool := false
  deriving DecidableEq, Repr

namespace Flags

/-- The flags with the one of a letter switched. -/
def switch? (f : Flags) (on : Bool) : Char → Option Flags
  | 'i' => some { f with foldCase := on }
  | 'm' => some { f with multiLine := on }
  | 's' => some { f with dotAll := on }
  | 'U' => some { f with swapGreed := on }
  | 'u' => some { f with allScripts := on }
  | 'R' => some { f with crlf := on }
  | 'x' => some { f with spaced := on }
  | _ => none

/-- The word characters. -/
def word (f : Flags) : CharSet :=
  if f.allScripts then CharSet.word else CharSet.basicWord

/-- The set with the case variants that the flags ask for. -/
def folded (f : Flags) (s : CharSet) : CharSet :=
  if !f.foldCase then s else if f.allScripts then s.fold else s.foldLatin

/-- The complement of a set, which only exists among all scripts. -/
def complement? (f : Flags) (s : CharSet) : Option CharSet :=
  if f.allScripts then some s.complement else none

/-- The folded set or its complement. -/
def finish? (f : Flags) (negated : Bool) (s : CharSet) : Option CharSet :=
  if negated then f.complement? (f.folded s) else some (f.folded s)

end Flags

/-! ## Blanks and counts -/

/-- What follows blanks and comments; `inComment` says whether a comment is open. -/
def skipLoose : Bool → List Char → List Char
  | _, [] => []
  | true, c :: cs => skipLoose (c ≠ '\n') cs
  | false, c :: cs =>
    if Text.isBlank c then skipLoose false cs
    else if c = '#' then skipLoose true cs
    else c :: cs

/-- The next items: blanks and comments are passed over if they mean nothing. -/
def Flags.next (f : Flags) (cs : List Char) : List Char :=
  if f.spaced then skipLoose false cs else cs

/-- Up to `n` characters of a kind, and what follows them. -/
def takeLoose (f : Flags) (p : Char → Bool) : Nat → List Char → List Char × List Char
  | 0, cs => ([], cs)
  | _, [] => ([], [])
  | n + 1, c :: cs =>
    if p c then
      let r := takeLoose f p n (f.next cs)
      (c :: r.1, r.2)
    else ([], c :: cs)

/-- A count in digits, blanks around it aside. -/
def readCount (f : Flags) (cs : List Char) : Option (Nat × List Char) :=
  let digits := takeLoose f Char.isDigit cs.length (cs.dropWhile Text.isBlank)
  match Number.readNat? Number.maxWord32 digits.1 with
  | none => none
  | some n => some (n, digits.2.dropWhile Text.isBlank)

/-- The bounds of a repetition after its opening brace, and what follows the closing one. -/
def readBounds (f : Flags) (cs : List Char) : Option (Nat × Option Nat × List Char) :=
  match readCount f (f.next cs) with
  | none => none
  | some (min, '}' :: r) => some (min, some min, r)
  | some (min, ',' :: r) =>
    match f.next r with
    | '}' :: r => some (min, none, r)
    | r =>
      match readCount f r with
      | some (max, '}' :: r) => if min ≤ max then some (min, some max, r) else none
      | _ => none
  | some _ => none

/-! ## Escapes -/

/-- One item without structure. -/
inductive Atom where
  /-- A character, perhaps written as a byte of two digits. -/
  | char (c : Char) (isByte : Bool)
  | set (s : CharSet)
  | look (l : Look)

/-- Whether the character is a digit of base sixteen. -/
def isHexDigit (c : Char) : Bool :=
  c.isDigit || ('a' ≤ c && c ≤ 'f') || ('A' ≤ c && c ≤ 'F')

/-- The number that digits of base sixteen denote. -/
def hexValue (cs : List Char) : Nat :=
  cs.foldl (fun n c =>
    16 * n + (if c.isDigit then c.toNat - '0'.toNat else c.toLower.toNat - 'a'.toNat + 10)) 0

/-- The character of a code, if there is one. -/
def charOfCode? (n : Nat) : Option Char :=
  if n.isValidChar then some (Char.ofNat n) else none

/-- A character written by its code: `digits` of them, or any number in braces. -/
def readCode (f : Flags) (digits : Nat) (cs : List Char) : Option (Atom × List Char) :=
  match f.next cs with
  | '{' :: r =>
    match takeLoose f isHexDigit r.length (f.next r) with
    | ([], _) => none
    | (code, '}' :: r) => (charOfCode? (hexValue code)).map fun c => (.char c false, f.next r)
    | _ => none
  | r =>
    let code := takeLoose f isHexDigit digits r
    if code.1.length = digits then
      (charOfCode? (hexValue code.1)).map fun c => (.char c (digits = 2), f.next code.2)
    else none

/-- The set of a property that is written in braces: a name, or a name and a value with a sign
between them. -/
def readProperty (name : List Char) : Option (Bool × CharSet) :=
  match Text.cutAtPiece ['!', '='] name with
  | some (key, value) => (CharSet.valued? key value).map (true, ·)
  | none =>
    match (Text.cutAt ':' name).or (Text.cutAt '=' name) with
    | some (key, value) => (CharSet.valued? key value).map (false, ·)
    | none => (CharSet.named? name).map (false, ·)

/-- A property after its escape. -/
def readPropertyEscape (f : Flags) (negated : Bool) (cs : List Char) :
    Option (Atom × List Char) :=
  if !f.allScripts then none
  else match f.next cs with
    | [] => none
    | '{' :: r =>
      let name := takeLoose f (· ≠ '}') r.length (f.next r)
      match name.2 with
      | '}' :: rest =>
        match readProperty name.1 with
        | none => none
        | some (unequal, s) => (f.finish? (negated != unequal) s).map fun s => (.set s, rest)
      | _ => none
    | '\\' :: _ => none
    | c :: r =>
      match CharSet.named? [c] with
      | none => none
      | some s => (f.finish? negated s).map fun s => (.set s, f.next r)

/-- The set of a class that one letter names. -/
def letterClass? (f : Flags) : Char → Option CharSet
  | 'd' => some (if f.allScripts then CharSet.decimal else CharSet.basicDigits)
  | 's' => some (if f.allScripts then CharSet.blanks else CharSet.basicBlanks)
  | 'w' => some f.word
  | _ => none

/-- The condition on words that a name in braces stands for. -/
def wordLook? (word : CharSet) : String → Option Look
  | "start" => some (.wordStart word)
  | "end" => some (.wordEnd word)
  | "start-half" => some (.wordStartHalf word)
  | "end-half" => some (.wordEndHalf word)
  | _ => none

/-- A condition on words after its escape, with its name in braces or without one. -/
def readWordLook (f : Flags) (cs : List Char) : Option (Atom × List Char) :=
  let isNameChar := fun (c : Char) => c.isAlpha || c = '-'
  match cs with
  | '{' :: r =>
    match f.next r with
    | [] => none
    | c :: r' =>
      if isNameChar c then
        match takeLoose f isNameChar r.length (c :: r') with
        | (name, '}' :: rest) =>
          (wordLook? f.word (String.ofList name)).map fun l => (.look l, rest)
        | _ => none
      else some (.look (.wordEdge f.word), cs)
  | _ => some (.look (.wordEdge f.word), cs)

/-- The character that an escaped letter stands for. -/
def controlOf? : Char → Option Char
  | 'a' => some '\x07'
  | 'f' => some '\x0C'
  | 't' => some '\t'
  | 'n' => some '\n'
  | 'r' => some '\r'
  | 'v' => some '\x0B'
  | _ => none

/-- Whether the escaped character stands for itself: a sign of the basic Latin block, except the
two angle brackets. -/
def standsForItself (c : Char) : Bool :=
  c.toNat < 0x80 && !c.isAlphanum && c ≠ '<' && c ≠ '>'

/-- What follows a backslash. -/
def readEscape (f : Flags) : List Char → Option (Atom × List Char)
  | [] => none
  | 'x' :: r => readCode f 2 r
  | 'u' :: r => readCode f 4 r
  | 'U' :: r => readCode f 8 r
  | 'p' :: r => readPropertyEscape f false r
  | 'P' :: r => readPropertyEscape f true r
  | 'A' :: r => some (.look .textStart, r)
  | 'z' :: r => some (.look .textEnd, r)
  | 'b' :: r => readWordLook f r
  | 'B' :: r => some (.look (.noWordEdge f.word), r)
  | '<' :: r => some (.look (.wordStart f.word), r)
  | '>' :: r => some (.look (.wordEnd f.word), r)
  | c :: r =>
    if standsForItself c then some (.char c false, r)
    else match controlOf? c with
      | some d => some (.char d false, r)
      | none =>
        match letterClass? f c with
        | some s => some (.set s, r)
        | none =>
          match letterClass? f c.toLower with
          | some s => (f.complement? s).map fun s => (.set s, r)
          | none => none

/-! ## Sets in brackets -/

/-- The operations between sets in brackets. -/
inductive SetOperator where
  | inter | diff | symmDiff
  deriving DecidableEq, Repr

/-- Apply an operation to two sets. -/
def SetOperator.apply : SetOperator → CharSet → CharSet → CharSet
  | inter => CharSet.inter
  | diff => CharSet.diff
  | symmDiff => CharSet.symmDiff

/-- A set with how deep it is nested. -/
structure Operand where
  set : CharSet
  depth : Nat

/-- How deep several things are nested together: a single one as it is itself. -/
def depthOf : List Nat → Nat
  | [] => 0
  | [d] => d
  | ds => 1 + ds.foldr Nat.max 0

/-- The members of a set so far. -/
abbrev Members := List Operand

/-- The set of members. -/
def Members.operand (ms : Members) : Operand :=
  ⟨CharSet.unions (ms.map (·.set)), depthOf (ms.map (·.depth))⟩

/-- The set of all operands so far: the left one, if there is an operation, and the last one. -/
def combine (f : Flags) : Option (SetOperator × Operand) → Operand → Operand
  | none, s => s
  | some (o, left), s =>
    ⟨o.apply (f.folded left.set) (f.folded s.set), 1 + Nat.max left.depth s.depth⟩

/-- A named class in brackets and colons, after its opening bracket: whether it is negated, the set,
and what follows. -/
def readBracketClass (cs : List Char) : Option (Bool × CharSet × List Char) :=
  match cs with
  | ':' :: r =>
    let (negated, r) := match r with
      | '^' :: r => (true, r)
      | r => (false, r)
    match Text.cutAt ':' r with
    | some (name, ']' :: rest) =>
      (CharSet.bracketClass? (String.ofList name)).map fun s => (negated, s, rest)
    | _ => none
  | _ => none

/-- Whether a byte or character can be a member of sets under the flags. -/
def isMember (f : Flags) (c : Char) : Bool :=
  f.allScripts || c.toNat < 0x80

/-- One item in brackets that is no set in brackets itself. -/
def readMember (f : Flags) : List Char → Option (Atom × List Char)
  | [] => none
  | '\\' :: r => readEscape f r
  | c :: r => some (.char c false, r)

/-- A member or a range of characters. -/
def readRange (f : Flags) (cs : List Char) : Option (CharSet × List Char) :=
  match readMember f cs with
  | none => none
  | some (first, r) =>
    let alone : List Char → Option (CharSet × List Char) := fun r =>
      match first with
      | .char c _ => if isMember f c then some (CharSet.single c, r) else none
      | .set s => some (s, r)
      | .look _ => none
    match f.next r with
    | [] => none
    | '-' :: r' =>
      match f.next r' with
      | ']' :: _ => alone ('-' :: r')
      | '-' :: _ => alone ('-' :: r')
      | r'' =>
        match first, readMember f r'' with
        | .char lo _, some (.char hi _, rest) =>
          if lo ≤ hi && isMember f lo && isMember f hi then some (CharSet.range lo hi, rest) else none
        | _, _ => none
    | r' => alone r'

/-- The hyphens at the start of a set, and what follows them. -/
def readHyphens (f : Flags) : Nat → List Char → Members × List Char
  | n + 1, '-' :: r =>
    let rest := readHyphens f n (f.next r)
    (⟨CharSet.single '-', 0⟩ :: rest.1, rest.2)
  | _, cs => ([], cs)

/-- What a set starts with that would mean something else further on: a circumflex, hyphens, or a
closing bracket. Gives whether the set is negated, its first members, and what follows. -/
def readSetStart (f : Flags) (cs : List Char) : Bool × Members × List Char :=
  let (negated, cs) := match f.next cs with
    | '^' :: r => (true, f.next r)
    | r => (false, r)
  match readHyphens f cs.length cs with
  | ([], ']' :: r) => (negated, [⟨CharSet.single ']', 0⟩], f.next r)
  | (hyphens, r) => (negated, hyphens, r)

mutual

/-- A set after its opening bracket. -/
def readSet (f : Flags) : Nat → List Char → Option (Operand × List Char)
  | 0, _ => none
  | n + 1, cs =>
    let (negated, members, cs) := readSetStart f cs
    match readMembers f n none members cs with
    | none => none
    | some (s, rest) => (f.finish? negated s.set).map fun set => (⟨set, 1 + s.depth⟩, rest)

/-- The members of a set up to its closing bracket. -/
def readMembers (f : Flags) : Nat → Option (SetOperator × Operand) → Members → List Char →
    Option (Operand × List Char)
  | 0, _, _, _ => none
  | n + 1, left, members, cs =>
    let operand := combine f left members.operand
    match f.next cs with
    | [] => none
    | ']' :: r => some (operand, r)
    | '&' :: '&' :: r => readMembers f n (some (.inter, operand)) [] r
    | '-' :: '-' :: r => readMembers f n (some (.diff, operand)) [] r
    | '~' :: '~' :: r => readMembers f n (some (.symmDiff, operand)) [] r
    | '[' :: r =>
      match readBracketClass r with
      | some (negated, s, rest) =>
        match f.finish? negated s with
        | none => none
        | some s => readMembers f n left (⟨s, 0⟩ :: members) rest
      | none =>
        match readSet f n r with
        | none => none
        | some (s, rest) => readMembers f n left (s :: members) rest
    | r =>
      match readRange f r with
      | none => none
      | some (s, rest) => readMembers f n left (⟨s, 0⟩ :: members) rest

end

/-! ## Groups -/

/-- The flags before a colon or a closing parenthesis: the flags switched, whether any was named,
and what follows, that sign included. -/
def readFlags : Flags → List Char → Bool → Bool → List Char → Option (Flags × Bool × List Char)
  | _, _, _, _, [] => none
  | f, seen, negated, afterHyphen, c :: cs =>
    if c = ':' || c = ')' then
      if afterHyphen then none else some (f, !seen.isEmpty, c :: cs)
    else if c = '-' then
      if negated then none else readFlags f seen true true cs
    else if seen.contains c then none
    else match f.switch? (!negated) c with
      | none => none
      | some f => readFlags f (c :: seen) negated false cs

/-- The name of a group up to its closing angle bracket. -/
def readGroupName (cs : List Char) : Option (String × List Char) :=
  match Text.cutAt '>' cs with
  | some (c :: name, rest) =>
    let startsWell := c = '_' || Text.isAlphabetic c
    let goesOnWell := name.all fun c => Text.isAlphanumeric c || "_.[]".toList.contains c
    if startsWell && goesOnWell then some (String.ofList (c :: name), rest) else none
  | _ => none

/-- What an opening parenthesis begins. -/
inductive GroupStart where
  /-- Flags for the rest of the group that holds them. -/
  | flags (f : Flags)
  /-- A group, perhaps with flags or a name of its own, and whether it is remembered. -/
  | group (f : Flags) (name : Option String) (isKept : Bool)

/-- What follows an opening parenthesis: conditions on what lies around a match are not known. -/
def readGroupStart (f : Flags) (cs : List Char) : Option (GroupStart × List Char) :=
  match f.next cs with
  | '?' :: '=' :: _ => none
  | '?' :: '!' :: _ => none
  | '?' :: '<' :: '=' :: _ => none
  | '?' :: '<' :: '!' :: _ => none
  | '?' :: 'P' :: '<' :: r => (readGroupName r).map fun n => (.group f (some n.1) true, n.2)
  | '?' :: '<' :: r => (readGroupName r).map fun n => (.group f (some n.1) true, n.2)
  | '?' :: r =>
    match readFlags f [] false false r with
    | some (f, _, ':' :: rest) => some (.group f none false, rest)
    | some (f, true, _ :: rest) => some (.flags f, rest)
    | _ => none
  | r => some (.group f none true, r)

/-! ## Whole patterns -/

/-- An item that has been read, with how deep it is nested. An item without a pattern stands for
flags, which cannot be repeated. -/
structure Item where
  pattern : Option Pattern
  depth : Nat := 0

/-- An open group: the branches read before the current one, the items of the current branch, last
one first, the flags, and whether the group is remembered. -/
structure Level where
  branches : List (Pattern × Nat) := []
  items : List Item := []
  flags : Flags := {}
  isKept : Bool := false

/-- The pattern of the current branch, with how deep it is nested. -/
def Level.branch (l : Level) : Pattern × Nat :=
  (seqAll (l.items.reverse.filterMap (·.pattern)), depthOf (l.items.map (·.depth)))

/-- The pattern of what the group holds, with how deep it is nested. -/
def Level.inner (l : Level) : Pattern × Nat :=
  let all := l.branches ++ [l.branch]
  (altAll (all.map (·.1)), depthOf (all.map (·.2)))

/-- The item of the whole group. -/
def Level.item (l : Level) : Item :=
  ⟨some (if l.isKept then .group l.inner.1 else l.inner.1), 1 + l.inner.2⟩

/-- The group with one more item. -/
def Level.push (l : Level) (i : Item) : Level :=
  { l with items := i :: l.items }

/-- The group with its last item repeated. -/
def Level.repeatLast? (l : Level) (min : Nat) (max : Option Nat) : Option Level :=
  match l.items with
  | ⟨some p, depth⟩ :: items => some { l with items := ⟨some (p.repeated min max), 1 + depth⟩ :: items }
  | _ => none

/-- Where reading a pattern stands: the innermost open group, those around it, and the names of
groups met. -/
structure Progress where
  level : Level := {}
  outer : List Level := []
  names : List String := []

/-- What remains after a mark of laziness, which does not matter to what matches. -/
def dropLazyMark : List Char → List Char
  | '?' :: cs => cs
  | cs => cs

/-- The pattern of an item without structure. -/
def Atom.pattern? (f : Flags) : Atom → Option Pattern
  | char c isByte =>
    if !f.allScripts && isByte && c.toNat ≥ 0x80 then none
    else some (.chars (if isMember f c then f.folded (CharSet.single c) else CharSet.single c))
  | set s => some (.chars s)
  | look l => some (.look l)

/-- The pattern of a point. -/
def anyChar? (f : Flags) : Option Pattern :=
  if !f.allScripts then none
  else
    let ends := if f.crlf then CharSet.range '\n' '\n' |>.union (CharSet.single '\r') else CharSet.single '\n'
    some (.chars (if f.dotAll then CharSet.all else ends.complement))

/-- The condition of a circumflex. -/
def startLook (f : Flags) : Look :=
  if f.multiLine then .lineStart f.crlf else .textStart

/-- The condition of a dollar sign. -/
def endLook (f : Flags) : Look :=
  if f.multiLine then .lineEnd f.crlf else .textEnd

/-- Read the next item: where reading stands then, and what is left. -/
def readItem (p : Progress) : List Char → Option (Progress × List Char)
  | [] => none
  | c :: cs =>
    let l := p.level
    let f := l.flags
    let push := fun (r : Option (Pattern × List Char)) =>
      r.map fun (q, rest) => ({ p with level := l.push ⟨some q, 0⟩ }, rest)
    let again := fun (min : Nat) (max : Option Nat) (rest : List Char) =>
      (l.repeatLast? min max).map fun l => ({ p with level := l }, dropLazyMark rest)
    match c with
    | '(' =>
      match readGroupStart f cs with
      | none => none
      | some (.flags f, rest) =>
        some ({ p with level := { l.push ⟨none, 0⟩ with flags := f } }, rest)
      | some (.group f name isKept, rest) =>
        let inner : Level := { flags := f, isKept }
        match name with
        | none => some ({ p with level := inner, outer := l :: p.outer }, rest)
        | some n =>
          if p.names.contains n then none
          else some (⟨inner, l :: p.outer, n :: p.names⟩, rest)
    | ')' =>
      match p.outer with
      | [] => none
      | o :: outer => some ({ p with level := o.push l.item, outer }, cs)
    | '|' =>
      some ({ p with level := { l with branches := l.branches ++ [l.branch], items := [] } }, cs)
    | '[' =>
      (readSet f (2 * cs.length + 2) cs).map fun (s, rest) =>
        ({ p with level := l.push ⟨some (.chars s.set), s.depth⟩ }, rest)
    | '?' => again 0 (some 1) cs
    | '*' => again 0 none cs
    | '+' => again 1 none cs
    | '{' =>
      match readBounds f cs with
      | none => none
      | some (min, max, rest) => again min max (f.next rest)
    | '\\' =>
      match readEscape f cs with
      | none => none
      | some (a, rest) => push ((a.pattern? f).map (·, rest))
    | '.' => push ((anyChar? f).map (·, cs))
    | '^' => push (some (.look (startLook f), cs))
    | '$' => push (some (.look (endLook f), cs))
    | _ => push (((Atom.char c false).pattern? f).map (·, cs))

/-- Read items up to the end, at most `n` of them. -/
def readItems : Nat → Progress → List Char → Option (Pattern × Nat)
  | n, p, cs =>
    match p.level.flags.next cs with
    | [] => if p.outer.isEmpty then some p.level.inner else none
    | c :: cs =>
      match n with
      | 0 => none
      | n + 1 =>
        match readItem p (c :: cs) with
        | none => none
        | some (p, rest) => readItems n p rest

/-- How deep a pattern can be nested. -/
def maxNesting : Nat := 250

/-- The pattern that a text writes, if it is one that is not nested too deep and takes no more room
than is given to it. -/
def read? (source : List Char) : Option Pattern :=
  match readItems source.length {} source with
  | some (p, depth) => if depth ≤ maxNesting && p.fits then some p else none
  | none => none

end GuidedXml.Pattern
