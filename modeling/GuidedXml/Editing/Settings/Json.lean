/-
# Settings data

The data format that settings are written in: texts, numbers, lists and named fields.

Numbers count only if they are natural numbers written without sign, point and exponent, so that is
all that is kept of them. A text can name half of a character, which no string holds; such a text
may stand where nothing is read from it.
-/
import GuidedXml.Number.Reading
import GuidedXml.Text.Cut

namespace GuidedXml.Settings

/-- Data of the settings format. -/
inductive Json where
  | null
  | bool (value : Bool)
  /-- A number, with its value if it is written as a natural number. -/
  | number (value : Option Nat)
  /-- A text, unless it names half of a character. -/
  | text (content : Option String)
  | list (items : List Json)
  /-- Named values in the order in which they are written. -/
  | record (fields : List (Option String × Json))
  deriving Repr

namespace Json

/-! ## Texts -/

/-- Whether the character separates values. -/
def isBlank (c : Char) : Bool :=
  c = ' ' || c = '\t' || c = '\n' || c = '\r'

/-- The text without the blanks at its start. -/
def skipBlanks (cs : List Char) : List Char :=
  cs.dropWhile isBlank

/-- The value of a hexadecimal digit. -/
def hexDigit? (c : Char) : Option Nat :=
  if c.isDigit then some (c.toNat - '0'.toNat)
  else if 'a' ≤ c ∧ c ≤ 'f' then some (c.toNat - 'a'.toNat + 10)
  else if 'A' ≤ c ∧ c ≤ 'F' then some (c.toNat - 'A'.toNat + 10)
  else none

/-- The number that four hexadecimal digits denote. -/
def hexNumber? (a b c d : Char) : Option Nat := do
  some ((((← hexDigit? a) * 16 + (← hexDigit? b)) * 16 + (← hexDigit? c)) * 16 + (← hexDigit? d))

/-- The character that a backslash before a letter stands for. -/
def escaped? : Char → Option Char
  | '"' => some '"'
  | '\\' => some '\\'
  | '/' => some '/'
  | 'b' => some '\x08'
  | 'f' => some '\x0c'
  | 'n' => some '\n'
  | 'r' => some '\r'
  | 't' => some '\t'
  | _ => none

/-- The code points and halves of a text up to its closing quote, and what follows that. -/
def readContent? : List Char → Option (List Nat × List Char)
  | [] => none
  | '"' :: cs => some ([], cs)
  | '\\' :: 'u' :: a :: b :: c :: d :: cs => do
    let n ← hexNumber? a b c d
    let (ns, rest) ← readContent? cs
    some (n :: ns, rest)
  | '\\' :: c :: cs => do
    let e ← escaped? c
    let (ns, rest) ← readContent? cs
    some (e.toNat :: ns, rest)
  | c :: cs => do
    if c < ' ' || c = '\\' then none
    let (ns, rest) ← readContent? cs
    some (c.toNat :: ns, rest)

/-- Whether the number is the first half of a character. -/
def isHighHalf (n : Nat) : Bool :=
  0xD800 ≤ n && n ≤ 0xDBFF

/-- Whether the number is the second half of a character. -/
def isLowHalf (n : Nat) : Bool :=
  0xDC00 ≤ n && n ≤ 0xDFFF

/-- The characters that code points and halves denote; a half without its partner denotes none. -/
def characters? : List Nat → Option (List Char)
  | [] => some []
  | [n] => if isHighHalf n || isLowHalf n then none else some [Char.ofNat n]
  | n :: m :: ns =>
    if isHighHalf n then
      if isLowHalf m then
        (characters? ns).map (Char.ofNat (0x10000 + (n - 0xD800) * 0x400 + (m - 0xDC00)) :: ·)
      else none
    else if isLowHalf n then none
    else (characters? (m :: ns)).map (Char.ofNat n :: ·)

/-- The content of a text after its opening quote, and what follows the closing one. -/
def readText? (cs : List Char) : Option (Option String × List Char) :=
  (readContent? cs).map fun r => ((characters? r.1).map String.ofList, r.2)

/-! ## Numbers -/

/-- One or more digits at the start of the text, and what follows them. -/
def splitDigits? (cs : List Char) : Option (List Char × List Char) :=
  let digits := cs.takeWhile Char.isDigit
  if digits.isEmpty then none else some (digits, cs.dropWhile Char.isDigit)

/-- The digits before a point; only zero itself starts with a zero. -/
def splitInteger? (cs : List Char) : Option (List Char × List Char) :=
  (splitDigits? cs).filter fun r => r.1.head? ≠ some '0' || r.1.length = 1

/-- What follows a point and digits, if there is a point, and whether there is one. -/
def dropFraction? : List Char → Option (Bool × List Char)
  | '.' :: cs => (splitDigits? cs).map fun r => (true, r.2)
  | cs => some (false, cs)

/-- What follows an exponent, if there is one, and whether there is one. -/
def dropExponent? : List Char → Option (Bool × List Char)
  | c :: cs =>
    if c = 'e' || c = 'E' then
      let digits := match cs with
        | '+' :: r => r
        | '-' :: r => r
        | r => r
      (splitDigits? digits).map fun r => (true, r.2)
    else some (false, c :: cs)
  | [] => some (false, [])

/-- A number, and what follows it. -/
def readNumber? (cs : List Char) : Option (Option Nat × List Char) := do
  let (negative, unsigned) := match cs with
    | '-' :: r => (true, r)
    | r => (false, r)
  let (digits, afterInteger) ← splitInteger? unsigned
  let (hasFraction, afterFraction) ← dropFraction? afterInteger
  let (hasExponent, rest) ← dropExponent? afterFraction
  some (if negative || hasFraction || hasExponent then none else some (Number.digitsValue digits),
    rest)

/-! ## Values -/

mutual
/-- A value, and what follows it, at most `fuel` steps deep. -/
def readValue? : Nat → List Char → Option (Json × List Char)
  | 0, _ => none
  | fuel + 1, cs =>
    match skipBlanks cs with
    | [] => none
    | 'n' :: r => (Text.dropPiece? "ull".toList r).map fun r => (.null, r)
    | 't' :: r => (Text.dropPiece? "rue".toList r).map fun r => (.bool true, r)
    | 'f' :: r => (Text.dropPiece? "alse".toList r).map fun r => (.bool false, r)
    | '"' :: r => (readText? r).map fun (s, r) => (.text s, r)
    | '[' :: r =>
      match skipBlanks r with
      | ']' :: r => some (.list [], r)
      | r => (readItems? fuel r).map fun (js, r) => (.list js, r)
    | '{' :: r =>
      match skipBlanks r with
      | '}' :: r => some (.record [], r)
      | r => (readFields? fuel r).map fun (fs, r) => (.record fs, r)
    | r => (readNumber? r).map fun (n, r) => (.number n, r)

/-- The values of a list up to its closing bracket, and what follows that. -/
def readItems? : Nat → List Char → Option (List Json × List Char)
  | 0, _ => none
  | fuel + 1, cs => do
    let (j, r) ← readValue? fuel cs
    match skipBlanks r with
    | ',' :: r =>
      let (js, r) ← readItems? fuel r
      some (j :: js, r)
    | ']' :: r => some ([j], r)
    | _ => none

/-- The fields of a record up to its closing brace, and what follows that. -/
def readFields? : Nat → List Char → Option (List (Option String × Json) × List Char)
  | 0, _ => none
  | fuel + 1, cs => do
    let '"' :: r := skipBlanks cs | none
    let (name, r) ← readText? r
    let ':' :: r := skipBlanks r | none
    let (j, r) ← readValue? fuel r
    match skipBlanks r with
    | ',' :: r =>
      let (fs, r) ← readFields? fuel r
      some ((name, j) :: fs, r)
    | '}' :: r => some ([(name, j)], r)
    | _ => none
end

/-- The data that a text holds. Every second step takes a character at least, so twice the length
of the text bounds the depth. -/
def read? (source : String) : Option Json := do
  let cs := source.toList
  let (j, r) ← readValue? (2 * cs.length + 1) cs
  if (skipBlanks r).isEmpty then some j else none

/-! ## Reading values out -/

/-- The strings of a list of texts. -/
def strings? : Json → Option (List String)
  | list items => items.mapM fun
    | text content => content
    | _ => none
  | _ => none

/-- The natural number up to `max` that the value is. -/
def natural? (max : Nat) : Json → Option Nat
  | number value => value.filter (· ≤ max)
  | _ => none

end Json

end GuidedXml.Settings
