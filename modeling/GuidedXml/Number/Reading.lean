/-
# Reading numbers

Numbers written in decimal digits: natural numbers and integers within bounds, and binary floating
point numbers.

The main statement says that a text of digits denotes what its digits add up to, place by place.
-/

namespace GuidedXml.Number

/-! ## Digits -/

/-- The number that a list of decimal digits denotes, most significant digit first. -/
def digitsValue (cs : List Char) : Nat :=
  cs.foldl (fun n c => 10 * n + (c.toNat - '0'.toNat)) 0

@[simp] theorem digitsValue_nil : digitsValue [] = 0 := rfl

/-- A digit at the end counts once and moves the digits before it up one place. -/
theorem digitsValue_concat (cs : List Char) (c : Char) :
    digitsValue (cs ++ [c]) = 10 * digitsValue cs + (c.toNat - '0'.toNat) := by
  simp [digitsValue]

/-- Whether the text is one or more decimal digits. -/
def isDigits (cs : List Char) : Bool :=
  !cs.isEmpty && cs.all Char.isDigit

/-- The number that one or more decimal digits denote. -/
def readDigits? (cs : List Char) : Option Nat :=
  if isDigits cs then some (digitsValue cs) else none

/-- A sign, if the text starts with one, and what follows it. -/
def splitSign : List Char → Bool × List Char
  | '-' :: cs => (true, cs)
  | '+' :: cs => (false, cs)
  | cs => (false, cs)

/-! ## Natural numbers and integers -/

/-- The natural number up to `max` that digits with an optional plus sign denote. -/
def readNat? (max : Nat) (cs : List Char) : Option Nat :=
  let digits := match cs with
    | '+' :: r => r
    | r => r
  (readDigits? digits).filter (· ≤ max)

/-- The integer between `min` and `max` that digits with an optional sign denote. -/
def readInt? (min max : Int) (cs : List Char) : Option Int :=
  let (negative, digits) := splitSign cs
  let signed := (readDigits? digits).map fun n => if negative then -(n : Int) else n
  signed.filter fun i => min ≤ i && i ≤ max

/-- The largest number of a word of 64 bits. -/
def maxWord64 : Nat := 0xFFFFFFFFFFFFFFFF

/-- The largest number of a word of 32 bits. -/
def maxWord32 : Nat := 0xFFFFFFFF

/-! ## Floating point numbers -/

/-- The floating point number nearest to `m * 10 ^ e`, where `m` has at most `width` digits.
Numbers beyond the largest one become infinite and those below the smallest one become zero. -/
def nearestFloat (m width : Nat) (e : Int) : Float :=
  if m = 0 then 0.0
  else if (width : Int) + e < -330 then 0.0
  else if 0 ≤ e then
    if 310 < e then Float.ofBits 0x7FF0000000000000 else Float.ofScientific m false e.toNat
  else Float.ofScientific m true (-e).toNat

/-- The exponent after the mark, zero if there is no mark. -/
def readExponent? : List Char → Option Int
  | [] => some 0
  | c :: cs =>
    if c = 'e' || c = 'E' then
      let (negative, digits) := splitSign cs
      (readDigits? digits).map fun n => if negative then -(n : Int) else n
    else none

/-- An unsigned number: digits with an optional point among or around them, and an optional
exponent. -/
def readUnsigned? (cs : List Char) : Option Float :=
  let whole := cs.takeWhile Char.isDigit
  let afterWhole := cs.dropWhile Char.isDigit
  let (fraction, tail) := match afterWhole with
    | '.' :: r => (r.takeWhile Char.isDigit, r.dropWhile Char.isDigit)
    | r => ([], r)
  let digits := whole ++ fraction
  if digits.isEmpty then none
  else (readExponent? tail).map fun e =>
    let significant := digits.dropWhile (· = '0')
    nearestFloat (digitsValue significant) significant.length (e - fraction.length)

/-- The words for the values that are no numbers, in any case. -/
def readWord? (cs : List Char) : Option Float :=
  let word := String.ofList (cs.map Char.toLower)
  if word = "inf" || word = "infinity" then some (Float.ofBits 0x7FF0000000000000)
  else if word = "nan" then some (Float.ofBits 0x7FF8000000000000)
  else none

/-- A floating point number with an optional sign. -/
def readFloat? (cs : List Char) : Option Float :=
  let (negative, body) := splitSign cs
  let unsigned := (readWord? body).or (readUnsigned? body)
  unsigned.map fun x => if negative then -x else x

end GuidedXml.Number
