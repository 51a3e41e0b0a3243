/-
# Validity of values

Whether a text is a value of a built-in type, and whether it obeys the facets of a restriction.

The values of the identifier types depend on who owns an identifier, which a lookup answers.
-/
import GuidedXml.Document.Node
import GuidedXml.Number.Reading
import GuidedXml.Number.Shortest
import GuidedXml.Pattern.Reading
import GuidedXml.Schema.Builtin
import GuidedXml.Schema.Restriction

namespace GuidedXml.Schema

/-- Who owns an identifier. -/
abbrev Owners := String → Option Handle

/-! ## Names -/

/-- The characters that extend names beyond letters, digits and marks. -/
def extenders : List (Nat × Nat) :=
  [(0x00B7, 0x00B7), (0x02D0, 0x02D1), (0x0387, 0x0387), (0x0640, 0x0640), (0x0E46, 0x0E46),
   (0x0EC6, 0x0EC6), (0x3005, 0x3005), (0x3031, 0x3035), (0x309D, 0x309E), (0x30FC, 0x30FE)]

/-- Whether the character may be in a name. -/
def isNameChar (c : Char) : Bool :=
  Text.isWord c || Text.covers extenders c

/-- Whether the text is a name without colons. -/
def isLocalName : List Char → Bool
  | [] => false
  | c :: cs =>
    isNameChar c && !Text.isDecimal c && cs.all fun c => isNameChar c || c = '.' || c = '-'

/-- Whether the text is a name token: characters that are neither blanks nor commas. -/
def isNameToken (cs : List Char) : Bool :=
  !cs.isEmpty && cs.all fun c => !Text.isBlank c && c ≠ ','

/-- The list without the empty parts at its end, of which the first part is kept. -/
def dropEmptyEnd (parts : List (List Char)) : List (List Char) :=
  match (parts.reverse.dropWhile List.isEmpty).reverse with
  | [] => parts.take 1
  | ps => ps

/-- The parts of a list value, separated by single spaces; spaces at the end do not count. -/
def listParts (cs : List Char) : List (List Char) :=
  dropEmptyEnd (Text.splitAt ' ' cs)

/-- Whether the text holds a tabulator or a line end. -/
def hasBreak (cs : List Char) : Bool :=
  cs.any fun c => c = '\t' || c = '\n' || c = '\r'

/-- Whether the text is name tokens with single spaces between them. -/
def isTokenText (cs : List Char) : Bool :=
  !hasBreak cs && Text.trim cs = cs && (listParts cs).all isNameToken

/-! ## Addresses -/

/-- The characters that stand for themselves in an address. -/
def isAddressChar (c : Char) : Bool :=
  c.isAlphanum || "-_.!~*'();/?:@&=+$,".toList.contains c

/-- Whether the text is an address: characters that stand for themselves and bytes in two digits
after a percent sign. -/
def isAddress : List Char → Bool
  | [] => true
  | '%' :: a :: b :: cs => Pattern.isHexDigit a && Pattern.isHexDigit b && isAddress cs
  | c :: cs => isAddressChar c && isAddress cs

/-! ## Numbers -/

/-- Whether the text is digits with an optional sign. -/
def isIntegerText (cs : List Char) : Bool :=
  Number.isDigits (Number.splitSign cs).2

/-- Whether the text is digits with an optional plus sign. -/
def isUnsignedText (cs : List Char) : Bool :=
  Number.isDigits (if cs.head? = some '+' then cs.drop 1 else cs)

/-- Whether the text is digits with an optional sign and an optional fraction. -/
def isDecimalText (cs : List Char) : Bool :=
  let body := (Number.splitSign cs).2
  match Text.cutAt '.' body with
  | none => Number.isDigits body
  | some (whole, fraction) => Number.isDigits whole && Number.isDigits fraction

/-- Whether the text is an integer between two bounds. -/
def isIntegerWithin (min max : Int) (cs : List Char) : Bool :=
  (Number.readInt? min max cs).isSome

/-- Whether only the given sign and zeros are in the text. -/
def isOnlyZeros (sign : Char) (cs : List Char) : Bool :=
  cs.all fun c => c = sign || c = '0'

/-- Whether the text is an integer that is not above zero. -/
def isNonPositiveText (cs : List Char) : Bool :=
  isIntegerText cs && (cs.head? = some '-' || isOnlyZeros '+' cs)

/-- Whether the text is an unsigned integer whose nearest floating point number is at most `max`. -/
def isUnsignedUpTo (max : Float) (cs : List Char) : Bool :=
  isUnsignedText cs && (Number.readFloat? cs).any fun x => 0.0 ≤ x && x ≤ max

/-- Whether the text is a floating point number, blanks around it aside. -/
def isFloatText (cs : List Char) : Bool :=
  (Number.readFloat? (Text.trim cs)).isSome

/-! ## Built-in types -/

/-- Whether the text is a name that has an owner. -/
def isOwnedName (owners : Owners) (cs : List Char) : Bool :=
  isLocalName cs && (owners (String.ofList cs)).isSome

/-- Whether the text is a value of a built-in type at a node. Types without a test of their own have
no values. -/
def Builtin.accepts (t : Builtin) (owners : Owners) (node : Handle) (cs : List Char) : Bool :=
  match t with
  | anyType | anySimpleType | string => true
  | anyUri => isAddress cs
  | boolean => ["true", "false", "1", "0"].contains (String.ofList cs)
  | decimal => isDecimalText cs
  | double | float => isFloatText cs
  | integer => isIntegerText cs
  | long => isIntegerWithin (-0x8000000000000000) 0x7FFFFFFFFFFFFFFF cs
  | int => isIntegerWithin (-0x80000000) 0x7FFFFFFF cs
  | short => isIntegerWithin (-0x8000) 0x7FFF cs
  | byte => isIntegerWithin (-0x80) 0x7F cs
  | nonNegativeInteger => isUnsignedText cs
  | positiveInteger => isUnsignedText cs && !isOnlyZeros '+' cs
  | nonPositiveInteger => isNonPositiveText cs
  | negativeInteger => isNonPositiveText cs && !isOnlyZeros '-' cs
  | unsignedLong => isUnsignedUpTo 18446744073709551615.0 cs
  | unsignedInt => isUnsignedUpTo 4294967295.0 cs
  | unsignedShort => isUnsignedUpTo 65535.0 cs
  | unsignedByte => isUnsignedUpTo 255.0 cs
  | normalizedString => !hasBreak cs
  | token => isTokenText cs
  | nameToken => isNameToken cs
  | nameTokens => (listParts cs).all isNameToken
  | localName => isLocalName cs
  | id => isLocalName cs && owners (String.ofList cs) = some node
  | idRef => isOwnedName owners cs
  | idRefs => (listParts cs).all (isOwnedName owners)
  | _ => false

/-- Whether the text is a value of the type of a name; an unknown type has no values. -/
def acceptsType (typeName : String) (owners : Owners) (node : Handle) (value : String) : Bool :=
  (Builtin.named? typeName).any fun t => t.accepts owners node value.toList

/-! ## Facets -/

/-- The count that a facet of lengths asks for. -/
def lengthOf? (facet : String) : Option Nat :=
  Number.readNat? Number.maxWord64 (facet.toList.dropWhile (· = '+'))
    |>.filter fun _ => isUnsignedText facet.toList

/-- The text of a pattern facet as a pattern of the whole value. Name characters have a class of
their own in facets. -/
def facetPattern? (facet : String) : Option Pattern :=
  let body := Text.replaceAll "\\c+".toList "[^\\s,]+".toList facet.toList
  Pattern.read? ("^(?:".toList ++ body ++ ")$".toList)

/-- Whether the value obeys a facet on white space. Strings obey every one. -/
def obeysWhiteSpace (base : Builtin) (facet : String) (cs : List Char) : Bool :=
  if facet = "preserve" || base = .string then true
  else if facet = "replace" then !hasBreak cs
  else if facet = "collapse" || !base.derivesFrom .string then
    !Text.hasPiece [' ', ' '] cs && Text.trim cs = cs
  else false

/-- Whether the value and the facet are numbers in the given relation. -/
def obeysBound (holds : Float → Float → Bool) (facet : String) (cs : List Char) : Bool :=
  match Number.readFloat? (Text.trim cs), Number.readFloat? (Text.trim facet.toList) with
  | some x, some y => holds x y
  | _, _ => false

/-- Whether the value is a finite number whose shortest decimal has as many digits, counted by
`count`, as the facet says. -/
def obeysDigits (count : Nat × Nat → Nat) (facet : String) (cs : List Char) : Bool :=
  match Number.readFloat? (Text.trim cs),
      Number.readNat? Number.maxWord64 (Text.trim facet.toList) with
  | some x, some n => x.isFinite && count (Number.digitCounts x) = n
  | _, _ => false

/-- Whether the value obeys a facet of a type. -/
def obeysFacet (base : Builtin) (f : Facet) (facet : String) (cs : List Char) : Bool :=
  match f with
  | .length => (lengthOf? facet).any (cs.length = ·)
  | .minLength => (lengthOf? facet).any (· ≤ cs.length)
  | .maxLength => (lengthOf? facet).any (cs.length ≤ ·)
  | .pattern => (facetPattern? facet).any (·.matchesIn (String.ofList cs))
  | .whiteSpace => obeysWhiteSpace base facet cs
  | .maxInclusive => obeysBound (fun x y => x ≤ y) facet cs
  | .maxExclusive => obeysBound (fun x y => x < y) facet cs
  | .minExclusive => obeysBound (fun x y => x > y) facet cs
  | .minInclusive => obeysBound (fun x y => x ≥ y) facet cs
  | .totalDigits => obeysDigits (fun n => n.1 + n.2) facet cs
  | .fractionDigits => obeysDigits (fun n => n.2) facet cs

/-- Whether the value obeys every facet of a restriction; a restriction of an unknown type holds of
no value. -/
def Restriction.accepts (r : Restriction) (value : String) : Bool :=
  match Builtin.named? r.base with
  | none => false
  | some base =>
    (r.enumeration.isEmpty || r.enumeration.contains value) &&
      Facet.all.all fun f => (r.get? f).all fun facet => obeysFacet base f facet value.toList

/-- Whether the value is valid for a type, which has to be there, and a restriction, which may be
there. -/
def isValid (typeName : Option String) (restriction : Option Restriction) (owners : Owners)
    (node : Handle) (value : String) : Bool :=
  typeName.any (fun t => acceptsType t owners node value) && restriction.all (·.accepts value)

end GuidedXml.Schema
