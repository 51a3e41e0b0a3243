/-
# Built-in types

The predefined simple types of schemas and how they derive from each other.

The main statements say that the name of a type determines it and that derivation is reflexive and
follows the base types.
-/
import GuidedXml.Text.Cut

namespace GuidedXml.Schema

/-- The predefined types. -/
inductive Builtin where
  | anyType | anySimpleType | duration | dateTime | time | date | gYearMonth | gYear | gMonthDay
  | gDay | gMonth | boolean | base64Binary | hexBinary | float | double | anyUri | qualifiedName
  | notationName | string | normalizedString | token | language | fullName | nameToken
  | nameTokens | localName | id | idRef | idRefs | entity | entities | decimal | integer
  | nonPositiveInteger | negativeInteger | long | int | short | byte | nonNegativeInteger
  | positiveInteger | unsignedLong | unsignedInt | unsignedShort | unsignedByte
  deriving DecidableEq, Repr

namespace Builtin

/-! ## Names -/

/-- All types, every one after the type that it derives from. -/
def all : List Builtin :=
  [anyType, anySimpleType, duration, dateTime, time, date, gYearMonth, gYear, gMonthDay, gDay,
   gMonth, boolean, base64Binary, hexBinary, float, double, anyUri, qualifiedName, notationName,
   string, normalizedString, token, language, fullName, nameToken, nameTokens, localName, id,
   idRef, idRefs, entity, entities, decimal, integer, nonPositiveInteger, negativeInteger, long,
   int, short, byte, nonNegativeInteger, positiveInteger, unsignedLong, unsignedInt,
   unsignedShort, unsignedByte]

/-- The name of a type in schemas. -/
def name : Builtin → String
  | anyType => "anyType"
  | anySimpleType => "anySimpleType"
  | duration => "duration"
  | dateTime => "dateTime"
  | time => "time"
  | date => "date"
  | gYearMonth => "gYearMonth"
  | gYear => "gYear"
  | gMonthDay => "gMonthDay"
  | gDay => "gDay"
  | gMonth => "gMonth"
  | boolean => "boolean"
  | base64Binary => "base64Binary"
  | hexBinary => "hexBinary"
  | float => "float"
  | double => "double"
  | anyUri => "anyURI"
  | qualifiedName => "QName"
  | notationName => "NOTATION"
  | string => "string"
  | normalizedString => "normalizedString"
  | token => "token"
  | language => "language"
  | fullName => "Name"
  | nameToken => "NMTOKEN"
  | nameTokens => "NMTOKENS"
  | localName => "NCName"
  | id => "ID"
  | idRef => "IDREF"
  | idRefs => "IDREFS"
  | entity => "ENTITY"
  | entities => "ENTITIES"
  | decimal => "decimal"
  | integer => "integer"
  | nonPositiveInteger => "nonPositiveInteger"
  | negativeInteger => "negativeInteger"
  | long => "long"
  | int => "int"
  | short => "short"
  | byte => "byte"
  | nonNegativeInteger => "nonNegativeInteger"
  | positiveInteger => "positiveInteger"
  | unsignedLong => "unsignedLong"
  | unsignedInt => "unsignedInt"
  | unsignedShort => "unsignedShort"
  | unsignedByte => "unsignedByte"

/-- The part of a name after its last colon. -/
def unprefixed (n : String) : String :=
  String.ofList (Text.afterLast ':' n.toList)

/-- The type of a name, whatever its prefix. -/
def named? (n : String) : Option Builtin :=
  all.find? fun t => t.name = unprefixed n

/-- Every type is found by its name. -/
@[simp] theorem named?_name (t : Builtin) : named? t.name = some t := by
  cases t <;> decide +kernel

/-- A type found has the name that was looked for, the prefix aside. -/
theorem name_of_named? {n : String} {t : Builtin} (h : named? n = some t) : t.name = unprefixed n := by
  simpa using List.find?_some h

/-! ## Derivation -/

/-- The type that a type derives from directly. -/
def base? : Builtin → Option Builtin
  | anyType => none
  | anySimpleType => some anyType
  | duration | dateTime | time | date | gYearMonth | gYear | gMonthDay | gDay | gMonth | boolean
  | base64Binary | hexBinary | float | double | anyUri | qualifiedName | notationName | string
  | decimal => some anySimpleType
  | normalizedString => some string
  | token => some normalizedString
  | language | fullName | nameToken => some token
  | nameTokens => some nameToken
  | localName => some fullName
  | id | idRef | entity => some localName
  | idRefs => some idRef
  | entities => some entity
  | integer => some decimal
  | nonPositiveInteger | long | nonNegativeInteger => some integer
  | negativeInteger => some nonPositiveInteger
  | int => some long
  | short => some int
  | byte => some short
  | positiveInteger | unsignedLong => some nonNegativeInteger
  | unsignedInt => some unsignedLong
  | unsignedShort => some unsignedInt
  | unsignedByte => some unsignedShort

/-- The type and those that it derives from, at most `fuel` of them. -/
def lineageAux : Nat → Builtin → List Builtin
  | 0, _ => []
  | fuel + 1, t => t :: ((base? t).map (lineageAux fuel)).getD []

/-- The type and all types that it derives from, nearest first. -/
def lineage (t : Builtin) : List Builtin :=
  lineageAux all.length t

/-- Whether the type is `ancestor` or derives from it, directly or not. -/
def derivesFrom (t ancestor : Builtin) : Bool :=
  t.lineage.contains ancestor

/-- Every type derives from itself. -/
theorem derivesFrom_self (t : Builtin) : t.derivesFrom t = true := by
  cases t <;> decide

/-- The lineage of a type is the type itself and then the lineage of its base. -/
theorem lineage_eq (t : Builtin) : t.lineage = t :: (t.base?.map lineage).getD [] := by
  cases t <;> decide

end Builtin

end GuidedXml.Schema
