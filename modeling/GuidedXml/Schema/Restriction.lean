/-
# Restrictions

A restriction narrows a built-in type by facets, which stay as they are written in the schema.

The main statements say how `get?` sees a facet that is set and restrictions that are merged: a
facet of the derived restriction wins over that of its base.
-/
import GuidedXml.Table

namespace GuidedXml.Schema

/-- The facets that have one value. -/
inductive Facet where
  | length | minLength | maxLength | pattern | whiteSpace
  | minInclusive | maxInclusive | minExclusive | maxExclusive
  | totalDigits | fractionDigits
  deriving DecidableEq, Repr

namespace Facet

/-- All facets that have one value. -/
def all : List Facet :=
  [length, minLength, maxLength, pattern, whiteSpace, minInclusive, maxInclusive, minExclusive,
   maxExclusive, totalDigits, fractionDigits]

/-- The name of a facet in schemas. -/
def name : Facet → String
  | length => "length"
  | minLength => "minLength"
  | maxLength => "maxLength"
  | pattern => "pattern"
  | whiteSpace => "whiteSpace"
  | minInclusive => "minInclusive"
  | maxInclusive => "maxInclusive"
  | minExclusive => "minExclusive"
  | maxExclusive => "maxExclusive"
  | totalDigits => "totalDigits"
  | fractionDigits => "fractionDigits"

/-- The facet of a name. -/
def named? (n : String) : Option Facet :=
  all.find? fun f => f.name = n

/-- Every facet is found by its name. -/
@[simp] theorem named?_name (f : Facet) : named? f.name = some f := by
  cases f <;> decide

end Facet

/-- A type restricted by facets. -/
structure Restriction where
  /-- The name of the restricted type. -/
  base : String
  /-- The allowed values, if there are any. -/
  enumeration : List String := []
  /-- The facets that have one value. -/
  facets : Table Facet String := {}
  deriving Repr

namespace Restriction

/-- The value of a facet. -/
def get? (r : Restriction) (f : Facet) : Option String :=
  r.facets.get? f

/-- The restriction with one more facet, given by its name, if there is a facet of that name. Only
enumerations collect values; any other facet takes the last one. -/
def set? (r : Restriction) (name value : String) : Option Restriction :=
  if name = "enumeration" then some { r with enumeration := r.enumeration ++ [value] }
  else (Facet.named? name).map fun f => { r with facets := r.facets.insert f value }

/-- The restriction with facets set one after the other; names of no facet are passed over. -/
def setAll (r : Restriction) (fs : List (String × String)) : Restriction :=
  fs.foldl (fun r f => (r.set? f.1 f.2).getD r) r

/-- The facets of a restriction laid over those of the restriction that it derives from. -/
def overlay (base derived : Restriction) : Restriction where
  base := base.base
  enumeration := if derived.enumeration.isEmpty then base.enumeration else derived.enumeration
  facets := derived.facets.entries.foldl (fun t e => t.insert e.1 e.2) base.facets

/-- Setting a facet gives it its value and leaves the others alone. -/
theorem get?_set? (r : Restriction) (f g : Facet) (v : String) :
    (r.set? f.name v).map (·.get? g) = some (if g = f then some v else r.get? g) := by
  have h : f.name ≠ "enumeration" := by cases f <;> decide
  simp [set?, h, get?, Table.get?_insert]

end Restriction

end GuidedXml.Schema
