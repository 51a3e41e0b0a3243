/-
# Facets along a derivation

A restriction gives facets, several of them maybe more than once. Where one simple type restricts
another one, the facets that are nearer to the type that is used hide those that are farther away:
a facet that has one value keeps the one given last, and enumerations replace each other as a whole.

The main statements say what the facets of one restriction are and what they are after further
restrictions.
-/
import GuidedXml.Proofs.Schema.Resolving
import GuidedXml.Proofs.Table

namespace GuidedXml.Schema

/-- The values that a restriction gives for the facets of a name, in order. -/
def valuesOf (step : Tree) (facet : String) : List String :=
  (step.elements.filter fun c => localNameOf c = facet).map fun c => (c.attribute? "value").getD ""

/-! ## Setting facets -/

namespace Facet

/-- A facet is found by its own name. -/
theorem name_of_named? {n : String} {f : Facet} (h : named? n = some f) : f.name = n := by
  simpa using List.find?_some h

end Facet

namespace Restriction

variable {r : Restriction} {f : Facet}

/-- Setting a facet changes the value of that facet only. -/
theorem get?_set (r : Restriction) (f : Facet) (name value : String) :
    ((r.set? name value).getD r).get? f = if name = f.name then some value else r.get? f := by
  by_cases hname : name = f.name
  · have hset := get?_set? r f f value
    rw [if_pos rfl] at hset
    obtain ⟨r', hr', hget⟩ := Option.map_eq_some_iff.mp hset
    rw [hname, hr', if_pos rfl, Option.getD_some, hget]
  · rw [if_neg hname, set?]
    split_ifs with he
    · rfl
    · cases hnamed : Facet.named? name with
      | none => rfl
      | some g =>
        have hg : f ≠ g := by
          rintro rfl
          exact hname (Facet.name_of_named? hnamed).symm
        simp [get?, Table.get?_insert, hg]

/-- Setting adds to the enumeration exactly if that is the facet's name. -/
theorem enumeration_set (r : Restriction) (name value : String) :
    ((r.set? name value).getD r).enumeration =
      if name = "enumeration" then r.enumeration ++ [value] else r.enumeration := by
  rw [set?]
  split_ifs
  · rfl
  · cases Facet.named? name <;> rfl

/-- A facet that has one value takes the last one that it is given. -/
theorem get?_setAll (r : Restriction) (f : Facet) (fs : List (String × String)) :
    (r.setAll fs).get? f =
      ((fs.filter fun x => x.1 = f.name).map Prod.snd).getLast?.or (r.get? f) := by
  rw [setAll]
  induction fs generalizing r with
  | nil => rfl
  | cons x fs ih =>
    rw [List.foldl_cons, ih, get?_set, List.filter_cons]
    by_cases hx : x.1 = f.name
    · rw [if_pos hx, if_pos (by simpa using hx), List.map_cons, List.getLast?_cons]
      cases ((fs.filter fun x => x.1 = f.name).map Prod.snd).getLast? <;> rfl
    · rw [if_neg hx, if_neg (by simpa using hx)]

/-- Values of an enumeration are collected in order. -/
theorem enumeration_setAll (r : Restriction) (fs : List (String × String)) :
    (r.setAll fs).enumeration =
      r.enumeration ++ (fs.filter fun x => x.1 = "enumeration").map Prod.snd := by
  rw [setAll]
  induction fs generalizing r with
  | nil => exact (List.append_nil _).symm
  | cons x fs ih =>
    rw [List.foldl_cons, ih, enumeration_set, List.filter_cons]
    by_cases hx : x.1 = "enumeration"
    · rw [if_pos hx, if_pos (by simpa using hx), List.map_cons, List.append_assoc]
      rfl
    · rw [if_neg hx, if_neg (by simpa using hx)]

/-- No facet has two values. -/
theorem nodup_set (hr : r.facets.keys.Nodup) (name value : String) :
    ((r.set? name value).getD r).facets.keys.Nodup := by
  rw [set?]
  split_ifs
  · exact hr
  · cases Facet.named? name with
    | none => exact hr
    | some f => exact Table.nodup_keys_write hr

/-- Every facet stands in the table once. -/
theorem nodup_setAll (hr : r.facets.keys.Nodup) (fs : List (String × String)) :
    (r.setAll fs).facets.keys.Nodup := by
  rw [setAll]
  induction fs generalizing r with
  | nil => exact hr
  | cons x fs ih => exact ih (nodup_set hr x.1 x.2)

/-- A facet laid over others hides theirs. -/
theorem get?_overlay (base : Restriction) {derived : Restriction}
    (hnd : derived.facets.keys.Nodup) (f : Facet) :
    (base.overlay derived).get? f = (derived.get? f).or (base.get? f) :=
  Table.get?_foldl_insert hnd base.facets f

end Restriction

/-! ## The facets of one restriction -/

/-- The names of what is no facet inside of a restriction. -/
def otherNames : List String :=
  ["annotation", "simpleType", "attribute", "attributeGroup"]

/-- What is no facet inside of a restriction has no say in facets of other names. -/
theorem values_facetsOf (t : Tree) {facet : String} (hfacet : facet ∉ otherNames) :
    ((((t.elements.filter fun c => !otherNames.contains (localNameOf c)).map
        fun c => (localNameOf c, (c.attribute? "value").getD "")).filter
          fun x => x.1 = facet).map Prod.snd) = valuesOf t facet := by
  rw [valuesOf, List.filter_map, List.map_map, List.filter_filter]
  refine congrArg _ (List.filter_congr fun c _ => ?_)
  by_cases hc : localNameOf c = facet
  · simpa [hc] using hfacet
  · simp [hc]

/-- A facet of a restriction has the value that is given last. -/
theorem get?_facetsOf (base : Builtin) (t : Tree) (f : Facet) :
    (facetsOf base t).get? f = (valuesOf t f.name).getLast? := by
  rw [← values_facetsOf t (by cases f <;> decide)]
  exact (Restriction.get?_setAll _ f _).trans (Option.or_none ..)

/-- The enumeration of a restriction has all its values, in order. -/
theorem enumeration_facetsOf (base : Builtin) (t : Tree) :
    (facetsOf base t).enumeration = valuesOf t "enumeration" := by
  rw [← values_facetsOf t (by decide)]
  exact Restriction.enumeration_setAll _ _

/-- No facet of a restriction has two values. -/
theorem nodup_facetsOf (base : Builtin) (t : Tree) : (facetsOf base t).facets.keys.Nodup :=
  Restriction.nodup_setAll
    (show ({ base := base.name } : Restriction).facets.keys.Nodup from List.nodup_nil) _

/-! ## The facets of many restrictions -/

/-- The restriction of a built-in type by several restrictions, of which the first one is the most
derived: of every facet it has the value given last in the first restriction that gives one, and it
has all values of the first enumeration that there is. -/
structure Overlaid (base : Builtin) (steps : List Tree) (r : Restriction) : Prop where
  base_eq : r.base = base.name
  get?_eq : ∀ f : Facet, r.get? f = steps.findSome? fun t => (valuesOf t f.name).getLast?
  enumeration_eq : r.enumeration =
    ((steps.map fun t => valuesOf t "enumeration").find? (· ≠ [])).getD []

namespace Overlaid

variable {base : Builtin} {steps : List Tree} {r : Restriction}

/-- One step overlays nothing but its own facets. -/
theorem single (base : Builtin) (t : Tree) : Overlaid base [t] (facetsOf base t) where
  base_eq := base_setAll _ _
  get?_eq f := by
    rw [get?_facetsOf, List.findSome?_cons]
    cases (valuesOf t f.name).getLast? <;> rfl
  enumeration_eq := by
    rw [enumeration_facetsOf, List.map_singleton, List.find?_singleton]
    cases valuesOf t "enumeration" <;> rfl

/-- A further restriction hides what it gives anew. -/
theorem cons (h : Overlaid base steps r) (t : Tree) :
    Overlaid base (t :: steps) (r.overlay (facetsOf base t)) where
  base_eq := h.base_eq
  get?_eq f := by
    rw [Restriction.get?_overlay r (nodup_facetsOf base t), get?_facetsOf, h.get?_eq,
      List.findSome?_cons]
    cases (valuesOf t f.name).getLast? <;> rfl
  enumeration_eq := by
    show (if (facetsOf base t).enumeration.isEmpty then _ else _) = _
    rw [enumeration_facetsOf, h.enumeration_eq, List.map_cons, List.find?_cons]
    cases valuesOf t "enumeration" <;> rfl

end Overlaid

end GuidedXml.Schema
