/-
# Declared types with the names of built-in types

Prefixes are left out of account where a type is looked up, and built-in types go first. So a simple
type that a schema declares under the name of a built-in type is never found, while a complex type
of such a name is.

The main statement says that this is the only case in which what is declared with a simple type is
built with another one.
-/
import GuidedXml.Proofs.Schema.Derivation

namespace GuidedXml.Schema

open ContentModel (root)

/-- A simple type that restricts a built-in type can be resolved as long as no simple type is being
followed. What is declared with it is built with that built-in type and with the facets of the
restriction, if and only if the simple type has not the name of a built-in type itself. -/
theorem restricted_as_declared_iff {schema t r : Tree} {name baseRef : String} {base : Builtin}
    (ht : declarationsOf schema "simpleType" name = [t])
    (hcomplex : declarationsOf schema "complexType" name = [])
    (hr : child? t "restriction" = some r) (hb : r.attribute? "base" = some baseRef)
    (hbase : Builtin.named? (Builtin.unprefixed baseRef) = some base) :
    (∀ free, (∀ n t, IsOnlyType schema n t → .type n ∈ free) →
      ∃ s, simpleNamed (Definitions.ofSchema schema) free name = .ok s) ∧
    ∀ rootName m i decl, (Definitions.ofSchema schema).contentModel rootName = .ok m →
      m.kind? i = some .element ∨ m.kind? i = some .attribute →
      DeclaredBy (Definitions.ofSchema schema) rootName i decl → IsOfType decl name →
      ((∃ c, m.constraint? i = some c ∧ c.typeName = some base.name ∧
        c.restriction = some (facetsOf base r)) ↔ Builtin.named? name = none) := by
  constructor
  · intro free hfree
    cases hbuiltin : Builtin.named? name with
    | none => exact (Chain.first ⟨ht, hcomplex, hbuiltin⟩ hr hb hbase).exists_of_free hfree
    | some shadowing =>
      rw [simpleNamed, hbuiltin]
      exact ⟨_, rfl⟩
  · intro rootName m i decl hm hi hdecl htype
    have hnone : (Definitions.ofSchema schema).complexTypes.get? name = none := by
      rw [complexTypes_ofSchema, hcomplex]
      rfl
    obtain ⟨c, s, hconstraint, hs, htypeName, hrestriction⟩ :=
      constraint?_of_simpleType hm hi hdecl htype hnone
    constructor
    · rintro ⟨c', hconstraint', -, hrestriction'⟩
      obtain rfl := Option.some.inj (hconstraint.symm.trans hconstraint')
      by_contra hbuiltin
      obtain ⟨shadowing, hshadowing⟩ := Option.ne_none_iff_exists'.mp hbuiltin
      -- a built-in type comes without any restriction
      obtain rfl := hs.unique (.builtin hshadowing)
      cases hrestriction.symm.trans hrestriction'
    · intro hbuiltin
      have hfound : (Definitions.ofSchema schema).simpleTypes.get? name = some t := by
        rw [simpleTypes_ofSchema, ht]
        rfl
      obtain rfl := hs.unique (.declared hbuiltin hfound (.restricted hr hb (.builtin hbase)))
      exact ⟨c, hconstraint, htypeName, hrestriction⟩

/-- A restriction to five characters. -/
def shortRestriction : Tree :=
  .node .element "xs:restriction" "" [("base", "xs:string")]
    [.node .element "xs:maxLength" "" [("value", "5")] []]

/-- A simple type of that name for texts of up to five characters. -/
def shortType (name : String) : Tree :=
  .node .element "xs:simpleType" "" [("name", name)] [shortRestriction]

/-- The declaration of a note of the type of that name. -/
def shortNote (name : String) : Tree :=
  .node .element "xs:element" "" [("name", "note"), ("type", name)] []

/-- A schema for notes of up to five characters. -/
def shortSchema (name : String) : Tree :=
  .node .element "xs:schema" "" [] [shortType name, shortNote name]

/-- A note of up to five characters. -/
theorem brief_restricted : ∃ m c,
    (Definitions.ofSchema (shortSchema "Brief")).contentModel "note" = .ok m ∧
    m.constraint? root = some c ∧ c.typeName = some "string" ∧
    c.restriction = some (facetsOf .string shortRestriction) := by
  have hdecl : (Definitions.ofSchema (shortSchema "Brief")).elements.get? "note" =
      some (shortNote "Brief") := by cbv
  have htype : IsOfType (shortNote "Brief") "Brief" := ⟨"Brief", by cbv, by cbv⟩
  have hbrief : IsOnlyType (shortSchema "Brief") "Brief" (shortType "Brief") :=
    ⟨by cbv, by cbv, by cbv⟩
  have hr : child? (shortType "Brief") "restriction" = some shortRestriction := by cbv
  have hb : shortRestriction.attribute? "base" = some "xs:string" := by cbv
  have hbase : Builtin.named? (Builtin.unprefixed "xs:string") = some .string := by cbv
  obtain ⟨m, hm⟩ := (Chain.first hbrief hr hb hbase).exists_contentModel hdecl htype
  obtain ⟨c, hc⟩ := ((restricted_as_declared_iff hbrief.declared hbrief.no_complex hr hb hbase).2
    "note" m root (shortNote "Brief") hm (.inl (kind?_root hm)) (declaredBy_root hm hdecl)
    htype).mpr hbrief.not_builtin
  exact ⟨m, c, hm, hc⟩

/-- A note of a declared type `date` is a date of any length. -/
theorem date_shadowed : ∃ m c,
    (Definitions.ofSchema (shortSchema "date")).contentModel "note" = .ok m ∧
    DeclaredBy (Definitions.ofSchema (shortSchema "date")) "note" root (shortNote "date") ∧
    IsOfType (shortNote "date") "date" ∧ m.constraint? root = some c ∧ c.typeName = some "date" ∧
    c.restriction = none := by
  have hdecl : (Definitions.ofSchema (shortSchema "date")).elements.get? "note" =
      some (shortNote "date") := by cbv
  have hparts : elementParts (Definitions.ofSchema (shortSchema "date"))
      ((Definitions.ofSchema (shortSchema "date")).keys.filter (· ≠ .element "note"))
      (shortNote "date") = .ok [.simple { base := .date }] := by cbv
  obtain ⟨m, hm⟩ : ∃ m, (Definitions.ofSchema (shortSchema "date")).contentModel "note" = .ok m ∧
      ∃ c, m.constraint? root = some c ∧ c.typeName = some "date" ∧ c.restriction = none := by
    rw [Definitions.contentModel, hdecl]
    dsimp only
    rw [hparts]
    exact ⟨_, rfl, _, rfl, rfl, rfl⟩
  obtain ⟨hm, c, hc⟩ := hm
  exact ⟨m, c, hm, declaredBy_root hm hdecl, ⟨"date", by cbv, by cbv⟩, hc⟩

end GuidedXml.Schema
