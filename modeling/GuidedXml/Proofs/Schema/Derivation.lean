/-
# Chains of simple types

A simple type may restrict another one that restricts another one, and so on down to a built-in
type. What is declared with the type at the end of such a chain has the built-in type, restricted by
the facets of the whole chain.

The main statement says so for chains of any length, and that nothing in a chain stops a content
model from being built.
-/
import GuidedXml.Proofs.Schema.Facets
import GuidedXml.Proofs.Schema.NamedTypes

namespace GuidedXml.Schema

open ContentModel (root)

variable {schema : Tree} {base base' : Builtin} {name : String} {steps steps' : List Tree}

/-! ## Global declarations -/

/-- The global declarations of one kind and one name, in order. -/
def declarationsOf (schema : Tree) (kind name : String) : List Tree :=
  schema.elements.filter fun t => localNameOf t = kind ∧ t.attribute? "name" = some name

section Find

variable {table : Definitions → Table String Tree} {kind : String}
  (hadd : ∀ d n t, table (Definitions.add d n t) =
    if localNameOf t = kind then (table d).insert n t else table d)

include hadd

/-- Of declarations of one kind and one name the last one counts, and else what was there before. -/
theorem get?_foldl {step : Definitions → Tree → Definitions}
    (hnone : ∀ d t, t.attribute? "name" = none → step d t = d)
    (hsome : ∀ d t n, t.attribute? "name" = some n → step d t = d.add n t) (ts : List Tree)
    (d : Definitions) (name : String) :
    (table (ts.foldl step d)).get? name =
      (ts.filter fun t => localNameOf t = kind ∧ t.attribute? "name" = some name).getLast?.or
        ((table d).get? name) := by
  induction ts generalizing d with
  | nil => rfl
  | cons t ts ih =>
    rw [List.foldl_cons, ih, List.filter_cons]
    cases hn : t.attribute? "name" with
    | none => simp [hnone d t hn]
    | some n =>
      rw [hsome d t n hn, hadd]
      by_cases ht : localNameOf t = kind ∧ n = name
      · obtain ⟨hkind, rfl⟩ := ht
        rw [if_pos hkind, if_pos (by simp [hkind]), Table.get?_insert_self, List.getLast?_cons]
        cases (ts.filter _).getLast? <;> rfl
      · have hother : ¬(decide (localNameOf t = kind ∧ some n = some name) = true) := by
          simpa using ht
        rw [if_neg hother]
        refine congrArg (Option.or _) ?_
        split_ifs with hkind
        · rw [Table.get?_insert, if_neg fun heq => ht ⟨hkind, heq.symm⟩]
        · rfl

/-- Of the global declarations of one kind and one name the last one is found. -/
theorem get?_ofSchema (hempty : table {} = {}) (schema : Tree) (name : String) :
    (table (Definitions.ofSchema schema)).get? name =
      (declarationsOf schema kind name).getLast? := by
  refine (get?_foldl hadd (fun d t hn => by rw [hn]) (fun d t n hn => by rw [hn]) _ _ _).trans ?_
  rw [hempty]
  exact Option.or_none ..

end Find

/-- A simple type is looked up as the last one that is declared under its name. -/
theorem simpleTypes_ofSchema (schema : Tree) (name : String) :
    (Definitions.ofSchema schema).simpleTypes.get? name =
      (declarationsOf schema "simpleType" name).getLast? := by
  refine get?_ofSchema (fun d n t => ?_) rfl schema name
  unfold Definitions.add
  split <;> simp_all

/-- A complex type is looked up as the last one that is declared under its name. -/
theorem complexTypes_ofSchema (schema : Tree) (name : String) :
    (Definitions.ofSchema schema).complexTypes.get? name =
      (declarationsOf schema "complexType" name).getLast? := by
  refine get?_ofSchema (fun d n t => ?_) rfl schema name
  unfold Definitions.add
  split <;> simp_all

/-! ## Chains -/

/-- A global simple type that is the only type of its name. -/
structure IsOnlyType (schema : Tree) (name : String) (t : Tree) : Prop where
  declared : declarationsOf schema "simpleType" name = [t]
  no_complex : declarationsOf schema "complexType" name = []
  not_builtin : Builtin.named? name = none

namespace IsOnlyType

variable {t t' : Tree}

/-- The only type of a name is found as simple type. -/
theorem get?_simpleTypes (h : IsOnlyType schema name t) :
    (Definitions.ofSchema schema).simpleTypes.get? name = some t := by
  rw [simpleTypes_ofSchema, h.declared]
  rfl

/-- No complex type has the name. -/
theorem get?_complexTypes (h : IsOnlyType schema name t) :
    (Definitions.ofSchema schema).complexTypes.get? name = none := by
  rw [complexTypes_ofSchema, h.no_complex]
  rfl

/-- A name has one only type at most. -/
theorem unique (h : IsOnlyType schema name t) (h' : IsOnlyType schema name t') : t = t' :=
  List.singleton_inj.mp (h.declared.symm.trans h'.declared)

end IsOnlyType

/-- The simple type of a name restricts a built-in type by way of others: its own restriction comes
first, the one that names the built-in type last. -/
inductive Chain (schema : Tree) (base : Builtin) : String → List Tree → Prop
  | first {name baseRef : String} {t r : Tree} :
      IsOnlyType schema name t → child? t "restriction" = some r →
      r.attribute? "base" = some baseRef →
      Builtin.named? (Builtin.unprefixed baseRef) = some base → Chain schema base name [r]
  | next {name baseRef : String} {t r : Tree} {steps : List Tree} :
      IsOnlyType schema name t → child? t "restriction" = some r →
      r.attribute? "base" = some baseRef → Chain schema base (Builtin.unprefixed baseRef) steps →
      Chain schema base name (r :: steps)

namespace Chain

/-- The name at the end of a chain has an only type. -/
theorem exists_isOnlyType (h : Chain schema base name steps) : ∃ t, IsOnlyType schema name t := by
  cases h with
  | first ht => exact ⟨_, ht⟩
  | next ht => exact ⟨_, ht⟩

/-- The restrictions of a chain are told by the name that it starts with. -/
theorem unique (h : Chain schema base name steps) (h' : Chain schema base name steps') :
    steps = steps' := by
  induction h generalizing steps' with
  | first ht hr hb hbase =>
    cases h' with
    | first ht' hr' =>
      obtain rfl := ht.unique ht'
      obtain rfl := Option.some.inj (hr.symm.trans hr')
      rfl
    | next ht' hr' hb' h' =>
      obtain rfl := ht.unique ht'
      obtain rfl := Option.some.inj (hr.symm.trans hr')
      obtain rfl := Option.some.inj (hb.symm.trans hb')
      obtain ⟨t, hbelow⟩ := h'.exists_isOnlyType
      simp [hbelow.not_builtin] at hbase
  | next ht hr hb h ih =>
    cases h' with
    | first ht' hr' hb' hbase' =>
      obtain rfl := ht.unique ht'
      obtain rfl := Option.some.inj (hr.symm.trans hr')
      obtain rfl := Option.some.inj (hb.symm.trans hb')
      obtain ⟨t, hbelow⟩ := h.exists_isOnlyType
      simp [hbelow.not_builtin] at hbase'
    | next ht' hr' hb' h' =>
      obtain rfl := ht.unique ht'
      obtain rfl := Option.some.inj (hr.symm.trans hr')
      obtain rfl := Option.some.inj (hb.symm.trans hb')
      rw [ih h']

/-- A chain stands for its built-in type, restricted by all of its facets. -/
theorem resolves (h : Chain schema base name steps) :
    ∃ s r, Resolves (Definitions.ofSchema schema) (.name name) s ∧ s.base = base ∧
      s.restriction = some r ∧ Overlaid base steps r := by
  induction h with
  | first ht hr hb hbase =>
    exact ⟨_, _, .declared ht.not_builtin ht.get?_simpleTypes (.restricted hr hb (.builtin hbase)),
      rfl, rfl, .single base _⟩
  | next ht hr hb _ ih =>
    obtain ⟨s, inherited, hs, rfl, hinherited, hoverlaid⟩ := ih
    refine ⟨_, _, .declared ht.not_builtin ht.get?_simpleTypes (.restricted hr hb hs), rfl, ?_,
      hoverlaid.cons _⟩
    rw [SimpleType.restrict, hinherited]
    rfl

/-! ## Following a chain -/

/-- A key that is free can be entered. -/
theorem enter_of_mem {k : Key} {free : List Key} (hk : k ∈ free) :
    ∃ rest, enter k free = .ok rest := by
  rw [enter, dif_pos hk]
  exact ⟨_, rfl⟩

/-- A chain can be followed as long as no type of it is being followed: a chain does not come back
to a name, since what follows a name is always of the same length. -/
theorem exists_simpleNamed (h : Chain schema base name steps) {free : List Key}
    (hfree : ∀ n steps', Chain schema base n steps' → steps'.length ≤ steps.length →
      .type n ∈ free) : ∃ s, simpleNamed (Definitions.ofSchema schema) free name = .ok s := by
  induction h generalizing free with
  | @first name baseRef t r ht hr hb hbase =>
    obtain ⟨⟨rest, hlt⟩, henter⟩ := enter_of_mem
      (hfree name [r] (.first ht hr hb hbase) (Nat.le_refl _))
    refine ⟨({ base := base } : SimpleType).restrict r, ?_⟩
    rw [simpleNamed, ht.not_builtin, ht.get?_simpleTypes, henter]
    dsimp only
    rw [simpleType_def, hr]
    dsimp only
    rw [hb]
    dsimp only
    rw [simpleNamed, hbase]
    rfl
  | @next name baseRef t r steps ht hr hb h ih =>
    have hchain : Chain schema base name (r :: steps) := .next ht hr hb h
    obtain ⟨rest, henter⟩ := enter_of_mem (hfree name (r :: steps) hchain (Nat.le_refl _))
    -- the keys of shorter chains are still free, since none of them is the one entered
    have hrest : ∀ n steps', Chain schema base n steps' → steps'.length ≤ steps.length →
        .type n ∈ rest.val := by
      intro n steps' hn hle
      refine (mem_of_enter henter).mpr ⟨hfree n steps' hn (Nat.le_succ_of_le hle), ?_⟩
      rintro heq
      obtain rfl := Key.type.inj heq
      rw [hn.unique hchain] at hle
      exact Nat.not_succ_le_self _ hle
    obtain ⟨s, hs⟩ := ih hrest
    obtain ⟨rest, hlt⟩ := rest
    refine ⟨s.restrict r, ?_⟩
    rw [simpleNamed, ht.not_builtin, ht.get?_simpleTypes, henter]
    dsimp only
    rw [simpleType_def, hr]
    dsimp only
    rw [hb]
    dsimp only
    rw [hs]
    rfl

/-- A chain can be followed as long as no simple type is being followed. -/
theorem exists_of_free (h : Chain schema base name steps) {free : List Key}
    (hfree : ∀ n t, IsOnlyType schema n t → .type n ∈ free) :
    ∃ s, simpleNamed (Definitions.ofSchema schema) free name = .ok s := by
  refine h.exists_simpleNamed fun n steps' hn _ => ?_
  obtain ⟨t, ht⟩ := hn.exists_isOnlyType
  exact hfree n t ht

/-- A global element of a type at the end of a chain has a content model. -/
theorem exists_contentModel (h : Chain schema base name steps) {rootName : String} {decl : Tree}
    (hdecl : (Definitions.ofSchema schema).elements.get? rootName = some decl)
    (htype : IsOfType decl name) :
    ∃ m, (Definitions.ofSchema schema).contentModel rootName = .ok m := by
  obtain ⟨t, ht⟩ := h.exists_isOnlyType
  obtain ⟨typeRef, htype, rfl⟩ := htype
  have hfree : ∀ n t, IsOnlyType schema n t →
      .type n ∈ (Definitions.ofSchema schema).keys.filter (· ≠ .element rootName) := by
    intro n t ht
    refine List.mem_filter.mpr ⟨?_, by simp⟩
    exact mem_keys_iff.mpr (.inr (Table.mem_keys_of_get? ht.get?_simpleTypes))
  obtain ⟨s, hs⟩ := h.exists_of_free hfree
  have hparts : elementParts (Definitions.ofSchema schema)
      ((Definitions.ofSchema schema).keys.filter (· ≠ .element rootName)) decl =
        .ok [.simple s] := by
    rw [elementParts_def, htype]
    dsimp only
    rw [ht.get?_complexTypes]
    dsimp only
    rw [hs]
    rfl
  rw [Definitions.contentModel, hdecl]
  dsimp only
  rw [hparts]
  exact ⟨_, rfl⟩

end Chain

/-! ## Content models -/

/-- What is declared with the type at the end of a chain has the built-in type, and of every facet
the value given last in the most derived restriction that gives one. No chain stops a global element
from being expanded, and none stops any other declaration as long as no simple type is being
followed. -/
theorem restricted_of_chain (h : Chain schema base name steps) :
    (∀ free, (∀ n t, IsOnlyType schema n t → .type n ∈ free) →
      ∃ s, simpleNamed (Definitions.ofSchema schema) free name = .ok s) ∧
    (∀ rootName decl, (Definitions.ofSchema schema).elements.get? rootName = some decl →
      IsOfType decl name → ∃ m, (Definitions.ofSchema schema).contentModel rootName = .ok m) ∧
    ∀ rootName m i decl, (Definitions.ofSchema schema).contentModel rootName = .ok m →
      m.kind? i = some .element ∨ m.kind? i = some .attribute →
      DeclaredBy (Definitions.ofSchema schema) rootName i decl → IsOfType decl name →
      ∃ c r, m.constraint? i = some c ∧ c.typeName = some base.name ∧ c.restriction = some r ∧
        Overlaid base steps r := by
  refine ⟨fun free => h.exists_of_free, fun rootName decl => h.exists_contentModel, ?_⟩
  intro rootName m i decl hmodel hi hdecl htype
  obtain ⟨t, ht⟩ := h.exists_isOnlyType
  obtain ⟨c, s, hconstraint, hs, htypeName, hrestriction⟩ :=
    constraint?_of_simpleType hmodel hi hdecl htype ht.get?_complexTypes
  obtain ⟨s', r, hs', rfl, hr, hoverlaid⟩ := h.resolves
  obtain rfl := hs.unique hs'
  exact ⟨c, r, hconstraint, htypeName, hrestriction.trans hr, hoverlaid⟩

/-- A facet with its value. -/
def facetElement (name value : String) : Tree :=
  .node .element name "" [("value", value)] []

/-- The restriction of a code to capital letters, at most eight of them. -/
def codeRestriction : Tree :=
  .node .element "restriction" "" [("base", "xs:string")]
    [facetElement "pattern" "[A-Z]+", facetElement "maxLength" "8"]

/-- The restriction of a short code to one of two codes. -/
def shortCodeRestriction : Tree :=
  .node .element "restriction" "" [("base", "Code")]
    [facetElement "maxLength" "3", facetElement "maxLength" "2",
      facetElement "enumeration" "DE", facetElement "enumeration" "AT"]

/-- The simple type of a name and a restriction. -/
def simpleTypeOf (name : String) (restriction : Tree) : Tree :=
  .node .element "simpleType" "" [("name", name)] [restriction]

/-- The declaration of an element that holds a short code. -/
def codeDeclaration : Tree :=
  .node .element "element" "" [("name", "code"), ("type", "ShortCode")] []

/-- A schema with two simple types, the second one restricting the first one. -/
def codeSchema : Tree :=
  .node .element "schema" "" [] [simpleTypeOf "Code" codeRestriction,
    simpleTypeOf "ShortCode" shortCodeRestriction, codeDeclaration]

/-- The short code is two steps from strings. -/
theorem chain_shortCode :
    Chain codeSchema .string "ShortCode" [shortCodeRestriction, codeRestriction] := by
  have hcode : IsOnlyType codeSchema "Code" (simpleTypeOf "Code" codeRestriction) :=
    ⟨by cbv, by cbv, by cbv⟩
  have hshort : IsOnlyType codeSchema "ShortCode" (simpleTypeOf "ShortCode" shortCodeRestriction) :=
    ⟨by cbv, by cbv, by cbv⟩
  have hbase : codeRestriction.attribute? "base" = some "xs:string" := by cbv
  have hshortBase : shortCodeRestriction.attribute? "base" = some "Code" := by cbv
  have hname : Builtin.unprefixed "Code" = "Code" := by cbv
  refine .next hshort (by cbv) hshortBase ?_
  rw [hname]
  exact .first hcode (by cbv) hbase (by cbv)

/-- A short code is a string of at most two capital letters, one of two codes. -/
theorem code_restricted : ∃ m c r, (Definitions.ofSchema codeSchema).contentModel "code" = .ok m ∧
    m.constraint? root = some c ∧ c.typeName = some "string" ∧ c.restriction = some r ∧
    r.get? .maxLength = some "2" ∧ r.get? .pattern = some "[A-Z]+" ∧ r.get? .length = none ∧
    r.enumeration = ["DE", "AT"] := by
  have hdecl : (Definitions.ofSchema codeSchema).elements.get? "code" = some codeDeclaration := by
    cbv
  have htype : IsOfType codeDeclaration "ShortCode" := ⟨"ShortCode", by cbv, by cbv⟩
  obtain ⟨m, hm⟩ := (restricted_of_chain chain_shortCode).2.1 "code" codeDeclaration hdecl htype
  obtain ⟨c, r, hconstraint, htypeName, hr, hoverlaid⟩ :=
    (restricted_of_chain chain_shortCode).2.2 "code" m root codeDeclaration hm
      (.inl (kind?_root hm)) (declaredBy_root hm hdecl) htype
  refine ⟨m, c, r, hm, hconstraint, htypeName, hr, ?_, ?_, ?_, ?_⟩
  · rw [hoverlaid.get?_eq]
    cbv
  · rw [hoverlaid.get?_eq]
    cbv
  · rw [hoverlaid.get?_eq]
    cbv
  · rw [hoverlaid.enumeration_eq]
    cbv

end GuidedXml.Schema
