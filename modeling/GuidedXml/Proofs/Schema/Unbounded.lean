/-
# Expansion without a bound

The expansion of declarations as it goes when nothing bounds it: the keys being followed are
remembered, and a key that is followed already is a fault. Such an expansion might never end, so it
is given fuel for nested calls, and it has not ended where there was not enough.

The main statement says that it always ends, with what the bounded expansion gives: the keys of the
schema that are not being followed are the free ones.
-/
import GuidedXml.Schema.Expansion
import GuidedXml.Proofs.Table
import Mathlib.Order.Filter.AtTopBot.Basic

namespace GuidedXml.Schema

open Filter

variable {α β : Type} {d : Definitions} {active free : List Key}

/-! ## The bounded expansion -/

/-- A restriction changes the type that it names, or else the one inside of it; without one a list
is taken as text and a union as anything. -/
theorem simpleType_def (d : Definitions) (free : List Key) (t : Tree) :
    simpleType d free t =
      match child? t "restriction" with
      | none =>
        if (child? t "list").isSome then .ok { base := .string } else .ok { base := .anySimpleType }
      | some r =>
        match r.attribute? "base" with
        | none =>
          match child? r "simpleType" with
          | none => .error (.missingAttribute "base")
          | some inner => (simpleType d free inner).map (·.restrict r)
        | some base => (simpleNamed d free (Builtin.unprefixed base)).map (·.restrict r) := by
  rw [simpleType]
  split
  · rename_i hr
    simp only [hr]
  · rename_i r hr
    simp only [hr]
    split
    · rename_i base hbase
      simp only [hbase]
    · rename_i hbase
      simp only [hbase]
      split
      · rename_i inner hi
        simp only [hi]
      · rename_i hi
        simp only [hi]

/-- An element has the parts of the type that it names, or else of the one inside of it. -/
theorem elementParts_def (d : Definitions) (free : List Key) (decl : Tree) :
    elementParts d free decl =
      match decl.attribute? "type" with
      | some typeRef =>
        match d.complexTypes.get? (Builtin.unprefixed typeRef) with
        | some t =>
          match enter (.type (Builtin.unprefixed typeRef)) free with
          | .error fault => .error fault
          | .ok ⟨rest, _⟩ =>
            (complexParts d rest t.elements).map (.named (Builtin.unprefixed typeRef) :: ·)
        | none =>
          (simpleNamed d free (Builtin.unprefixed typeRef)).map fun s => [.simple s]
      | none =>
        match child? decl "complexType" with
        | some t => complexParts d free t.elements
        | none =>
          match child? decl "simpleType" with
          | none => .ok [.simple { base := .anyType }]
          | some t => (simpleType d free t).map fun s => [.simple s] := by
  rw [elementParts]
  cases decl.attribute? "type" with
  | some typeRef => rfl
  | none =>
    dsimp only
    split
    · rename_i t hc
      simp only [hc]
    · rename_i hc
      simp only [hc]
      cases child? decl "simpleType" <;> rfl

/-! ## Free keys -/

/-- The free keys are the keys of the schema that are not being followed. -/
def Complementary (d : Definitions) (active free : List Key) : Prop :=
  ∀ k, k ∈ free ↔ k ∈ d.keys ∧ k ∉ active

/-- A key of the schema is followed exactly if it is not followed already. -/
theorem Complementary.enter_cases {k : Key} (hf : Complementary d active free) (hk : k ∈ d.keys) :
    (k ∈ active ∧ enter k free = .error (.recursive k)) ∨
      (k ∉ active ∧ ∃ rest, ∃ h : rest.length < free.length,
        enter k free = .ok ⟨rest, h⟩ ∧ Complementary d (k :: active) rest) := by
  by_cases hactive : k ∈ active
  · refine .inl ⟨hactive, ?_⟩
    rw [enter, dif_neg fun hfree => ((hf k).mp hfree).2 hactive]
  · have hfree : k ∈ free := (hf k).mpr ⟨hk, hactive⟩
    refine .inr ⟨hactive, _, _, by rw [enter, dif_pos hfree], fun j => ?_⟩
    simp [hf j, and_assoc, and_comm]

/-- A key is among those of the definitions exactly if something is declared under its name. -/
theorem mem_keys_iff {k : Key} : k ∈ d.keys ↔
    match k with
    | .element name => name ∈ d.elements.keys
    | .type name => name ∈ d.complexTypes.keys ∨ name ∈ d.simpleTypes.keys
    | .group name => name ∈ d.groups.keys
    | .attributeGroup name => name ∈ d.attributeGroups.keys := by
  cases k <;> simp [Definitions.keys]

namespace Unbounded

/-! ## The expansion -/

/-- A computation that may fail, or may not have ended yet. -/
abbrev Run (α : Type) : Type :=
  ExceptT SchemaFault Option α

/-- The computation that has not ended yet. -/
def unended : Run α :=
  ExceptT.mk none

mutual

/-- The simple type of a name. -/
def simpleNamed (d : Definitions) : Nat → List Key → String → Run SimpleType
  | 0, _, _ => unended
  | fuel + 1, active, name =>
    match Builtin.named? name with
    | some t => pure { base := t }
    | none =>
      match d.simpleTypes.get? name with
      | none => throw (.unknownType name)
      | some t =>
        if .type name ∈ active then throw (.recursive (.type name))
        else simpleType d fuel (.type name :: active) t

/-- The simple type of a declaration. -/
def simpleType (d : Definitions) : Nat → List Key → Tree → Run SimpleType
  | 0, _, _ => unended
  | fuel + 1, active, t =>
    match child? t "restriction" with
    | none =>
      if (child? t "list").isSome then pure { base := .string } else pure { base := .anySimpleType }
    | some r =>
      match r.attribute? "base" with
      | some base => do
        let s ← simpleNamed d fuel active (Builtin.unprefixed base)
        return s.restrict r
      | none =>
        match child? r "simpleType" with
        | some inner => do
          let s ← simpleType d fuel active inner
          return s.restrict r
        | none => throw (.missingAttribute "base")

end

/-- The simple type of an attribute declaration. -/
def attributeType (d : Definitions) (fuel : Nat) (active : List Key) (decl : Tree) :
    Run SimpleType :=
  match decl.attribute? "type" with
  | some typeRef => simpleNamed d fuel active (Builtin.unprefixed typeRef)
  | none =>
    match child? decl "simpleType" with
    | some t => simpleType d fuel active t
    | none => pure { base := .anySimpleType }

/-- The parts of an attribute declaration. -/
def attributeParts (d : Definitions) (fuel : Nat) (active : List Key) (decl : Tree) :
    Run (List Part) :=
  if decl.attribute? "use" = some "prohibited" then pure []
  else
    let use := if decl.attribute? "use" = some "required" then Use.required else Use.optional
    match attributeTarget d decl with
    | .error fault => throw fault
    | .ok (name, target) => do
      let s ← attributeType d fuel active target
      return [.attribute (((Constraint.ofAttribute name use).describedBy target).withSimple s)]

mutual

/-- The parts of a reference to a group of attributes. -/
def attributeGroupParts (d : Definitions) : Nat → List Key → Tree → Run (List Part)
  | 0, _, _ => unended
  | fuel + 1, active, reference =>
    match requiredAttribute reference "ref" with
    | .error fault => throw fault
    | .ok ref =>
      let name := Builtin.unprefixed ref
      match d.attributeGroups.get? name with
      | none => throw (.unknownGroup name)
      | some group =>
        if .attributeGroup name ∈ active then throw (.recursive (.attributeGroup name))
        else attributesParts d fuel (.attributeGroup name :: active) group.elements

/-- The parts of all attributes and groups of attributes among declarations. -/
def attributesParts (d : Definitions) : Nat → List Key → List Tree → Run (List Part)
  | 0, _, _ => unended
  | _ + 1, _, [] => pure []
  | fuel + 1, active, t :: ts => do
    let parts ← (match localNameOf t with
      | "attributeGroup" => attributeGroupParts d fuel active t
      | "attribute" => attributeParts d fuel active t
      | _ => pure [])
    let others ← attributesParts d fuel active ts
    return parts ++ others

end

/-- The simple type that a derivation of simple content gives. -/
def derivedSimpleType (d : Definitions) (fuel : Nat) (active : List Key) (derivation : Tree) :
    Run SimpleType :=
  match requiredAttribute derivation "base" with
  | .error fault => throw fault
  | .ok base => do
    let s ← simpleNamed d fuel active (Builtin.unprefixed base)
    return if localNameOf derivation = "restriction" then s.restrict derivation else s

/-- The parts of simple content. -/
def simpleContentParts (d : Definitions) (fuel : Nat) (active : List Key) (content : Tree) :
    Run (List Part) :=
  match content.elements.find? isDerivation with
  | none => pure [.simple { base := .anySimpleType }]
  | some derivation => do
    let s ← derivedSimpleType d fuel active derivation
    let parts ← attributesParts d fuel active derivation.elements
    return .simple s :: parts

mutual

/-- The parts that the type of an element declaration gives. -/
def elementParts (d : Definitions) : Nat → List Key → Tree → Run (List Part)
  | 0, _, _ => unended
  | fuel + 1, active, decl =>
    match decl.attribute? "type" with
    | some typeRef =>
      let name := Builtin.unprefixed typeRef
      match d.complexTypes.get? name with
      | some t =>
        if .type name ∈ active then throw (.recursive (.type name))
        else do
          let parts ← complexParts d fuel (.type name :: active) t.elements
          return .named name :: parts
      | none => do
        let s ← simpleNamed d fuel active name
        return [.simple s]
    | none =>
      match child? decl "complexType" with
      | some t => complexParts d fuel active t.elements
      | none =>
        match child? decl "simpleType" with
        | some t => do
          let s ← simpleType d fuel active t
          return [.simple s]
        | none => pure [.simple { base := .anyType }]

/-- The parts of what is inside a complex type. -/
def complexParts (d : Definitions) : Nat → List Key → List Tree → Run (List Part)
  | 0, _, _ => unended
  | _ + 1, _, [] => pure []
  | fuel + 1, active, t :: ts => do
    let parts ← (match localNameOf t with
      | "simpleContent" => simpleContentParts d fuel active t
      | "complexContent" => derivationParts d fuel active t.elements
      | "sequence" | "all" | "choice" | "group" => particleParts d fuel active t
      | "attribute" => attributeParts d fuel active t
      | "attributeGroup" => attributeGroupParts d fuel active t
      | _ => pure [])
    let others ← complexParts d fuel active ts
    return parts ++ others

/-- The parts of what is inside complex content. -/
def derivationParts (d : Definitions) : Nat → List Key → List Tree → Run (List Part)
  | 0, _, _ => unended
  | _ + 1, _, [] => pure []
  | fuel + 1, active, t :: ts => do
    let parts ←
      (if localNameOf t = "extension" then do
        let parts ← basePartsOf d fuel active t
        let others ← complexParts d fuel active t.elements
        return parts ++ others
      else if localNameOf t = "restriction" then complexParts d fuel active t.elements
      else pure [])
    let others ← derivationParts d fuel active ts
    return parts ++ others

/-- The parts of the complex type that an extension names as its base. -/
def basePartsOf (d : Definitions) : Nat → List Key → Tree → Run (List Part)
  | 0, _, _ => unended
  | fuel + 1, active, derivation =>
    match requiredAttribute derivation "base" with
    | .error fault => throw fault
    | .ok base =>
      let name := Builtin.unprefixed base
      if name = Builtin.anyType.name then pure []
      else match d.complexTypes.get? name with
        | none => throw (.unknownType name)
        | some t =>
          if .type name ∈ active then throw (.recursive (.type name))
          else complexParts d fuel (.type name :: active) t.elements

/-- The parts of a compositor or of a reference to a group. -/
def particleParts (d : Definitions) : Nat → List Key → Tree → Run (List Part)
  | 0, _, _ => unended
  | fuel + 1, active, t =>
    match localNameOf t with
    | "choice" => do
      let parts ← memberParts d fuel active t.elements
      return [.inside (compositor .choice) parts]
    | "sequence" | "all" => do
      let parts ← memberParts d fuel active t.elements
      return [.inside (compositor .sequence) parts]
    | "group" =>
      match requiredAttribute t "ref" with
      | .error fault => throw fault
      | .ok ref =>
        let name := Builtin.unprefixed ref
        match d.groups.get? name with
        | none => throw (.unknownGroup name)
        | some group =>
          if .group name ∈ active then throw (.recursive (.group name))
          else match group.elements.find? isGroupModel with
            | none => pure []
            | some model => particleParts d fuel (.group name :: active) model
    | _ => pure []

/-- The parts of what is inside a compositor. -/
def memberParts (d : Definitions) : Nat → List Key → List Tree → Run (List Part)
  | 0, _, _ => unended
  | _ + 1, _, [] => pure []
  | fuel + 1, active, t :: ts => do
    let parts ← (match localNameOf t with
      | "sequence" | "all" | "choice" | "group" => particleParts d fuel active t
      | "element" => memberElementParts d fuel active t
      | _ => pure [])
    let others ← memberParts d fuel active ts
    return parts ++ others

/-- The parts of an element declaration inside a compositor. -/
def memberElementParts (d : Definitions) : Nat → List Key → Tree → Run (List Part)
  | 0, _, _ => unended
  | fuel + 1, active, decl =>
    match occursOf decl with
    | .error fault => throw fault
    | .ok occurs =>
      match decl.attribute? "ref" with
      | some ref =>
        let name := Builtin.unprefixed ref
        match d.elements.get? name with
        | none => throw (.unknownElement name)
        | some target =>
          if .element name ∈ active then throw (.recursive (.element name))
          else do
            let own := { Constraint.ofElement name occurs with annotation := annotationOf decl }
            let parts ← elementParts d fuel (.element name :: active) target
            return [.inside (own.describedBy target) parts]
      | none =>
        match requiredAttribute decl "name" with
        | .error fault => throw fault
        | .ok name => do
          let parts ← elementParts d fuel active decl
          return [.inside ((Constraint.ofElement name occurs).describedBy decl) parts]

end

/-- The content model of documents whose root is the global element of a name. -/
def contentModel (d : Definitions) (fuel : Nat) (rootName : String) : Run ContentModel :=
  match d.elements.get? rootName with
  | none => throw (.unknownElement rootName)
  | some decl => do
    let rootConstraint := (Constraint.ofElement rootName .once).describedBy decl
    let parts ← elementParts d fuel [.element rootName] decl
    return (ContentModel.ofRoot rootConstraint).growAll ContentModel.root parts

/-! ## Ended computations -/

/-- The computation that ends with a result or a fault. -/
def ended (r : Except SchemaFault α) : Run α :=
  ExceptT.mk (some r)

theorem ended_map (r : Except SchemaFault α) (f : α → β) :
    (do let a ← ended r; return f a) = ended (r.map f) := by
  cases r <;> rfl

/-- Two runs that end put their parts together as the bounded functions do. -/
theorem append_eq {first : Run (List Part)} {first' rest : Except SchemaFault (List Part)}
    (h : first = ended first') :
    (do let parts ← first; let others ← ended rest; return parts ++ others) =
      ended (match first' with
        | .error fault => .error fault
        | .ok parts => rest.map (parts ++ ·)) := by
  rw [h]
  cases first' <;> cases rest <;> rfl

/-- A call takes one unit of fuel. -/
theorem eventually_succ {P : Nat → Prop} (h : ∀ᶠ fuel in atTop, P (fuel + 1)) :
    ∀ᶠ fuel in atTop, P fuel := by
  obtain ⟨enough, henough⟩ := eventually_atTop.mp h
  refine eventually_atTop.mpr ⟨enough + 1, fun fuel hfuel => ?_⟩
  obtain ⟨fuel, rfl⟩ : ∃ n, fuel = n + 1 := ⟨fuel - 1, by omega⟩
  exact henough fuel (by omega)

/-- Following a key is the same with the keys being followed and with the free ones. -/
theorem eventually_follow {k : Key} {run : Nat → Run α} {next : List Key → Except SchemaFault α}
    (hf : Complementary d active free) (hk : k ∈ d.keys)
    (hnext : ∀ rest, rest.length < free.length → Complementary d (k :: active) rest →
      ∀ᶠ fuel in atTop, run fuel = ended (next rest)) :
    ∀ᶠ fuel in atTop, (if k ∈ active then throw (.recursive k) else run fuel) =
      ended (match enter k free with
        | .error fault => .error fault
        | .ok ⟨rest, _⟩ => next rest) := by
  rcases hf.enter_cases hk with ⟨hactive, henter⟩ | ⟨hactive, rest, hlt, henter, hrest⟩
  · rw [henter]
    refine .of_forall fun fuel => ?_
    rw [if_pos hactive]
    rfl
  · rw [henter]
    filter_upwards [hnext rest hlt hrest] with fuel hrun
    rw [if_neg hactive]
    exact hrun

/-! ## Simple types -/

-- the induction is that of the bounded expansion, whose free keys are the measure here
mutual

/-- With fuel enough a name of a simple type is resolved as with the keys that are free. -/
theorem ends_simpleNamed {active free : List Key} (hf : Complementary d active free)
    (name : String) :
    ∀ᶠ fuel in atTop, simpleNamed d fuel active name = ended (Schema.simpleNamed d free name) := by
  refine eventually_succ ?_
  simp only [simpleNamed]
  rw [Schema.simpleNamed]
  cases Builtin.named? name with
  | some t => exact .of_forall fun _ => rfl
  | none =>
    dsimp only
    cases ht : d.simpleTypes.get? name with
    | none => exact .of_forall fun _ => rfl
    | some t =>
      have hk : Key.type name ∈ d.keys := mem_keys_iff.mpr (.inr (Table.mem_keys_of_get? ht))
      exact eventually_follow hf hk fun rest hlt hrest => ends_simpleType hrest t
termination_by (free.length, 0)

/-- A simple type is resolved so. -/
theorem ends_simpleType {active free : List Key} (hf : Complementary d active free) (t : Tree) :
    ∀ᶠ fuel in atTop, simpleType d fuel active t = ended (Schema.simpleType d free t) := by
  refine eventually_succ ?_
  simp only [simpleType]
  rw [simpleType_def]
  cases hr : child? t "restriction" with
  | none =>
    refine .of_forall fun _ => ?_
    dsimp only
    split <;> rfl
  | some r =>
    have := size_lt_of_child? hr
    dsimp only
    cases r.attribute? "base" with
    | some base =>
      filter_upwards [ends_simpleNamed hf (Builtin.unprefixed base)] with fuel hbase
      rw [hbase]
      exact ended_map _ _
    | none =>
      dsimp only
      cases hi : child? r "simpleType" with
      | none => exact .of_forall fun _ => rfl
      | some inner =>
        have := size_lt_of_child? hi
        filter_upwards [ends_simpleType hf inner] with fuel hinner
        rw [hinner]
        exact ended_map _ _
termination_by (free.length, t.size)
decreasing_by
  all_goals
    have := Tree.size_pos t
    exact Prod.Lex.right _ (by omega)

end

/-! ## Attributes -/

/-- The type of an attribute is found so. -/
theorem ends_attributeType (hf : Complementary d active free) (decl : Tree) :
    ∀ᶠ fuel in atTop, attributeType d fuel active decl =
      ended (Schema.attributeType d free decl) := by
  simp only [attributeType]
  rw [Schema.attributeType]
  cases decl.attribute? "type" with
  | some typeRef => exact ends_simpleNamed hf _
  | none =>
    dsimp only
    cases child? decl "simpleType" with
    | some t => exact ends_simpleType hf t
    | none => exact .of_forall fun _ => rfl

/-- An attribute gives its parts so. -/
theorem ends_attributeParts (hf : Complementary d active free) (decl : Tree) :
    ∀ᶠ fuel in atTop, attributeParts d fuel active decl =
      ended (Schema.attributeParts d free decl) := by
  simp only [attributeParts]
  rw [Schema.attributeParts]
  split
  · exact .of_forall fun _ => rfl
  · cases attributeTarget d decl with
    | error fault => exact .of_forall fun _ => rfl
    | ok target =>
      filter_upwards [ends_attributeType hf target.2] with fuel htype
      dsimp only
      rw [htype]
      exact ended_map _ _

mutual

/-- A reference to a group of attributes gives their parts so. -/
theorem ends_attributeGroupParts {active free : List Key} (hf : Complementary d active free)
    (reference : Tree) :
    ∀ᶠ fuel in atTop, attributeGroupParts d fuel active reference =
      ended (Schema.attributeGroupParts d free reference) := by
  refine eventually_succ ?_
  simp only [attributeGroupParts]
  rw [Schema.attributeGroupParts]
  cases requiredAttribute reference "ref" with
  | error fault => exact .of_forall fun _ => rfl
  | ok ref =>
    dsimp only
    cases hg : d.attributeGroups.get? (Builtin.unprefixed ref) with
    | none => exact .of_forall fun _ => rfl
    | some group =>
      have hk : Key.attributeGroup (Builtin.unprefixed ref) ∈ d.keys :=
        mem_keys_iff.mpr (Table.mem_keys_of_get? hg)
      exact eventually_follow hf hk fun rest hlt hrest => ends_attributesParts hrest group.elements
termination_by (free.length, 0)

/-- The attributes among some trees give their parts so. -/
theorem ends_attributesParts {active free : List Key} (hf : Complementary d active free)
    (ts : List Tree) :
    ∀ᶠ fuel in atTop, attributesParts d fuel active ts =
      ended (Schema.attributesParts d free ts) := by
  refine eventually_succ ?_
  cases ts with
  | nil =>
    rw [Schema.attributesParts]
    exact .of_forall fun _ => rfl
  | cons t ts =>
    filter_upwards [ends_attributeParts hf t, ends_attributeGroupParts hf t,
      ends_attributesParts hf ts] with fuel hattribute hgroup hrest
    rw [attributesParts, Schema.attributesParts, hattribute, hgroup, hrest]
    refine append_eq ?_
    -- both sides look at the same name, and only where it is none of those they are left to compare
    generalize localNameOf t = name
    split
    · rfl
    · rfl
    · split <;> first | contradiction | rfl
termination_by (free.length, ts.length + 1)

end

/-! ## Simple content -/

/-- What simple content is derived from is resolved so. -/
theorem ends_derivedSimpleType (hf : Complementary d active free) (derivation : Tree) :
    ∀ᶠ fuel in atTop, derivedSimpleType d fuel active derivation =
      ended (Schema.derivedSimpleType d free derivation) := by
  simp only [derivedSimpleType]
  rw [Schema.derivedSimpleType]
  cases requiredAttribute derivation "base" with
  | error fault => exact .of_forall fun _ => rfl
  | ok base =>
    filter_upwards [ends_simpleNamed hf (Builtin.unprefixed base)] with fuel hbase
    rw [hbase]
    exact ended_map _ _

/-- Simple content gives its parts so. -/
theorem ends_simpleContentParts (hf : Complementary d active free) (content : Tree) :
    ∀ᶠ fuel in atTop, simpleContentParts d fuel active content =
      ended (Schema.simpleContentParts d free content) := by
  simp only [simpleContentParts]
  rw [Schema.simpleContentParts]
  cases content.elements.find? isDerivation with
  | none => exact .of_forall fun _ => rfl
  | some derivation =>
    filter_upwards [ends_derivedSimpleType hf derivation,
      ends_attributesParts hf derivation.elements] with fuel hderived hattributes
    rw [hderived, hattributes]
    cases Schema.derivedSimpleType d free derivation with
    | error fault => rfl
    | ok s => exact ended_map _ _

/-! ## Content -/

mutual

/-- A declaration of an element gives its parts so. -/
theorem ends_elementParts {active free : List Key} (hf : Complementary d active free)
    (decl : Tree) :
    ∀ᶠ fuel in atTop, elementParts d fuel active decl =
      ended (Schema.elementParts d free decl) := by
  refine eventually_succ ?_
  simp only [elementParts]
  rw [elementParts_def]
  cases decl.attribute? "type" with
  | some typeRef =>
    dsimp only
    cases ht : d.complexTypes.get? (Builtin.unprefixed typeRef) with
    | none =>
      filter_upwards [ends_simpleNamed hf (Builtin.unprefixed typeRef)] with fuel hsimple
      rw [hsimple]
      exact ended_map _ _
    | some t =>
      have hk : Key.type (Builtin.unprefixed typeRef) ∈ d.keys :=
        mem_keys_iff.mpr (.inl (Table.mem_keys_of_get? ht))
      refine eventually_follow hf hk fun rest hlt hrest => ?_
      filter_upwards [ends_complexParts hrest t.elements] with fuel hcomplex
      rw [hcomplex]
      exact ended_map _ _
  | none =>
    dsimp only
    cases hc : child? decl "complexType" with
    | some t => exact ends_complexParts hf t.elements
    | none =>
      dsimp only
      cases child? decl "simpleType" with
      | none => exact .of_forall fun _ => rfl
      | some t =>
        filter_upwards [ends_simpleType hf t] with fuel hsimple
        rw [hsimple]
        exact ended_map _ _
termination_by (free.length, 3 * decl.size)
decreasing_by
  · have := size_lt_of_child? hc
    have := Tree.sizeAll_elements_lt t
    exact Prod.Lex.right _ (by omega)
  · exact Prod.Lex.left _ _ (by assumption)

/-- What stands in a complex type gives its parts so. -/
theorem ends_complexParts {active free : List Key} (hf : Complementary d active free)
    (ts : List Tree) :
    ∀ᶠ fuel in atTop, complexParts d fuel active ts = ended (Schema.complexParts d free ts) := by
  refine eventually_succ ?_
  cases ts with
  | nil =>
    rw [Schema.complexParts]
    exact .of_forall fun _ => rfl
  | cons t ts =>
    filter_upwards [ends_particleParts hf t, ends_attributeParts hf t,
      ends_attributeGroupParts hf t, ends_simpleContentParts hf t,
      ends_derivationParts hf t.elements, ends_complexParts hf ts]
      with fuel hparticle hattribute hgroup hsimple hderivation hrest
    rw [complexParts, Schema.complexParts, hparticle, hattribute, hgroup, hsimple, hderivation,
      hrest]
    refine append_eq ?_
    generalize localNameOf t = name
    split <;> try rfl
    split <;> first | contradiction | rfl
termination_by (free.length, 3 * Tree.sizeAll ts + 1)
decreasing_by
  all_goals
    have := Tree.sizeAll_elements_lt t
    have := Tree.size_pos t
    exact Prod.Lex.right _ (by simp only [Tree.sizeAll]; omega)

/-- What stands in a derivation of complex content gives its parts so. -/
theorem ends_derivationParts {active free : List Key} (hf : Complementary d active free)
    (ts : List Tree) :
    ∀ᶠ fuel in atTop, derivationParts d fuel active ts =
      ended (Schema.derivationParts d free ts) := by
  refine eventually_succ ?_
  cases ts with
  | nil =>
    rw [Schema.derivationParts]
    exact .of_forall fun _ => rfl
  | cons t ts =>
    filter_upwards [ends_basePartsOf hf t, ends_complexParts hf t.elements,
      ends_derivationParts hf ts] with fuel hbase hcomplex hrest
    rw [derivationParts, Schema.derivationParts, hbase, hcomplex, hrest]
    refine append_eq ?_
    split
    · exact append_eq rfl
    · split <;> rfl
termination_by (free.length, 3 * Tree.sizeAll ts + 1)
decreasing_by
  all_goals
    have := Tree.sizeAll_elements_lt t
    have := Tree.size_pos t
    exact Prod.Lex.right _ (by simp only [Tree.sizeAll]; omega)

/-- The base of a derivation gives its parts so. -/
theorem ends_basePartsOf {active free : List Key} (hf : Complementary d active free)
    (derivation : Tree) :
    ∀ᶠ fuel in atTop, basePartsOf d fuel active derivation =
      ended (Schema.basePartsOf d free derivation) := by
  refine eventually_succ ?_
  simp only [basePartsOf]
  rw [Schema.basePartsOf]
  cases requiredAttribute derivation "base" with
  | error fault => exact .of_forall fun _ => rfl
  | ok base =>
    dsimp only
    split
    · exact .of_forall fun _ => rfl
    · cases ht : d.complexTypes.get? (Builtin.unprefixed base) with
      | none => exact .of_forall fun _ => rfl
      | some t =>
        have hk : Key.type (Builtin.unprefixed base) ∈ d.keys :=
          mem_keys_iff.mpr (.inl (Table.mem_keys_of_get? ht))
        exact eventually_follow hf hk fun rest hlt hrest => ends_complexParts hrest t.elements
termination_by (free.length, 0)

/-- A particle gives its parts so. -/
theorem ends_particleParts {active free : List Key} (hf : Complementary d active free) (t : Tree) :
    ∀ᶠ fuel in atTop, particleParts d fuel active t = ended (Schema.particleParts d free t) := by
  refine eventually_succ ?_
  have hcompositor : ∀ kind, ∀ᶠ fuel in atTop,
      (do return [Part.inside (compositor kind) (← memberParts d fuel active t.elements)]) =
        ended ((Schema.memberParts d free t.elements).map fun parts =>
          [.inside (compositor kind) parts]) := by
    intro kind
    filter_upwards [ends_memberParts hf t.elements] with fuel hmembers
    rw [hmembers]
    exact ended_map _ _
  simp only [particleParts]
  rw [Schema.particleParts]
  generalize localNameOf t = name
  split
  · exact hcompositor .choice
  · exact hcompositor .sequence
  · exact hcompositor .sequence
  · dsimp only
    cases requiredAttribute t "ref" with
    | error fault => exact .of_forall fun _ => rfl
    | ok ref =>
      dsimp only
      cases hg : d.groups.get? (Builtin.unprefixed ref) with
      | none => exact .of_forall fun _ => rfl
      | some group =>
        have hk : Key.group (Builtin.unprefixed ref) ∈ d.keys :=
          mem_keys_iff.mpr (Table.mem_keys_of_get? hg)
        refine eventually_follow hf hk fun rest hlt hrest => ?_
        cases group.elements.find? isGroupModel with
        | none => exact .of_forall fun _ => rfl
        | some model => exact ends_particleParts hrest model
  · refine .of_forall fun _ => ?_
    split <;> first | contradiction | rfl
termination_by (free.length, 3 * t.size)
decreasing_by
  all_goals
    have := Tree.sizeAll_elements_lt t
    first
    | exact Prod.Lex.left _ _ (by assumption)
    | exact Prod.Lex.right _ (by omega)

/-- The members of a compositor give their parts so. -/
theorem ends_memberParts {active free : List Key} (hf : Complementary d active free)
    (ts : List Tree) :
    ∀ᶠ fuel in atTop, memberParts d fuel active ts = ended (Schema.memberParts d free ts) := by
  refine eventually_succ ?_
  cases ts with
  | nil =>
    rw [Schema.memberParts]
    exact .of_forall fun _ => rfl
  | cons t ts =>
    filter_upwards [ends_memberElementParts hf t, ends_particleParts hf t, ends_memberParts hf ts]
      with fuel helement hparticle hrest
    rw [memberParts, Schema.memberParts, helement, hparticle, hrest]
    refine append_eq ?_
    generalize localNameOf t = name
    split <;> try rfl
    split <;> first | contradiction | rfl
termination_by (free.length, 3 * Tree.sizeAll ts + 2)
decreasing_by
  all_goals
    have := Tree.size_pos t
    exact Prod.Lex.right _ (by simp only [Tree.sizeAll]; omega)

/-- An element that is a member of a compositor gives its parts so. -/
theorem ends_memberElementParts {active free : List Key} (hf : Complementary d active free)
    (decl : Tree) :
    ∀ᶠ fuel in atTop, memberElementParts d fuel active decl =
      ended (Schema.memberElementParts d free decl) := by
  refine eventually_succ ?_
  simp only [memberElementParts]
  rw [Schema.memberElementParts]
  cases occursOf decl with
  | error fault => exact .of_forall fun _ => rfl
  | ok occurs =>
    dsimp only
    cases decl.attribute? "ref" with
    | some ref =>
      dsimp only
      cases ht : d.elements.get? (Builtin.unprefixed ref) with
      | none => exact .of_forall fun _ => rfl
      | some target =>
        have hk : Key.element (Builtin.unprefixed ref) ∈ d.keys :=
          mem_keys_iff.mpr (Table.mem_keys_of_get? ht)
        refine eventually_follow hf hk fun rest hlt hrest => ?_
        filter_upwards [ends_elementParts hrest target] with fuel htarget
        rw [htarget]
        exact ended_map _ _
    | none =>
      dsimp only
      cases requiredAttribute decl "name" with
      | error fault => exact .of_forall fun _ => rfl
      | ok name =>
        filter_upwards [ends_elementParts hf decl] with fuel helement
        rw [helement]
        exact ended_map _ _
termination_by (free.length, 3 * decl.size + 1)

end

/-- The expansion ends without a bound, with the same content model or fault. -/
theorem ends_contentModel (d : Definitions) (rootName : String) :
    ∀ᶠ fuel in atTop, contentModel d fuel rootName = ended (d.contentModel rootName) := by
  simp only [contentModel]
  rw [Definitions.contentModel]
  cases d.elements.get? rootName with
  | none => exact .of_forall fun _ => rfl
  | some decl =>
    have hf : Complementary d [.element rootName] (d.keys.filter (· ≠ .element rootName)) := by
      intro k
      simp
    filter_upwards [ends_elementParts hf decl] with fuel helement
    dsimp only
    rw [helement]
    exact ended_map _ _

end Unbounded

end GuidedXml.Schema
