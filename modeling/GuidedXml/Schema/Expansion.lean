/-
# Expansion of declarations

The content model that a schema prescribes below one of its global elements: references and named
types are replaced by what they stand for.

First a declaration is expanded into parts, which have no numbers yet. Types, groups and elements
may refer to each other, so every one is followed once at a time; the keys still free, and then the
size of the declaration, bound the expansion. Then the parts are numbered in preorder.
-/
import GuidedXml.Schema.ContentModel
import GuidedXml.Schema.Definitions

namespace GuidedXml.Schema

/-! ## Parts -/

/-- What a declaration adds to the constraint it belongs to. -/
inductive Part where
  /-- The owner holds text of a simple type. -/
  | simple (s : SimpleType)
  /-- The owner is typed by a name and holds no text by that. -/
  | named (typeName : String)
  /-- The owner has an attribute. -/
  | attribute (c : Constraint)
  /-- The owner has an element or a compositor inside, with parts of its own. -/
  | inside (c : Constraint) (parts : List Part)

/-- The constraint with a simple type; a restriction it already has stays unless there is a new
one. -/
def Constraint.withSimple (c : Constraint) (s : SimpleType) : Constraint :=
  { c.typed s.base.name with restriction := s.restriction.or c.restriction }

/-- The constraint with the annotation and the values given in advance of a declaration, where it
has any. -/
def Constraint.describedBy (c : Constraint) (decl : Tree) : Constraint :=
  { c with
    annotation := (annotationOf decl).or c.annotation
    defaultValue := (decl.attribute? "default").or c.defaultValue
    fixedValue := (decl.attribute? "fixed").or c.fixedValue }

/-! ## Attributes -/

/-- The simple type of an attribute declaration. -/
def attributeType (d : Definitions) (free : List Key) (decl : Tree) :
    Except SchemaFault SimpleType :=
  match decl.attribute? "type" with
  | some typeRef => simpleNamed d free (Builtin.unprefixed typeRef)
  | none =>
    match child? decl "simpleType" with
    | some t => simpleType d free t
    | none => .ok { base := .anySimpleType }

/-- The name and the declaration that an attribute declaration stands for. -/
def attributeTarget (d : Definitions) (decl : Tree) : Except SchemaFault (String × Tree) :=
  match decl.attribute? "ref" with
  | none => (requiredAttribute decl "name").map (·, decl)
  | some ref =>
    let name := Builtin.unprefixed ref
    match d.attributes.get? name with
    | some target => .ok (name, target)
    | none => .error (.unknownType name)

/-- The parts of an attribute declaration; a prohibited attribute leaves none. -/
def attributeParts (d : Definitions) (free : List Key) (decl : Tree) :
    Except SchemaFault (List Part) :=
  if decl.attribute? "use" = some "prohibited" then .ok []
  else
    let use := if decl.attribute? "use" = some "required" then Use.required else Use.optional
    match attributeTarget d decl with
    | .error fault => .error fault
    | .ok (name, target) =>
      (attributeType d free target).map fun s =>
        [.attribute (((Constraint.ofAttribute name use).describedBy target).withSimple s)]

mutual

/-- The parts of a reference to a group of attributes. -/
def attributeGroupParts (d : Definitions) (free : List Key) (reference : Tree) :
    Except SchemaFault (List Part) :=
  match requiredAttribute reference "ref" with
  | .error fault => .error fault
  | .ok ref =>
    let name := Builtin.unprefixed ref
    match d.attributeGroups.get? name with
    | none => .error (.unknownGroup name)
    | some group =>
      match enter (.attributeGroup name) free with
      | .error fault => .error fault
      | .ok ⟨rest, _⟩ => attributesParts d rest group.elements
termination_by (free.length, 0)

/-- The parts of all attributes and groups of attributes among declarations. -/
def attributesParts (d : Definitions) (free : List Key) :
    List Tree → Except SchemaFault (List Part)
  | [] => .ok []
  | t :: ts =>
    let first := match localNameOf t with
      | "attribute" => attributeParts d free t
      | "attributeGroup" => attributeGroupParts d free t
      | _ => .ok []
    match first with
    | .error fault => .error fault
    | .ok parts => (attributesParts d free ts).map (parts ++ ·)
termination_by ts => (free.length, ts.length + 1)

end

/-! ## Content -/

/-- Whether the declaration extends or restricts another type. -/
def isDerivation (t : Tree) : Bool :=
  localNameOf t = "extension" || localNameOf t = "restriction"

/-- The simple type that a derivation of simple content gives. -/
def derivedSimpleType (d : Definitions) (free : List Key) (derivation : Tree) :
    Except SchemaFault SimpleType :=
  match requiredAttribute derivation "base" with
  | .error fault => .error fault
  | .ok base =>
    (simpleNamed d free (Builtin.unprefixed base)).map fun s =>
      if localNameOf derivation = "restriction" then s.restrict derivation else s

/-- The parts of simple content: its type and the attributes of its derivation. -/
def simpleContentParts (d : Definitions) (free : List Key) (content : Tree) :
    Except SchemaFault (List Part) :=
  match content.elements.find? isDerivation with
  | none => .ok [.simple { base := .anySimpleType }]
  | some derivation =>
    match derivedSimpleType d free derivation with
    | .error fault => .error fault
    | .ok s => (attributesParts d free derivation.elements).map (.simple s :: ·)

/-- Whether the declaration is a content model of a group. -/
def isGroupModel (t : Tree) : Bool :=
  localNameOf t = "sequence" || localNameOf t = "all" || localNameOf t = "choice"

/-- The constraint of a compositor. -/
def compositor (kind : ConstraintKind) : Constraint where
  kind := kind

mutual

/-- The parts that the type of an element declaration gives: a named or inner complex type, else a
named or inner simple type, else any type. -/
def elementParts (d : Definitions) (free : List Key) (decl : Tree) :
    Except SchemaFault (List Part) :=
  match decl.attribute? "type" with
  | some typeRef =>
    let name := Builtin.unprefixed typeRef
    match d.complexTypes.get? name with
    | some t =>
      match enter (.type name) free with
      | .error fault => .error fault
      | .ok ⟨rest, _⟩ => (complexParts d rest t.elements).map (.named name :: ·)
    | none => (simpleNamed d free name).map fun s => [.simple s]
  | none =>
    match h : child? decl "complexType" with
    | some t =>
      have := size_lt_of_child? h
      complexParts d free t.elements
    | none =>
      match child? decl "simpleType" with
      | some t => (simpleType d free t).map fun s => [.simple s]
      | none => .ok [.simple { base := .anyType }]
termination_by (free.length, 3 * decl.size)
decreasing_by
  · exact Prod.Lex.left _ _ (by assumption)
  · have := Tree.sizeAll_elements_lt t
    exact Prod.Lex.right _ (by omega)

/-- The parts of what is inside a complex type. -/
def complexParts (d : Definitions) (free : List Key) :
    List Tree → Except SchemaFault (List Part)
  | [] => .ok []
  | t :: ts =>
    let first := match localNameOf t with
      | "sequence" | "all" | "choice" | "group" => particleParts d free t
      | "attribute" => attributeParts d free t
      | "attributeGroup" => attributeGroupParts d free t
      | "simpleContent" => simpleContentParts d free t
      | "complexContent" => derivationParts d free t.elements
      | _ => .ok []
    match first with
    | .error fault => .error fault
    | .ok parts => (complexParts d free ts).map (parts ++ ·)
termination_by ts => (free.length, 3 * Tree.sizeAll ts + 1)
decreasing_by
  all_goals
    have := Tree.sizeAll_elements_lt t
    have := Tree.size_pos t
    exact Prod.Lex.right _ (by simp only [Tree.sizeAll]; omega)

/-- The parts of what is inside complex content: an extension has the parts of its base first. -/
def derivationParts (d : Definitions) (free : List Key) :
    List Tree → Except SchemaFault (List Part)
  | [] => .ok []
  | t :: ts =>
    let first :=
      if localNameOf t = "extension" then
        match basePartsOf d free t with
        | .error fault => .error fault
        | .ok parts => (complexParts d free t.elements).map (parts ++ ·)
      else if localNameOf t = "restriction" then complexParts d free t.elements
      else .ok []
    match first with
    | .error fault => .error fault
    | .ok parts => (derivationParts d free ts).map (parts ++ ·)
termination_by ts => (free.length, 3 * Tree.sizeAll ts + 1)
decreasing_by
  all_goals
    have := Tree.sizeAll_elements_lt t
    have := Tree.size_pos t
    exact Prod.Lex.right _ (by simp only [Tree.sizeAll]; omega)

/-- The parts of the complex type that an extension names as its base; any type has none. -/
def basePartsOf (d : Definitions) (free : List Key) (derivation : Tree) :
    Except SchemaFault (List Part) :=
  match requiredAttribute derivation "base" with
  | .error fault => .error fault
  | .ok base =>
    let name := Builtin.unprefixed base
    if name = Builtin.anyType.name then .ok []
    else match d.complexTypes.get? name with
      | none => .error (.unknownType name)
      | some t =>
        match enter (.type name) free with
        | .error fault => .error fault
        | .ok ⟨rest, _⟩ => complexParts d rest t.elements
termination_by (free.length, 0)

/-- The parts of a compositor or of a reference to a group. -/
def particleParts (d : Definitions) (free : List Key) (t : Tree) :
    Except SchemaFault (List Part) :=
  match localNameOf t with
  | "sequence" | "all" =>
    (memberParts d free t.elements).map fun parts => [.inside (compositor .sequence) parts]
  | "choice" =>
    (memberParts d free t.elements).map fun parts => [.inside (compositor .choice) parts]
  | "group" =>
    match requiredAttribute t "ref" with
    | .error fault => .error fault
    | .ok ref =>
      let name := Builtin.unprefixed ref
      match d.groups.get? name with
      | none => .error (.unknownGroup name)
      | some group =>
        match enter (.group name) free with
        | .error fault => .error fault
        | .ok ⟨rest, _⟩ =>
          match group.elements.find? isGroupModel with
          | none => .ok []
          | some model => particleParts d rest model
  | _ => .ok []
termination_by (free.length, 3 * t.size)
decreasing_by
  all_goals
    have := Tree.sizeAll_elements_lt t
    first
    | exact Prod.Lex.left _ _ (by assumption)
    | exact Prod.Lex.right _ (by omega)

/-- The parts of what is inside a compositor. -/
def memberParts (d : Definitions) (free : List Key) :
    List Tree → Except SchemaFault (List Part)
  | [] => .ok []
  | t :: ts =>
    let first := match localNameOf t with
      | "element" => memberElementParts d free t
      | "sequence" | "all" | "choice" | "group" => particleParts d free t
      | _ => .ok []
    match first with
    | .error fault => .error fault
    | .ok parts => (memberParts d free ts).map (parts ++ ·)
termination_by ts => (free.length, 3 * Tree.sizeAll ts + 2)
decreasing_by
  all_goals
    have := Tree.size_pos t
    exact Prod.Lex.right _ (by simp only [Tree.sizeAll]; omega)

/-- The parts of an element declaration inside a compositor, which may refer to a global one. -/
def memberElementParts (d : Definitions) (free : List Key) (decl : Tree) :
    Except SchemaFault (List Part) :=
  match occursOf decl with
  | .error fault => .error fault
  | .ok occurs =>
    match decl.attribute? "ref" with
    | some ref =>
      let name := Builtin.unprefixed ref
      match d.elements.get? name with
      | none => .error (.unknownElement name)
      | some target =>
        match enter (.element name) free with
        | .error fault => .error fault
        | .ok ⟨rest, _⟩ =>
          let own := { Constraint.ofElement name occurs with annotation := annotationOf decl }
          (elementParts d rest target).map fun parts => [.inside (own.describedBy target) parts]
    | none =>
      match requiredAttribute decl "name" with
      | .error fault => .error fault
      | .ok name =>
        (elementParts d free decl).map fun parts =>
          [.inside ((Constraint.ofElement name occurs).describedBy decl) parts]
termination_by (free.length, 3 * decl.size + 1)

end

/-! ## Numbering -/

mutual
/-- The content model with one more part of an owner, numbered in preorder. -/
def ContentModel.grow (m : ContentModel) (owner : ConstraintId) : Part → ContentModel
  | .simple s => m.modify owner (·.withSimple s)
  | .named typeName => m.modify owner fun c => { c with typeName := some typeName }
  | .attribute c => (m.add owner c).1
  | .inside c parts => ContentModel.growAll (m.add owner c).1 (m.add owner c).2 parts
/-- The content model with more parts of an owner, one after the other. -/
def ContentModel.growAll (m : ContentModel) (owner : ConstraintId) : List Part → ContentModel
  | [] => m
  | p :: ps => ContentModel.growAll (ContentModel.grow m owner p) owner ps
end

/-- The content model of documents whose root is the global element of a name. -/
def Definitions.contentModel (d : Definitions) (rootName : String) :
    Except SchemaFault ContentModel :=
  match d.elements.get? rootName with
  | none => .error (.unknownElement rootName)
  | some decl =>
    let free := d.keys.filter (· ≠ .element rootName)
    let rootConstraint := (Constraint.ofElement rootName .once).describedBy decl
    (elementParts d free decl).map fun parts =>
      (ContentModel.ofRoot rootConstraint).growAll ContentModel.root parts

end GuidedXml.Schema
