/-
# Schema documents

The global declarations of a schema document, by kind and name, and what can be read off a single
declaration: its annotation, its occurrence bounds, its facets and its simple type.

A simple type may be named by way of others; each name is followed once at a time. The main
statement says that following a name leaves fewer names to follow.
-/
import GuidedXml.Markup.Reading
import GuidedXml.Number.Reading
import GuidedXml.Schema.Builtin
import GuidedXml.Schema.Fault
import GuidedXml.Schema.Occurs
import GuidedXml.Schema.Restriction
import GuidedXml.Text.Blank

namespace GuidedXml.Schema

/-! ## Declarations -/

/-- The name of an element without its prefix. -/
def localNameOf (t : Tree) : String :=
  Builtin.unprefixed t.name

/-- The first element inside of a name, prefixes aside. -/
def child? (t : Tree) (name : String) : Option Tree :=
  t.elements.find? fun c => localNameOf c = name

/-- A child found has fewer nodes. -/
theorem size_lt_of_child? {t c : Tree} {name : String} (h : child? t name = some c) :
    c.size < t.size :=
  Tree.size_lt_of_mem_elements (List.mem_of_find?_eq_some h)

/-- The value of an attribute that has to be there. -/
def requiredAttribute (t : Tree) (name : String) : Except SchemaFault String :=
  match t.attribute? name with
  | some value => .ok value
  | none => .error (.missingAttribute name)

/-- The texts of the annotation of a declaration, one on a line. -/
def annotationOf (t : Tree) : Option String :=
  match child? t "annotation" with
  | none => none
  | some a =>
    let notes := a.elements.filter fun c => localNameOf c = "appinfo" || localNameOf c = "documentation"
    let texts := (notes.map fun c => String.ofList (Text.trim c.textInside.toList)).filter (· ≠ "")
    if texts.isEmpty then none else some ("\n".intercalate texts)

/-- One occurrence bound. -/
def readBound (value : String) : Except SchemaFault Nat :=
  match Number.readNat? Number.maxWord32 (Text.trim value.toList) with
  | some n => .ok n
  | none => .error (.invalidOccurs value)

/-- The lower occurrence bound of a declaration, one if it has none. -/
def minOccursOf (t : Tree) : Except SchemaFault Nat :=
  match t.attribute? "minOccurs" with
  | none => .ok 1
  | some value => readBound value

/-- The upper occurrence bound of a declaration, one if it has none. -/
def maxOccursOf (t : Tree) : Except SchemaFault (Option Nat) :=
  match t.attribute? "maxOccurs" with
  | none => .ok (some 1)
  | some value =>
    if Text.trim value.toList = "unbounded".toList then .ok none else (readBound value).map some

/-- The occurrence bounds of a declaration. -/
def occursOf (t : Tree) : Except SchemaFault Occurs :=
  match minOccursOf t with
  | .error fault => .error fault
  | .ok min => (maxOccursOf t).map fun max => ⟨min, max⟩

/-! ## The global declarations -/

/-- The global declarations of a schema by name; of two of one name the last one counts. -/
structure Definitions where
  elements : Table String Tree := {}
  attributes : Table String Tree := {}
  complexTypes : Table String Tree := {}
  simpleTypes : Table String Tree := {}
  groups : Table String Tree := {}
  attributeGroups : Table String Tree := {}

namespace Definitions

/-- The declarations with one more, if it is one of the known kinds. -/
def add (d : Definitions) (name : String) (t : Tree) : Definitions :=
  match localNameOf t with
  | "element" => { d with elements := d.elements.insert name t }
  | "attribute" => { d with attributes := d.attributes.insert name t }
  | "complexType" => { d with complexTypes := d.complexTypes.insert name t }
  | "simpleType" => { d with simpleTypes := d.simpleTypes.insert name t }
  | "group" => { d with groups := d.groups.insert name t }
  | "attributeGroup" => { d with attributeGroups := d.attributeGroups.insert name t }
  | _ => d

/-- The declarations of a schema element; those without a name are passed over. -/
def ofSchema (schema : Tree) : Definitions :=
  schema.elements.foldl (fun d t => match t.attribute? "name" with
    | some name => d.add name t
    | none => d) {}

/-- The declarations of a schema text. -/
def read (text : String) : Except SchemaFault Definitions :=
  match Markup.readTree text with
  | .error fault => .error (.malformed fault)
  | .ok t => if localNameOf t = "schema" then .ok (ofSchema t) else .error (.notASchema t.name)

/-- The names of the elements that can be the root of a document, in order. -/
def rootNames (d : Definitions) : List String :=
  d.elements.keys.mergeSort fun a b => decide (a ≤ b)

/-- The keys of all declarations that others can refer to. -/
def keys (d : Definitions) : List Key :=
  d.elements.keys.map .element ++ d.complexTypes.keys.map .type ++ d.simpleTypes.keys.map .type ++
    d.groups.keys.map .group ++ d.attributeGroups.keys.map .attributeGroup

end Definitions

/-! ## Following names -/

/-- Follow a key: it has to be among those that are free, and the others stay free. -/
def enter (k : Key) (free : List Key) :
    Except SchemaFault { rest : List Key // rest.length < free.length } :=
  if h : k ∈ free then
    .ok ⟨free.filter (· ≠ k), List.length_filter_lt_length_iff_exists.mpr ⟨k, h, by simp⟩⟩
  else .error (.recursive k)

/-- Following a key frees no other one and takes it away. -/
theorem mem_of_enter {k j : Key} {free : List Key} {r} (h : enter k free = .ok r) :
    j ∈ r.val ↔ j ∈ free ∧ j ≠ k := by
  unfold enter at h
  split at h
  · cases h
    simp
  · cases h

/-! ## Simple types -/

/-- A simple type: the built-in type that it comes from, and its restriction. -/
structure SimpleType where
  base : Builtin
  restriction : Option Restriction := none

/-- The facets of a restriction of a built-in type. -/
def facetsOf (base : Builtin) (t : Tree) : Restriction :=
  let others := ["annotation", "simpleType", "attribute", "attributeGroup"]
  let facets := t.elements.filter fun c => !others.contains (localNameOf c)
  Restriction.setAll { base := base.name }
    (facets.map fun c => (localNameOf c, (c.attribute? "value").getD ""))

/-- The type restricted by further facets. -/
def SimpleType.restrict (s : SimpleType) (t : Tree) : SimpleType :=
  let derived := facetsOf s.base t
  { s with restriction := some ((s.restriction.map (·.overlay derived)).getD derived) }

mutual

/-- The simple type of a name; built-in types go first. -/
def simpleNamed (d : Definitions) (free : List Key) (name : String) :
    Except SchemaFault SimpleType :=
  match Builtin.named? name with
  | some t => .ok { base := t }
  | none =>
    match d.simpleTypes.get? name with
    | none => .error (.unknownType name)
    | some t =>
      match enter (.type name) free with
      | .error fault => .error fault
      | .ok ⟨rest, _⟩ => simpleType d rest t
termination_by (free.length, 0)

/-- The simple type of a declaration: a restriction, else a list, which is a string, else any
simple type. -/
def simpleType (d : Definitions) (free : List Key) (t : Tree) : Except SchemaFault SimpleType :=
  match hr : child? t "restriction" with
  | none =>
    if (child? t "list").isSome then .ok { base := .string } else .ok { base := .anySimpleType }
  | some r =>
    match r.attribute? "base" with
    | some base => (simpleNamed d free (Builtin.unprefixed base)).map (·.restrict r)
    | none =>
      match hi : child? r "simpleType" with
      | some inner =>
        have := size_lt_of_child? hr
        have := size_lt_of_child? hi
        (simpleType d free inner).map (·.restrict r)
      | none => .error (.missingAttribute "base")
termination_by (free.length, t.size)
decreasing_by
  · exact Prod.Lex.right _ (Tree.size_pos t)
  · exact Prod.Lex.right _ (by omega)

end

end GuidedXml.Schema
