/-
# Content models

A content model describes the legal shape of documents with one root: constraints for elements and
attributes, and compositors that group them.

Constraints are known by the order in which they were added. Compositors have no counterpart in a
document, so what counts for a document is the list of elements that `contentElements` gives.

The main statements say what a lookup finds after a constraint is added or changed.
-/
import GuidedXml.Schema.Fault
import GuidedXml.Schema.Occurs
import GuidedXml.Schema.Restriction

namespace GuidedXml.Schema

/-! ## Constraints -/

/-- The name of a constraint within its content model. -/
structure ConstraintId where
  /-- The number of constraints that came before, without a bound as for the nodes of a document. -/
  index : Nat
  deriving DecidableEq, Repr, Inhabited

/-- What a constraint is about. -/
inductive ConstraintKind where
  | element | attribute | sequence | choice | group
  deriving DecidableEq, Repr

/-- Whether the constraint groups others without a counterpart in documents. -/
def ConstraintKind.isCompositor : ConstraintKind → Bool
  | .sequence | .choice | .group => true
  | .element | .attribute => false

/-- Whether an attribute has to, may or must not be there. -/
inductive Use where
  | required | optional | prohibited
  deriving DecidableEq, Repr

/-- What a constraint says, apart from its place. -/
structure Constraint where
  kind : ConstraintKind
  /-- The name of the element or attribute, empty for compositors. -/
  name : String := ""
  occurs : Occurs := .once
  use : Option Use := none
  defaultValue : Option String := none
  fixedValue : Option String := none
  typeName : Option String := none
  restriction : Option Restriction := none
  annotation : Option String := none
  /-- Whether the element or attribute can have a text as its value. -/
  holdsText : Bool := false
  deriving Repr

namespace Constraint

/-- Whether the constraint gives a value in advance. -/
def hasPreset (c : Constraint) : Bool :=
  c.defaultValue.isSome || c.fixedValue.isSome

/-- The value given in advance, a fixed one before a default one. -/
def preset? (c : Constraint) : Option String :=
  c.fixedValue.or c.defaultValue

/-- Whether the constraint is for an optional attribute that can come and go freely. -/
def isFreeOptional (c : Constraint) : Bool :=
  c.kind = .attribute && c.use = some .optional && !c.hasPreset

/-- A constraint for an element. -/
def ofElement (name : String) (occurs : Occurs) : Constraint where
  kind := .element
  name := name
  occurs := occurs

/-- A constraint for an attribute, of any simple type at first. -/
def ofAttribute (name : String) (use : Use) : Constraint where
  kind := .attribute
  name := name
  use := some use
  typeName := some "anySimpleType"
  holdsText := true

/-- The constraint with a simple type, which makes it hold text. -/
def typed (c : Constraint) (typeName : String) : Constraint :=
  { c with typeName := some typeName, holdsText := true }

end Constraint

/-! ## Content models -/

/-- A constraint with its place in a content model. -/
structure ContentModel.Entry extends Constraint where
  parent : Option ConstraintId := none
  /-- The elements and compositors inside, in order. -/
  children : List ConstraintId := []
  /-- The attributes, in the order of their declaration. -/
  attributes : List ConstraintId := []
  deriving Repr

/-- Constraints by number; the first one is that of the root element. -/
structure ContentModel where
  entries : Array ContentModel.Entry
  deriving Repr

namespace ContentModel

/-- The constraint of the root element. -/
def root : ConstraintId := ⟨0⟩

/-- The content model that holds the constraint of the root element alone. -/
def ofRoot (c : Constraint) : ContentModel :=
  ⟨#[{ c with }]⟩

/-- The constraint of that number with its place. -/
def get? (m : ContentModel) (i : ConstraintId) : Option Entry :=
  m.entries[i.index]?

/-- The name of the constraint, empty if there is none. -/
def name (m : ContentModel) (i : ConstraintId) : String :=
  ((m.get? i).map fun e => e.name).getD ""

/-- What the constraint is about. -/
def kind? (m : ContentModel) (i : ConstraintId) : Option ConstraintKind :=
  (m.get? i).map fun e => e.kind

/-- The constraint that the constraint is inside of. -/
def parent? (m : ContentModel) (i : ConstraintId) : Option ConstraintId :=
  (m.get? i).bind Entry.parent

/-- The elements and compositors inside the constraint. -/
def children (m : ContentModel) (i : ConstraintId) : List ConstraintId :=
  ((m.get? i).map Entry.children).getD []

/-- The attributes of the constraint. -/
def attributes (m : ContentModel) (i : ConstraintId) : List ConstraintId :=
  ((m.get? i).map Entry.attributes).getD []

/-- The first attribute of that name. -/
def attribute? (m : ContentModel) (i : ConstraintId) (name : String) : Option ConstraintId :=
  (m.attributes i).find? fun a => m.name a = name

/-- The occurrence bounds of the constraint. -/
def occurs (m : ContentModel) (i : ConstraintId) : Occurs :=
  ((m.get? i).map fun e => e.occurs).getD .once

/-- The choice that the constraint is an alternative of. -/
def choice? (m : ContentModel) (i : ConstraintId) : Option ConstraintId :=
  (m.parent? i).filter fun p => m.kind? p = some .choice

/-- Whether the constraint is an alternative of a choice. -/
def isInChoice (m : ContentModel) (i : ConstraintId) : Bool :=
  (m.choice? i).isSome

/-- The alternatives of the choice that the constraint belongs to, itself included; none if it
belongs to no choice. -/
def alternatives (m : ContentModel) (i : ConstraintId) : List ConstraintId :=
  ((m.choice? i).map m.children).getD []

/-- The elements inside that compositors alone stand around, at most `fuel` levels deep. -/
def contentElementsAux (m : ContentModel) : Nat → ConstraintId → List ConstraintId
  | 0, _ => []
  | fuel + 1, i =>
    (m.children i).flatMap fun c =>
      match m.kind? c with
      | some .element => [c]
      | some .attribute => []
      | some _ => contentElementsAux m fuel c
      | none => []

/-- The elements inside that compositors alone stand around, in order. A path downwards meets no
constraint twice, so the number of constraints bounds the depth. -/
def contentElements (m : ContentModel) (i : ConstraintId) : List ConstraintId :=
  m.contentElementsAux m.entries.size i

/-- The names of all types, in order and without repetitions. -/
def typeNames (m : ContentModel) : List String :=
  ((m.entries.toList.filterMap fun e => e.typeName).mergeSort fun a b => decide (a ≤ b)).eraseDups

/-! ## Building -/

/-- Add a constraint inside another one; it takes the next number even if there is no such
constraint. -/
def add (m : ContentModel) (parent : ConstraintId) (c : Constraint) :
    ContentModel × ConstraintId :=
  let i : ConstraintId := ⟨m.entries.size⟩
  let pushed := m.entries.push { c with parent := some parent }
  let linked := pushed.modify parent.index fun e =>
    if c.kind = .attribute then { e with attributes := e.attributes ++ [i] }
    else { e with children := e.children ++ [i] }
  (⟨linked⟩, i)

/-- Change what a constraint says. -/
def modify (m : ContentModel) (i : ConstraintId) (f : Constraint → Constraint) : ContentModel :=
  ⟨m.entries.modify i.index fun e => { e with toConstraint := f e.toConstraint }⟩

/-- The content model of documents with a root of that name, if it is this one. -/
def forRoot (m : ContentModel) (rootName : String) : Except SchemaFault ContentModel :=
  if m.name root = rootName then .ok m else .error (.unknownElement rootName)

/-- Adding gives out the next number. -/
@[simp] theorem add_snd (m : ContentModel) (p : ConstraintId) (c : Constraint) :
    (m.add p c).2 = ⟨m.entries.size⟩ := rfl

/-- Adding makes one constraint more. -/
@[simp] theorem size_add (m : ContentModel) (p : ConstraintId) (c : Constraint) :
    (m.add p c).1.entries.size = m.entries.size + 1 := by
  simp [add]

/-- A change is seen under its number alone. -/
theorem get?_modify (m : ContentModel) (i j : ConstraintId) (f : Constraint → Constraint) :
    (m.modify i f).get? j =
      if j = i then (m.get? j).map fun e => { e with toConstraint := f e.toConstraint }
      else m.get? j := by
  obtain ⟨i⟩ := i
  obtain ⟨j⟩ := j
  simp only [modify, get?, Array.getElem?_modify, ConstraintId.mk.injEq]
  by_cases h : i = j
  · subst h
    simp
  · simp [h, Ne.symm h]

end ContentModel

end GuidedXml.Schema
