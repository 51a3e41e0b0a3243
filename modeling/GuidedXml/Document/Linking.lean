/-
# Placing nodes

The operations that link a node into a document or take it out again. Each one checks all it needs
before it changes anything, with two exceptions that are stated where they occur: installing a root
first takes out the old one, and setting an attribute first makes the new node.
-/
import GuidedXml.Document.Basic

namespace GuidedXml.Document

/-! ## Elements and texts -/

/-- Why `child` cannot be placed under `parent`, if it cannot: the parent must be a live element or
the document, the child a live element or text without a parent, and not above the parent. -/
def placementFault? (d : Document) (parent child : Handle) : Option Fault :=
  match d.node? parent with
  | none => some (.nodeNotFound parent)
  | some p =>
    if p.kind ≠ .element ∧ p.kind ≠ .document then some (.notAnElement parent)
    else match d.node? child with
      | none => some (.nodeNotFound child)
      | some c =>
        if c.kind ≠ .element ∧ c.kind ≠ .text then some (.invalidChild child)
        else if c.parent.isSome then some (.stillAttached child)
        else if (parent :: d.ancestors parent).contains child then some (.invalidChild child)
        else none

/-- Make `child` the child of `parent` whose children are then `children`. -/
def link (d : Document) (parent child : Handle) (children : List Handle) : Document :=
  (d.update parent fun n => { n with children := children }).update child
    fun n => { n with parent := some parent }

/-- Place `child` after all children of `parent`. -/
def append (d : Document) (parent child : Handle) : Except Fault Document :=
  match d.placementFault? parent child with
  | some fault => .error fault
  | none => .ok (d.link parent child (d.children parent ++ [child]))

/-- Place `child` just after `previous`, or before all children if that is `none`. -/
def insertAfter (d : Document) (parent : Handle) (previous : Option Handle) (child : Handle) :
    Except Fault Document :=
  match d.placementFault? parent child with
  | some fault => .error fault
  | none =>
    let siblings := d.children parent
    match previous with
    | none => .ok (d.link parent child (child :: siblings))
    | some p =>
      match siblings.idxOf? p with
      | none => .error (.notAChild p parent)
      | some i => .ok (d.link parent child (siblings.insertIdx (i + 1) child))

/-- Place `replacement` where `old` is, and take `old` out. -/
def replaceChild (d : Document) (parent old replacement : Handle) : Except Fault Document :=
  match d.placementFault? parent replacement with
  | some fault => .error fault
  | none =>
    let siblings := d.children parent
    match siblings.idxOf? old with
    | none => .error (.notAChild old parent)
    | some i =>
      .ok ((d.link parent replacement (siblings.set i replacement)).update old
        fun n => { n with parent := none })

/-- Take a node out of its parent. What is inside stays with it. -/
def detach (d : Document) (h : Handle) : Except Fault Document :=
  match d.node? h with
  | none => .error (.nodeNotFound h)
  | some n =>
    match n.parent with
    | none => .ok d
    | some p =>
      if !d.contains p then .error (.nodeNotFound p)
      else
        let unlisted := d.update p fun m =>
          if n.kind = .attribute then { m with attributes := m.attributes.filter (· ≠ h) }
          else { m with children := m.children.filter (· ≠ h) }
        .ok (unlisted.update h fun m => { m with parent := none })

/-- Install the outermost element. The old one is taken out first, also if the new one is then
refused. -/
def setRoot (d : Document) (h : Handle) : Document × Except Fault Unit :=
  let cleared : Except Fault Document := match d.root? with
    | none => .ok d
    | some old => d.detach old
  match cleared with
  | .error fault => (d, .error fault)
  | .ok d' =>
    match d'.append top h with
    | .error fault => (d', .error fault)
    | .ok d'' => (d'', .ok ())

/-! ## Attributes -/

/-- Give an element an attribute. An attribute of the same name loses its place to it and is
returned. -/
def placeAttribute (d : Document) (element attr : Handle) :
    Except Fault (Document × Option Handle) :=
  if !d.isElement element then .error (.notAnElement element)
  else match d.node? attr with
    | none => .error (.nodeNotFound attr)
    | some n =>
      if n.kind ≠ .attribute then .error (.invalidChild attr)
      else if n.parent.isSome then .error (.stillAttached attr)
      else
        let owned := fun (d : Document) => d.update attr fun n => { n with parent := some element }
        match d.attribute? element n.name with
        | none =>
          let listed := d.update element fun m => { m with attributes := m.attributes ++ [attr] }
          .ok (owned listed, none)
        | some old =>
          match (d.attributes element).idxOf? old with
          | none => .error (.notAChild old element)
          | some i =>
            let listed := d.update element fun m => { m with attributes := m.attributes.set i attr }
            .ok (owned (listed.update old fun m => { m with parent := none }), some old)

/-- Set the value of the attribute of that name. A missing attribute is made first, and stays
unplaced if the node is no element. -/
def setAttribute (d : Document) (element : Handle) (name value : String) :
    Document × Except Fault Handle :=
  match d.attribute? element name with
  | some a =>
    if d.contains a then (d.update a fun n => { n with value := value }, .ok a)
    else (d, .error (.nodeNotFound a))
  | none =>
    let (d', a) := d.createAttribute name value
    match d'.placeAttribute element a with
    | .error fault => (d', .error fault)
    | .ok (d'', _) => (d'', .ok a)

/-- Take out the attribute of that name, if there is one. -/
def removeAttribute (d : Document) (element : Handle) (name : String) :
    Except Fault (Document × Option Handle) :=
  if !d.isElement element then .error (.notAnElement element)
  else match d.attribute? element name with
    | none => .ok (d, none)
    | some a => (d.detach a).map fun d' => (d', some a)

/-! ## Values -/

/-- Change the text that a leaf shows. An element without a text gets one after its children. -/
def setValue (d : Document) (h : Handle) (value : String) : Except Fault Document :=
  match d.node? h with
  | none => .error (.nodeNotFound h)
  | some n =>
    match n.kind with
    | .attribute | .text => .ok (d.update h fun n => { n with value := value })
    | .element =>
      match n.children.find? d.isText with
      | some t => .ok (d.update t fun n => { n with value := value })
      | none =>
        let (d', t) := d.createText value
        d'.append h t
    | .document => .error (.notAnElement h)

end GuidedXml.Document
