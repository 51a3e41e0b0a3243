/-
# Documents

A document is a store of nodes under handles. Parents list their children and attributes, and
every listed node names its parent. Handle 0 is the document itself.

The main statements say what a lookup finds after a node was added, changed or removed.
-/
import GuidedXml.Document.Fault

namespace GuidedXml

/-- A store of nodes; a removed node leaves an empty slot, so that no handle is given out twice. -/
structure Document where
  /-- The slots, by handle. -/
  slots : Array (Option Node)
  deriving Repr

namespace Document

/-- The document without elements. -/
def empty : Document := ⟨#[some { kind := .document }]⟩

instance : Inhabited Document := ⟨empty⟩

/-- The handle of the document itself. -/
def top : Handle := ⟨0⟩

/-- The handle that the next new node gets. -/
def next (d : Document) : Handle := ⟨d.slots.size⟩

/-! ## Lookup -/

/-- What is stored for a handle, if it names a live node. -/
def node? (d : Document) (h : Handle) : Option Node :=
  (d.slots[h.index]?).join

/-- Whether the handle names a live node. -/
def contains (d : Document) (h : Handle) : Bool :=
  (d.node? h).isSome

/-- The number of live nodes. -/
def nodeCount (d : Document) : Nat :=
  d.slots.toList.countP Option.isSome

/-- What the node is, if it is live. -/
def kind? (d : Document) (h : Handle) : Option Kind :=
  (d.node? h).map Node.kind

/-- Whether the node is a live element. -/
def isElement (d : Document) (h : Handle) : Bool :=
  d.kind? h = some .element

/-- Whether the node is a live attribute. -/
def isAttribute (d : Document) (h : Handle) : Bool :=
  d.kind? h = some .attribute

/-- Whether the node is a live text. -/
def isText (d : Document) (h : Handle) : Bool :=
  d.kind? h = some .text

/-- The name of the node, empty for texts, the document and dead handles. -/
def name (d : Document) (h : Handle) : String :=
  ((d.node? h).map Node.name).getD ""

/-- The parent of an element or text, or the element that an attribute belongs to. -/
def parent? (d : Document) (h : Handle) : Option Handle :=
  (d.node? h).bind Node.parent

/-- The elements and texts inside the node, in document order. -/
def children (d : Document) (h : Handle) : List Handle :=
  ((d.node? h).map Node.children).getD []

/-- The elements inside the node, in document order. -/
def elements (d : Document) (h : Handle) : List Handle :=
  (d.children h).filter d.isElement

/-- The attributes of the node, in the order of their declaration. -/
def attributes (d : Document) (h : Handle) : List Handle :=
  ((d.node? h).map Node.attributes).getD []

/-- The attribute of that name. -/
def attribute? (d : Document) (h : Handle) (name : String) : Option Handle :=
  (d.attributes h).find? fun a => d.name a = name

/-- The outermost element, if there is one. -/
def root? (d : Document) : Option Handle :=
  (d.elements top).head?

/-- The text that a leaf shows: the value of an attribute, the content of a text, and the content
of the first text inside an element. -/
def value (d : Document) (h : Handle) : String :=
  match d.node? h with
  | none => ""
  | some n =>
    match n.kind with
    | .attribute | .text => n.value
    | .element => (((n.children.find? d.isText).bind d.node?).map Node.value).getD ""
    | .document => ""

/-! ## Places among siblings -/

/-- The place of the node among the attributes or children of its parent. -/
def indexInParent? (d : Document) (h : Handle) : Option Nat := do
  let p ← d.parent? h
  if d.isAttribute h then (d.attributes p).idxOf? h else (d.children p).idxOf? h

/-- The child just before the node; an attribute has none. -/
def previousSibling? (d : Document) (h : Handle) : Option Handle := do
  if d.isAttribute h then none
  else
    let p ← d.parent? h
    let i ← d.indexInParent? h
    if i = 0 then none else (d.children p)[i - 1]?

/-- The nodes above `h`, nearest first, at most `fuel` of them. -/
def ancestorsAux (d : Document) : Nat → Handle → List Handle
  | 0, _ => []
  | fuel + 1, h =>
    match d.parent? h with
    | none => []
    | some p => p :: ancestorsAux d fuel p

/-- The nodes above `h`, nearest first. A path upwards visits no node twice, so the number of slots
bounds it. -/
def ancestors (d : Document) (h : Handle) : List Handle :=
  d.ancestorsAux d.slots.size h

/-- Whether the node is the document or lies inside it. -/
def isAttached (d : Document) (h : Handle) : Bool :=
  (h :: d.ancestors h).contains top

/-- The number of neighbouring elements of the same name that the node is one of, texts between
them left aside. A node that is no child element counts once. -/
def runLength (d : Document) (h : Handle) : Nat :=
  match d.parent? h with
  | none => 1
  | some p =>
    let siblings := d.elements p
    if siblings.contains h then
      let before := siblings.takeWhile (· ≠ h)
      let after := (siblings.dropWhile (· ≠ h)).drop 1
      let same := fun s => decide (d.name s = d.name h)
      (before.reverse.takeWhile same).length + 1 + (after.takeWhile same).length
    else 1

/-- The length of the first run of elements of that name in a list of nodes. -/
def firstRun (d : Document) (name : String) (hs : List Handle) : Nat :=
  let named := fun h => decide (d.name h = name)
  (((hs.filter d.isElement).dropWhile fun h => !named h).takeWhile named).length

/-! ## Changing single nodes -/

/-- Store a new node under the next handle. -/
def push (d : Document) (n : Node) : Document × Handle :=
  (⟨d.slots.push (some n)⟩, d.next)

/-- Change what is stored for a live node. -/
def update (d : Document) (h : Handle) (f : Node → Node) : Document :=
  ⟨d.slots.modify h.index (Option.map f)⟩

/-- Empty the slot of a node. -/
def drop (d : Document) (h : Handle) : Document :=
  ⟨d.slots.modify h.index fun _ => none⟩

/-- A new element, not yet placed. -/
def createElement (d : Document) (name : String) : Document × Handle :=
  d.push { kind := .element, name := name }

/-- A new attribute, not yet placed. -/
def createAttribute (d : Document) (name value : String) : Document × Handle :=
  d.push { kind := .attribute, name := name, value := value }

/-- A new text, not yet placed. -/
def createText (d : Document) (value : String) : Document × Handle :=
  d.push { kind := .text, value := value }

@[simp] theorem push_snd (d : Document) (n : Node) : (d.push n).2 = d.next := rfl

/-- A new node is found under its handle, and no other lookup changes. -/
theorem node?_push (d : Document) (n : Node) (h : Handle) :
    (d.push n).1.node? h = if h = d.next then some n else d.node? h := by
  obtain ⟨i⟩ := h
  simp only [push, node?, next, Array.getElem?_push, Handle.mk.injEq]
  split <;> simp

/-- A change is seen under its handle alone. -/
theorem node?_update (d : Document) (h k : Handle) (f : Node → Node) :
    (d.update h f).node? k = if k = h then (d.node? k).map f else d.node? k := by
  obtain ⟨i⟩ := h
  obtain ⟨j⟩ := k
  simp only [update, node?, Array.getElem?_modify, Handle.mk.injEq]
  by_cases hij : i = j
  · subst hij
    cases h : d.slots[i]? with
    | none => simp
    | some o => cases o <;> simp
  · simp [hij, Ne.symm hij]

/-- A dropped node is gone, and no other lookup changes. -/
theorem node?_drop (d : Document) (h k : Handle) :
    (d.drop h).node? k = if k = h then none else d.node? k := by
  obtain ⟨i⟩ := h
  obtain ⟨j⟩ := k
  simp only [drop, node?, Array.getElem?_modify, Handle.mk.injEq]
  by_cases hij : i = j
  · subst hij
    cases h : d.slots[i]? <;> simp
  · simp [hij, Ne.symm hij]

end Document

end GuidedXml
