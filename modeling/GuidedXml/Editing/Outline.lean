/-
# Outlines

The outline of a document shows its elements without attributes and texts. It follows the document
edit by edit: an element is taken in with all that is inside it, at the place that it has in the
document, and taken out in the same way.

The main statements say which elements an outline shows after a single one was placed, and that
nothing is shown that has been taken out.
-/
import GuidedXml.Document.Subtree
import GuidedXml.Table

namespace GuidedXml

/-- What an outline shows of an element. -/
structure Outline.Entry where
  /-- The element around it. -/
  parent : Option Handle := none
  /-- The elements just inside, in document order. -/
  children : List Handle := []
  deriving DecidableEq, Repr

/-- The elements of a document. -/
structure Outline where
  entries : Table Handle Outline.Entry := {}
  /-- The outermost element. -/
  root : Option Handle := none
  deriving Repr

namespace Outline

/-! ## Lookup -/

/-- Whether the outline shows the element. -/
def contains (o : Outline) (h : Handle) : Bool :=
  o.entries.contains h

/-- The element around an element. -/
def parent? (o : Outline) (h : Handle) : Option Handle :=
  (o.entries.get? h).bind Entry.parent

/-- The elements just inside an element. -/
def children (o : Outline) (h : Handle) : List Handle :=
  ((o.entries.get? h).map Entry.children).getD []

/-- The place of the element among the children of its parent. -/
def index? (o : Outline) (h : Handle) : Option Nat :=
  (o.parent? h).bind fun p => (o.children p).idxOf? h

/-- The number of elements shown. -/
def size (o : Outline) : Nat :=
  o.entries.size

/-- Whether nothing is shown. -/
def isEmpty (o : Outline) : Bool :=
  o.entries.isEmpty

/-! ## Taking in -/

/-- The place of an element among those of its siblings that the outline shows. -/
def placeOf (o : Outline) (d : Document) (parent h : Handle) : Nat :=
  (((d.elements parent).filter fun c => c = h || o.contains c).idxOf? h).getD 0

/-- The outline with an element listed among the children of its parent. -/
def list (o : Outline) (d : Document) (parent h : Handle) : Table Handle Entry :=
  let i := o.placeOf d parent h
  o.entries.modify parent fun e =>
    { e with children := e.children.insertIdx (min i e.children.length) h }

/-- The outline with one more element, and nothing inside that. An element outside all others
becomes the outermost one. -/
def place (o : Outline) (d : Document) (h : Handle) : Outline :=
  match (d.parent? h).filter d.isElement with
  | some p => { o with entries := (o.list d p h).insert h { parent := some p } }
  | none => { entries := o.entries.insert h {}, root := some h }

/-- A placed element is shown, and no other element comes or goes. -/
theorem contains_place (o : Outline) (d : Document) (h k : Handle) :
    (o.place d h).contains k = (k = h || o.contains k) := by
  unfold place contains Table.contains
  by_cases hk : k = h
  · subst hk
    split <;> simp
  · split
    · rename_i p _
      simp only [Table.get?_insert, hk, if_false, list, Table.get?_modify]
      by_cases hp : k = p <;> simp [hp]
    · simp [Table.get?_insert, hk]

/-- Take in an element and what is inside it, at most `fuel` levels deep. -/
def attachAux (d : Document) : Nat → Outline → Handle → Outline
  | 0, o, _ => o
  | fuel + 1, o, h =>
    if d.isElement h then (d.elements h).foldl (attachAux d fuel) (o.place d h) else o

/-- The outline with an element and all elements inside it, at the places that they have in the
document. A path downwards visits no node twice, so the number of slots bounds the depth. -/
def attach (o : Outline) (d : Document) (h : Handle) : Outline :=
  attachAux d d.slots.size o h

/-- The outline of a whole document. -/
def ofDocument (d : Document) : Outline :=
  match d.root? with
  | none => {}
  | some r => ({} : Outline).attach d r

/-! ## Taking out -/

/-- Take out elements and what is shown inside them, at most `fuel` levels deep. -/
def eraseAll : Nat → Table Handle Entry → List Handle → Table Handle Entry
  | 0, es, _ => es
  | fuel + 1, es, hs =>
    hs.foldl (fun es h =>
      match es.get? h with
      | none => es
      | some e => eraseAll fuel (es.erase h) e.children) es

/-- The outline without an element and all that is shown inside it. Every level takes out at least
one entry, so the number of entries bounds the depth. -/
def detach (o : Outline) (h : Handle) : Outline :=
  match o.entries.get? h with
  | none => o
  | some e =>
    let rest := o.entries.erase h
    let unlisted := match e.parent with
      | some p => rest.modify p fun e => { e with children := e.children.filter (· ≠ h) }
      | none => rest
    { entries := eraseAll unlisted.size unlisted e.children
      root := if e.parent.isNone && o.root = some h then none else o.root }

end Outline

end GuidedXml
