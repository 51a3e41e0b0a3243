/-
# Creating subtrees

The smallest subtree that a constraint allows: elements as often as they have to be there, the first
alternative of every choice, and attributes that are required or have a value given in advance. The
nodes are bound as they are created.
-/
import GuidedXml.Editing.Workspace.Basic

namespace GuidedXml.Workspace

open Schema (ConstraintId ContentModel)

/-- A workspace and the document that it is about. -/
abbrev Stage := Workspace × Document

/-- The document after an edit that was possible, or else as it was. -/
def keepOr (d : Document) : Except Fault Document → Document
  | .ok d' => d'
  | .error _ => d

/-- Place created nodes at the end of an element. -/
def appendAll (d : Document) (element : Handle) (hs : List Handle) : Document :=
  hs.foldl (fun d h => keepOr d (d.append element h)) d

/-- Place created attributes at an element. -/
def placeAll (d : Document) (element : Handle) (hs : List Handle) : Document :=
  hs.foldl (fun d h => keepOr d ((d.placeAttribute element h).map Prod.fst)) d

/-- Create nodes for constraints one after the other, and place them as they are created. -/
def createEach (create : Stage → ConstraintId → Stage × List Handle)
    (place : Document → List Handle → Document) (s : Stage) (cs : List ConstraintId) : Stage :=
  cs.foldl (fun s c =>
    let r := create s c
    (r.1.1, place r.1.2 r.2)) s

/-- Create an element, with what `create` makes for each constraint inside its own. -/
def createElement (create : Stage → ConstraintId → Stage × List Handle) (s : Stage)
    (c : ConstraintId) (e : ContentModel.Entry) : Stage × Handle :=
  let (w, d) := s
  let (d, h) := d.createElement e.name
  let d := match e.preset? with
    | some value => keepOr d (d.setValue h value)
    | none => d
  let s := createEach create (fun d hs => appendAll d h hs) (w, d) e.children
  let (w, d) := createEach create (fun d hs => placeAll d h hs) s e.attributes
  ((w.bindNode d h c, d), h)

/-- Create a number of elements of one constraint. -/
def createElements (create : Stage → ConstraintId → Stage × List Handle) (c : ConstraintId)
    (e : ContentModel.Entry) : Nat → Stage → Stage × List Handle
  | 0, s => (s, [])
  | n + 1, s =>
    let (s, h) := createElement create s c e
    let (s, hs) := createElements create c e n s
    (s, h :: hs)

/-- Create an attribute. -/
def createAttribute (s : Stage) (c : ConstraintId) (e : ContentModel.Entry) : Stage × Handle :=
  let (w, d) := s
  let (d, a) := d.createAttribute e.name (e.preset?.getD "")
  ((w.bindNode d a c, d), a)

/-- Create what has to be there for a constraint inside another one, at most `fuel` levels deep. -/
def createInside : Nat → Stage → ConstraintId → Stage × List Handle
  | 0, s, _ => (s, [])
  | fuel + 1, s, c =>
    match s.1.model.get? c with
    | none => (s, [])
    | some e =>
      match e.kind with
      | .attribute =>
        if e.use = some .required || e.hasPreset then
          let (s, a) := createAttribute s c e
          (s, [a])
        else (s, [])
      | .element => createElements (createInside fuel) c e e.occurs.min s
      | .choice =>
        match e.children with
        | [] => (s, [])
        | first :: _ => createInside fuel s first
      | .sequence =>
        e.children.foldl (fun acc c =>
          let r := createInside fuel acc.1 c
          (r.1, acc.2 ++ r.2)) (s, [])
      | .group => (s, [])

/-- Create an element or attribute, bound and not yet placed; compositors have no node of their
own. A path downwards meets no constraint twice, so the number of constraints bounds the depth. -/
def create (w : Workspace) (d : Document) (c : ConstraintId) : Stage × Option Handle :=
  match w.model.get? c with
  | none => ((w, d), none)
  | some e =>
    match e.kind with
    | .element =>
      let (s, h) := createElement (createInside w.model.entries.size) (w, d) c e
      (s, some h)
    | .attribute =>
      let (s, a) := createAttribute (w, d) c e
      (s, some a)
    | _ => ((w, d), none)

end GuidedXml.Workspace
