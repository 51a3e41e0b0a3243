/-
# Making offers

The edits that are legal for a node. For an element: one more of its kind, its removal, the other
alternatives of its choice, missing elements inside it, and missing attributes. For an attribute: its
removal.

The main statement says that all offers for a node are anchored there and are of its present
revision.
-/
import GuidedXml.Editing.Session.Basic

namespace GuidedXml.Session

open Schema (ConstraintId ContentModel)

/-! ## Places -/

/-- The element that the node is inside of. -/
def parentElement? (s : Session) (h : Handle) : Option Handle :=
  (s.document.parent? h).filter s.document.isElement

/-- The constraints of nodes that are bound. -/
def boundTo (s : Session) (cs : List ConstraintId) (h : Handle) : Bool :=
  (s.workspace.binding? h).any cs.contains

/-! ## Actions -/

/-- What can be done with an element among its siblings. -/
def siblingActions (s : Session) (h parent : Handle) (c : ConstraintId) :
    List (String × Action) :=
  let m := s.workspace.model
  let name := s.document.name h
  let count := s.document.runLength h
  let more := if (m.occurs c).allowsMore count then [(name, Action.addSibling c parent h)] else []
  let fewer := if (m.occurs c).min < count then [(name, Action.remove h)] else []
  let others := (m.alternatives c).filter (· ≠ c)
  more ++ fewer ++ others.map fun a =>
    (m.name a, .chooseAlternative a parent (s.document.previousSibling? h) h)

/-- Whether an element of the constraint can be added inside an element: there is none of its name,
there may be one, and no alternative to it is there. -/
def canAddInside (s : Session) (inside : List Handle) (c : ConstraintId) : Bool :=
  let m := s.workspace.model
  s.document.firstRun (m.name c) inside = 0 && (m.occurs c).allowsMore 0 &&
    !inside.any (s.boundTo (m.alternatives c))

/-- The elements that can be added inside an element, each after the last element of the constraints
before its own. -/
def childActionsAux (s : Session) (h : Handle) (inside : List Handle)
    (before : List ConstraintId) : List ConstraintId → List (String × Action)
  | [] => []
  | c :: cs =>
    let rest := childActionsAux s h inside (before ++ [c]) cs
    if s.canAddInside inside c then
      let after := (inside.filter (s.boundTo before)).getLast?
      (s.workspace.model.name c, .addChild c h after) :: rest
    else rest

/-- The elements that can be added inside an element. -/
def childActions (s : Session) (h : Handle) (c : ConstraintId) : List (String × Action) :=
  s.childActionsAux h (s.document.elements h) [] (s.workspace.model.contentElements c)

/-- The attributes that can be added to an element. -/
def attributeActions (s : Session) (h : Handle) (c : ConstraintId) : List (String × Action) :=
  let m := s.workspace.model
  ((m.attributes c).filter fun a =>
    (m.get? a).any (fun e => e.isFreeOptional) && (s.document.attribute? h (m.name a)).isNone).map
      fun a => (m.name a, .addAttribute a h)

/-- What can be done with an element. -/
def elementActions (s : Session) (h : Handle) (c : ConstraintId) : List (String × Action) :=
  let among := match s.parentElement? h with
    | some parent => s.siblingActions h parent c
    | none => []
  among ++ s.childActions h c ++ s.attributeActions h c

/-- What can be done with an attribute. -/
def ownActions (s : Session) (h : Handle) (c : ConstraintId) : List (String × Action) :=
  if (s.workspace.model.get? c).any fun e => e.isFreeOptional then
    [(s.document.name h, .removeAttribute h)]
  else []

/-! ## Offers -/

/-- The offers for a bound node, made afresh. -/
def makeOffers (s : Session) (h : Handle) (c : ConstraintId) : List Offer :=
  let actions :=
    if s.document.isElement h then s.elementActions h c
    else if s.document.isAttribute h then s.ownActions h c
    else []
  actions.map fun a =>
    { objective := a.1, anchor := h, revision := s.workspace.revision h, action := a.2 }

/-- The offers for a node: those made before if they are still good, or else fresh ones. -/
def offers (s : Session) (h : Handle) : Session × List Offer :=
  match s.workspace.offers.get? h with
  | some os => (s, os)
  | none =>
    match s.workspace.binding? h with
    | none => (s, [])
    | some c =>
      let os := s.makeOffers h c
      ({ s with workspace := { s.workspace with offers := s.workspace.offers.insert h os } }, os)

/-- Whether an offer is still good: its anchor is in the document and has not changed since. -/
def isCurrent (s : Session) (o : Offer) : Bool :=
  s.document.contains o.anchor && s.document.isAttached o.anchor &&
    s.workspace.revision o.anchor = o.revision

/-- Fresh offers are anchored at their node and of its present revision. -/
theorem anchor_of_mem_makeOffers {s : Session} {h : Handle} {c : ConstraintId} {o : Offer}
    (ho : o ∈ s.makeOffers h c) : o.anchor = h ∧ o.revision = s.workspace.revision h := by
  unfold makeOffers at ho
  simp only [List.mem_map] at ho
  obtain ⟨a, _, rfl⟩ := ho
  exact ⟨rfl, rfl⟩

end GuidedXml.Session
