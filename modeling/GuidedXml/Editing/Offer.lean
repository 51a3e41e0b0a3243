/-
# Offers

An offer is an edit that is legal for a node in the document as it is. It remembers the revision of
the node that it was made for, so that it can be told later whether the document has changed under
it.
-/
import GuidedXml.Document.Node
import GuidedXml.Schema.ContentModel

namespace GuidedXml

open Schema (ConstraintId)

/-- What taking an offer does. -/
inductive Action where
  /-- Add one more element of the same constraint, just after a sibling. -/
  | addSibling (constraint : ConstraintId) (parent after : Handle)
  /-- Add an element that is missing, after a sibling or before all. -/
  | addChild (constraint : ConstraintId) (parent : Handle) (after : Option Handle)
  | addAttribute (constraint : ConstraintId) (element : Handle)
  | remove (node : Handle)
  | removeAttribute (node : Handle)
  /-- Put another alternative of its choice in the place of an element. -/
  | chooseAlternative (constraint : ConstraintId) (parent : Handle) (after : Option Handle)
      (replaced : Handle)
  deriving DecidableEq, Repr

/-- How a description begins. -/
def Action.verb : Action → String
  | addSibling _ _ _ => "Add additional"
  | addChild _ _ _ => "Add child node"
  | addAttribute _ _ => "Add attribute"
  | remove _ => "Remove this"
  | removeAttribute _ => "Remove attribute"
  | chooseAlternative _ _ _ _ => "Choose alternative"

/-- An edit that is legal for a node. -/
structure Offer where
  /-- The name of the element or attribute that the edit is about. -/
  objective : String
  /-- The node that the edit is offered for. -/
  anchor : Handle
  /-- The revision of that node when the offer was made. -/
  revision : Nat
  action : Action
  deriving DecidableEq, Repr

/-- How the offer is shown. -/
def Offer.description (o : Offer) : String :=
  o.action.verb ++ " \"" ++ o.objective ++ "\""

end GuidedXml
