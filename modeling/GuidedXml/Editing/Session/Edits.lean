/-
# Edits

The edits of a document. Each one changes the document, patches the outline, gives up the offers
around the place of the edit, evaluates the rules that the edit can have affected, and finds the
verdicts on the nodes it made.

An addition can supply a node that a rule was missing; a removal and a change of a value affect the
rules about the nodes touched. Invalid values and violated rules stop no edit.
-/
import GuidedXml.Editing.Session.Offers
import GuidedXml.Editing.Session.Validation
import GuidedXml.Editing.Workspace.Binding
import GuidedXml.Editing.Workspace.Creation

namespace GuidedXml

open Schema (ConstraintId)

/-- Why an edit is refused. -/
inductive EditFault where
  | nodeNotFound (node : Handle)
  /-- The node has no constraint. -/
  | notBound (node : Handle)
  | parentNotFound (node : Handle)
  | notAnElement (node : Handle)
  | noTextContent (node : Handle)
  /-- The replacement for the node is not as its constraint says. -/
  | notCompliant (node : Handle)
  /-- The offer of that description is no longer good. -/
  | staleOffer (description : String)
  /-- No node can be made for the constraint of that name. -/
  | unsupportedConstraint (name : String)
  | document (fault : Fault)
  deriving DecidableEq, Repr

/-- The text of the fault. -/
def EditFault.message : EditFault → String
  | nodeNotFound node => "Node not found: " ++ node.render
  | notBound node => "Node " ++ node.render ++ " is not bound to a constraint"
  | parentNotFound node => "Parent not found for node " ++ node.render
  | notAnElement node => "Node " ++ node.render ++ " is not an element"
  | noTextContent node => "Node " ++ node.render ++ " cannot hold text"
  | notCompliant node => "Replacement for " ++ node.render ++ " does not conform to its constraint"
  | staleOffer description =>
    "Option '" ++ description ++ "' was produced for a tree that has since changed"
  | unsupportedConstraint name => "Constraint '" ++ name ++ "' cannot be materialized"
  | document fault => fault.message

namespace Session

/-- What an edit comes to: the session after it, and its result or why it was refused. -/
abbrev Edited (α : Type) := Session × Except EditFault α

/-- The session with another document and another workspace. -/
def withStage (s : Session) (t : Workspace.Stage) : Session :=
  { s with workspace := t.1, document := t.2 }

/-- Why nothing can be put into the node, if it is no live element. -/
def elementFault? (s : Session) (h : Handle) : Option EditFault :=
  if !s.document.contains h then some (.nodeNotFound h)
  else if !s.document.isElement h then some (.notAnElement h)
  else none

/-- The fault of making no node for a constraint. -/
def unsupported (s : Session) (c : ConstraintId) : EditFault :=
  .unsupportedConstraint (s.workspace.model.name c)

/-! ## Additions -/

/-- Forget a new node again that could not be placed. -/
def takeBack (s : Session) (h : Handle) (fault : Fault) : Edited Handle :=
  let workspace := (s.workspace.forget s.document h).1
  match s.document.discard h with
  | .error other => ({ s with workspace := workspace }, .error (.document other))
  | .ok d => (s.withStage (workspace, d), .error (.document fault))

/-- Show a new element that was placed in the document, and give up the offers around it. -/
def adoptElement (s : Session) (d : Document) (parent h : Handle) : Session :=
  let shown := { s.workspace with outline := s.workspace.outline.attach d h }
  s.withStage (shown.invalidate d parent, d)

/-- Add an element of a constraint to a parent, after a sibling or before all. -/
def addNode (s : Session) (c : ConstraintId) (parent : Handle) (after : Option Handle) :
    Edited Handle :=
  if s.workspace.model.kind? c ≠ some .element then (s, .error (s.unsupported c))
  else match s.elementFault? parent with
    | some fault => (s, .error fault)
    | none =>
      let (stage, created) := s.workspace.create s.document c
      let made := s.withStage stage
      match created with
      | none => (made, .error (s.unsupported c))
      | some h =>
        match made.document.insertAfter parent after h with
        | .error fault => made.takeBack h fault
        | .ok d => (((made.adoptElement d parent h).checkMissing).validate h, .ok h)

/-- Forget a node that has lost its place, and validate anew the nodes that became owners of names
by that. -/
def forgetForGood (s : Session) (h : Handle) : Edited Unit :=
  let (workspace, promoted) := s.workspace.forget s.document h
  match s.document.discard h with
  | .error fault => ({ s with workspace := workspace }, .error (.document fault))
  | .ok d => ((s.withStage (workspace, d)).validateAll promoted, .ok ())

/-- Add an attribute of a constraint to an element; it displaces one of the same name. -/
def addAttribute (s : Session) (c : ConstraintId) (element : Handle) : Edited Handle :=
  if s.workspace.model.kind? c ≠ some .attribute then (s, .error (s.unsupported c))
  else match s.elementFault? element with
    | some fault => (s, .error fault)
    | none =>
      let (stage, created) := s.workspace.create s.document c
      let made := s.withStage stage
      match created with
      | none => (made, .error (s.unsupported c))
      | some a =>
        match made.document.placeAttribute element a with
        | .error fault => (made, .error (.document fault))
        | .ok (d, displaced) =>
          let placed := { made with document := d }
          let cleared : Edited Unit := match displaced with
            | none => (placed, .ok ())
            | some old => placed.forgetForGood old
          match cleared with
          | (s, .error fault) => (s, .error fault)
          | (s, .ok _) =>
            let s := { s with workspace := s.workspace.invalidate s.document element }
            ((s.checkMissing).validate a, .ok a)

/-! ## Removals -/

/-- Remove an element or attribute for good. -/
def removeNode (s : Session) (h : Handle) : Edited Unit :=
  if !s.document.contains h then (s, .error (.nodeNotFound h))
  else match s.parentElement? h with
    | none => (s, .error (.parentNotFound h))
    | some parent =>
      match s.document.detach h with
      | .error fault => (s, .error (.document fault))
      | .ok d =>
        let outline := if d.isElement h then s.workspace.outline.detach h else s.workspace.outline
        let s := s.withStage ({ s.workspace with outline := outline }, d)
        let s := s.checkRules (s.workspace.rulesOfSubtree s.document h)
        let s := { s with workspace := s.workspace.invalidate s.document parent }
        s.forgetForGood h

/-! ## Replacements -/

/-- Put an element of another alternative in the place of an element. The new one is added before
the old one is removed. -/
def chooseAlternative (s : Session) (c : ConstraintId) (parent : Handle) (after : Option Handle)
    (replaced : Handle) : Edited Handle :=
  match s.addNode c parent after with
  | (s, .error fault) => (s, .error fault)
  | (s, .ok h) =>
    match s.removeNode replaced with
    | (s, .error fault) => (s, .error fault)
    | (s, .ok _) => ({ s with workspace := s.workspace.invalidate s.document parent }, .ok h)

/-- Put the old element back in its place, and discard the replacement. -/
def putBack (s : Session) (parent old new : Handle) : Edited Handle :=
  match s.document.replaceChild parent new old with
  | .error fault => (s, .error (.document fault))
  | .ok d =>
    match d.discard new with
    | .error fault => ({ s with document := d }, .error (.document fault))
    | .ok d => ({ s with document := d }, .error (.notCompliant old))

/-- Let an element that was placed and bound take over from the one it replaced. -/
def takeOver (s : Session) (parent old new : Handle) : Edited Handle :=
  let outline := (s.workspace.outline.detach old).attach s.document new
  let s := { s with workspace := { s.workspace with outline := outline } }
  let s := s.checkRules (s.workspace.rulesOfSubtree s.document old)
  let s := { s with workspace := s.workspace.invalidate s.document parent }
  let (workspace, promoted) := s.workspace.forget s.document old
  match s.document.discard old with
  | .error fault => ({ s with workspace := workspace }, .error (.document fault))
  | .ok d =>
    let s := (s.withStage (workspace, d)).checkMissing.validate new
    (s.validateAll promoted, .ok new)

/-- Put a copy of an element of another document in the place of an element. The copy has to be as
the constraint of the old element says. -/
def replace (s : Session) (old : Handle) (source : Document) (node : Handle) : Edited Handle :=
  match s.workspace.binding? old, s.document.parent? old with
  | none, _ => (s, .error (.notBound old))
  | some _, none => (s, .error (.parentNotFound old))
  | some c, some parent =>
    match s.document.copyFrom source node with
    | .error fault => (s, .error (.document fault))
    | .ok (d, new) =>
      match d.replaceChild parent old new with
      | .error fault =>
        match d.discard new with
        | .error other => ({ s with document := d }, .error (.document other))
        | .ok d => ({ s with document := d }, .error (.document fault))
      | .ok d =>
        let (workspace, bound) := s.workspace.bind d new c
        let placed := s.withStage (workspace, d)
        if bound then placed.takeOver parent old new else placed.putBack parent old new

/-! ## Values -/

/-- Withdraw the claim of a node to its old value, and validate anew the node that comes to own
it. -/
def giveUpName (s : Session) (h : Handle) : Session :=
  let (claims, promoted) := s.workspace.claims.release (s.document.value h) h
  { s with workspace := { s.workspace with claims := claims } }.validateAll promoted.toList

/-- Claim a name for a node. -/
def claimName (s : Session) (h : Handle) (name : String) : Session :=
  { s with workspace := { s.workspace with claims := s.workspace.claims.register name h } }

/-- Change the text of a leaf. A node that keeps its name keeps its place in line. -/
def setValue (s : Session) (h : Handle) (value : String) : Edited Unit :=
  match s.workspace.binding? h with
  | none => (s, .error (.notBound h))
  | some c =>
    if !(s.workspace.model.get? c).any fun e => e.holdsText then (s, .error (.noTextContent h))
    else
      let renames := s.workspace.isNaming c && s.document.value h ≠ value
      let s := if renames then s.giveUpName h else s
      match s.document.setValue h value with
      | .error fault => (s, .error (.document fault))
      | .ok d =>
        let s := { s with document := d }
        let s := if renames then s.claimName h value else s
        ((s.checkRules (s.workspace.rulesOf h)).validate h, .ok ())

/-! ## Taking offers -/

/-- Do what an offer says. The result is the node that was added, if one was. -/
def perform (s : Session) : Action → Edited (Option Handle)
  | .addSibling c parent after => (s.addNode c parent (some after)).map id (·.map some)
  | .addChild c parent after => (s.addNode c parent after).map id (·.map some)
  | .addAttribute c element => (s.addAttribute c element).map id (·.map some)
  | .remove node => (s.removeNode node).map id (·.map fun _ => none)
  | .removeAttribute node => (s.removeNode node).map id (·.map fun _ => none)
  | .chooseAlternative c parent after replaced =>
    (s.chooseAlternative c parent after replaced).map id (·.map some)

/-- Take an offer, if it is still good. -/
def take (s : Session) (o : Offer) : Edited (Option Handle) :=
  if s.isCurrent o then s.perform o.action else (s, .error (.staleOffer o.description))

end Session

end GuidedXml
