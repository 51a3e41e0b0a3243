/-
# Workspaces

A workspace holds what is known of the nodes of a document: the constraint that each node is bound
to, the outline, the offers and verdicts already computed, the rules about each node, and the claims
to names.

The main statements say what binding, recording and invalidating do to the tables that they write.
-/
import GuidedXml.Document.Subtree
import GuidedXml.Editing.Claims
import GuidedXml.Editing.Offer
import GuidedXml.Editing.Outline
import GuidedXml.Editing.Verdict
import GuidedXml.Schema.Builtin

namespace GuidedXml

open Schema (Builtin ConstraintId ContentModel)

/-- What is known of the nodes of a document. -/
structure Workspace where
  /-- The legal shape of the document. -/
  model : ContentModel
  /-- The attributes that every element may have. -/
  whitelist : List String := []
  /-- The constraint of each bound node. -/
  bindings : Table Handle ConstraintId := {}
  outline : Outline := {}
  /-- The offers already made for a node and still good. -/
  offers : Table Handle (List Offer) := {}
  /-- The verdicts already found. -/
  verdicts : Table Handle Verdict := {}
  /-- The rules about each node. -/
  relevant : Table Handle (List RuleId) := {}
  /-- The nodes that each rule led to when it was last evaluated. -/
  recorded : Table RuleId (List Handle) := {}
  /-- The claims of nodes whose values are names. -/
  claims : Claims := {}
  /-- How often the offers for a node were given up. The count has no bound: no session lasts long
  enough to use up words of 64 bits. -/
  revisions : Table Handle Nat := {}
  deriving Repr

namespace Workspace

/-! ## Lookup -/

/-- Whether every element may have an attribute of that name. -/
def isWhitelisted (w : Workspace) (name : String) : Bool :=
  w.whitelist.contains name

/-- The constraint that the node is bound to. -/
def binding? (w : Workspace) (h : Handle) : Option ConstraintId :=
  w.bindings.get? h

/-- Whether the node is bound to a constraint. -/
def isBound (w : Workspace) (h : Handle) : Bool :=
  w.bindings.contains h

/-- What the constraint of a bound node says. -/
def constraint? (w : Workspace) (h : Handle) : Option ContentModel.Entry :=
  (w.binding? h).bind w.model.get?

/-- Whether values under the constraint are names that nodes own. -/
def isNaming (w : Workspace) (c : ConstraintId) : Bool :=
  (((w.model.get? c).bind fun e => e.typeName).bind Builtin.named?) = some .id

/-- The revision of the node. -/
def revision (w : Workspace) (h : Handle) : Nat :=
  w.revisions.getD h 0

/-- The rules about the node. -/
def rulesOf (w : Workspace) (h : Handle) : List RuleId :=
  w.relevant.getD h []

/-- The rules about the nodes of a subtree, without repetitions. -/
def rulesOfSubtree (w : Workspace) (d : Document) (h : Handle) : List RuleId :=
  (d.subtree h).foldl (fun rs n => appendRules rs (w.rulesOf n)) []

/-! ## Binding single nodes -/

/-- Bind a node to a constraint. If its value is a name, the node claims it. -/
def bindNode (w : Workspace) (d : Document) (h : Handle) (c : ConstraintId) : Workspace :=
  { w with
    bindings := w.bindings.insert h c
    claims := if w.isNaming c then w.claims.register (d.value h) h else w.claims }

/-- Unbind a node if it is bound, and withdraw its claim to its value. -/
def unbindNode (w : Workspace) (d : Document) (h : Handle) : Workspace :=
  if w.isBound h then
    { w with
      bindings := w.bindings.erase h
      claims := (w.claims.release (d.value h) h).1 }
  else w

/-- Unbind all nodes of a subtree. -/
def unbind (w : Workspace) (d : Document) (h : Handle) : Workspace :=
  (d.subtree h).foldl (fun w n => w.unbindNode d n) w

/-- Binding gives the node its constraint and leaves all other bindings alone. -/
theorem binding?_bindNode (w : Workspace) (d : Document) (h k : Handle) (c : ConstraintId) :
    (w.bindNode d h c).binding? k = if k = h then some c else w.binding? k :=
  Table.get?_insert w.bindings h k c

/-- Unbinding takes the constraint from the node and leaves all other bindings alone. -/
theorem binding?_unbindNode (w : Workspace) (d : Document) (h k : Handle) :
    (w.unbindNode d h).binding? k = if k = h then none else w.binding? k := by
  unfold unbindNode
  split
  · exact Table.get?_erase w.bindings h k
  · rename_i hb
    by_cases hk : k = h
    · subst hk
      simpa [isBound, Table.contains, binding?] using hb
    · simp [hk]

/-! ## Rules about nodes -/

/-- Take a rule from the rules about a node. -/
def dropRelevance (w : Workspace) (r : RuleId) (h : Handle) : Workspace :=
  { w with
    relevant := w.relevant.putList h ((w.rulesOf h).filter (· ≠ r))
    verdicts := w.verdicts.modify h fun v => v.dropRule r }

/-- Add a rule to the rules about a node. -/
def addRelevance (w : Workspace) (r : RuleId) (h : Handle) : Workspace :=
  { w with
    relevant := w.relevant.insert h (appendRule (w.rulesOf h) r)
    verdicts := w.verdicts.modify h fun v => v.addRule r }

/-- Record the nodes that a rule led to. Nodes that it led to before and no longer lose the rule,
new ones gain it, and verdicts follow. -/
def recordRule (w : Workspace) (r : RuleId) (nodes : List Handle) : Workspace :=
  let led := nodes.eraseDups
  let gone := (w.recorded.getD r []).filter fun h => !led.contains h
  let moved := led.foldl (fun w h => w.addRelevance r h)
    (gone.foldl (fun w h => w.dropRelevance r h) w)
  { moved with recorded := moved.recorded.insert r led }

/-- A dropped rule is gone from the rules about the node, and no other rules change. -/
theorem rulesOf_dropRelevance (w : Workspace) (r : RuleId) (h k : Handle) :
    (w.dropRelevance r h).rulesOf k =
      if k = h then (w.rulesOf h).filter (· ≠ r) else w.rulesOf k :=
  Table.getD_putList w.relevant h k _

/-- An added rule is among the rules about the node, and no other rules change. -/
theorem rulesOf_addRelevance (w : Workspace) (r : RuleId) (h k : Handle) :
    (w.addRelevance r h).rulesOf k =
      if k = h then appendRule (w.rulesOf h) r else w.rulesOf k := by
  simp only [addRelevance, rulesOf, Table.getD, Table.get?_insert]
  split <;> rfl

/-! ## Offers -/

/-- Give up the offers for a node. -/
def invalidateNode (w : Workspace) (h : Handle) : Workspace :=
  { w with
    offers := w.offers.erase h
    revisions := w.revisions.insert h (w.revision h + 1) }

/-- Give up the offers for all nodes of a subtree. -/
def invalidate (w : Workspace) (d : Document) (h : Handle) : Workspace :=
  (d.subtree h).foldl invalidateNode w

/-- Giving up offers is a step to the next revision of the node alone. -/
theorem revision_invalidateNode (w : Workspace) (h k : Handle) :
    (w.invalidateNode h).revision k = if k = h then w.revision h + 1 else w.revision k := by
  simp only [invalidateNode, revision, Table.getD, Table.get?_insert]
  split <;> rfl

/-! ## Forgetting -/

/-- Forget a node: all that is known of it, except what the outline shows. The result names the node
that became the owner of its name, if one did. -/
def forgetNode (w : Workspace) (d : Document) (h : Handle) : Workspace × Option Handle :=
  let (claims, promoted) := w.claims.release (d.value h) h
  ({ w with
      bindings := w.bindings.erase h
      offers := w.offers.erase h
      verdicts := w.verdicts.erase h
      revisions := w.revisions.erase h
      relevant := w.relevant.erase h
      recorded := (w.rulesOf h).foldl (fun t r => t.modify r fun hs => hs.filter (· ≠ h)) w.recorded
      claims := claims }, promoted)

/-- Forget nodes one after the other. -/
def forgetNodes (w : Workspace) (d : Document) : List Handle → Workspace × List Handle
  | [] => (w, [])
  | h :: hs =>
    let (w', promoted) := w.forgetNode d h
    let (w'', others) := forgetNodes w' d hs
    (w'', promoted.toList ++ others)

/-- Forget a subtree. The result names the nodes outside it that became owners of names because
nodes of the subtree gave them up. -/
def forget (w : Workspace) (d : Document) (h : Handle) : Workspace × List Handle :=
  let gone := d.subtree h
  let (w', promoted) := { w with outline := w.outline.detach h }.forgetNodes d gone
  (w', promoted.filter fun p => !gone.contains p)

/-- A forgotten node is not bound, and no other binding changes. -/
theorem binding?_forgetNode (w : Workspace) (d : Document) (h k : Handle) :
    (w.forgetNode d h).1.binding? k = if k = h then none else w.binding? k :=
  Table.get?_erase w.bindings h k

end Workspace

end GuidedXml
