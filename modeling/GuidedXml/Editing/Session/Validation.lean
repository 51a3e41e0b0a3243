/-
# Validation

Verdicts on the nodes of a document. A verdict is found when it is first asked for, and again
whenever an edit touches the node.

A deep verdict takes the verdicts on an element, its attributes and the elements inside it together.
-/
import GuidedXml.Editing.Session.Basic

namespace GuidedXml.Session

/-! ## Single nodes -/

/-- Whether the value of the node is of its type. Nodes without constraint, and nodes that hold no
text, have no type to be of. -/
def valueIsValid (s : Session) (h : Handle) : Bool :=
  match s.workspace.constraint? h with
  | none => true
  | some e =>
    !e.holdsText ||
      Schema.isValid e.typeName e.restriction s.workspace.claims.owner? h (s.document.value h)

/-- Find the verdict on a bound node anew. -/
def validate (s : Session) (h : Handle) : Session :=
  if s.workspace.isBound h then
    let v : Verdict := { typeOk := s.valueIsValid h, rules := s.workspace.rulesOf h }
    { s with workspace := { s.workspace with verdicts := s.workspace.verdicts.insert h v } }
  else s

/-- Find the verdicts on nodes anew. -/
def validateAll (s : Session) (hs : List Handle) : Session :=
  hs.foldl validate s

/-- The verdict on a node that was found before. -/
def verdict? (s : Session) (h : Handle) : Option Verdict :=
  s.workspace.verdicts.get? h

/-- Whether the node is an attribute that every element may have. -/
def isWhitelisted (s : Session) (h : Handle) : Bool :=
  s.document.isAttribute h && s.workspace.isWhitelisted (s.document.name h)

/-- After a validation, a bound node has the verdict of its present value and rules. -/
theorem verdict?_validate (s : Session) (h : Handle) (hb : s.workspace.isBound h = true) :
    (s.validate h).verdict? h =
      some { typeOk := s.valueIsValid h, rules := s.workspace.rulesOf h } := by
  simp [validate, hb, verdict?]

/-! ## Verdicts on request -/

/-- The verdict on a node, found now if there is none or if it is to be found anew. -/
def judge (anew : Bool) (s : Session) (h : Handle) : Session × Verdict :=
  if !s.document.contains h then (s, .unknown)
  else if s.isWhitelisted h then (s, { typeOk := true })
  else
    let s := if anew || (s.verdict? h).isNone then s.validate h else s
    (s, (s.verdict? h).getD .unknown)

/-- The verdicts on nodes, taken together with one found before. -/
def judgeEach (judgeOne : Session → Handle → Session × Verdict) (r : Session × Verdict)
    (hs : List Handle) : Session × Verdict :=
  hs.foldl (fun r h =>
    let r' := judgeOne r.1 h
    (r'.1, r.2.and r'.2)) r

/-- The verdict on a node and what is inside it, at most `fuel` levels deep. -/
def judgeDeepAux (anew : Bool) : Nat → Session → Handle → Session × Verdict
  | 0, s, _ => (s, .unknown)
  | fuel + 1, s, h =>
    let own := s.judge anew h
    let withAttributes := judgeEach (judge anew) own (s.document.attributes h)
    judgeEach (judgeDeepAux anew fuel) withAttributes (s.document.elements h)

/-- The verdict on a node and what is inside it. A path downwards visits no node twice, so the
number of slots bounds the depth. -/
def judgeDeep (anew : Bool) (s : Session) (h : Handle) : Session × Verdict :=
  judgeDeepAux anew s.document.slots.size s h

/-- The verdict on a node, with `deep` taken together with those on what is inside it. -/
def verdictOn (s : Session) (h : Handle) (deep : Bool) : Session × Verdict :=
  if deep then s.judgeDeep false h else s.judge false h

/-- Evaluate all rules and find all verdicts anew. -/
def revalidate (s : Session) : Session × Verdict :=
  let s := s.checkAllRules
  match s.root? with
  | none => (s, .unknown)
  | some r => s.judgeDeep true r

end GuidedXml.Session
