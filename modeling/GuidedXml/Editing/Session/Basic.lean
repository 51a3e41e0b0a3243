/-
# Sessions

A session is the editing of one document: the document, the workspace that follows it, the rules in
force, and what there is to tell the user.

The main statement says that checking no rules changes nothing.
-/
import GuidedXml.Editing.Notice
import GuidedXml.Editing.Settings
import GuidedXml.Editing.Workspace.Basic
import GuidedXml.Markup.Writing
import GuidedXml.Schema.Validity

namespace GuidedXml

open Schema (ContentModel)

/-- The editing of one document. -/
structure Session where
  document : Document
  workspace : Workspace
  rules : RuleBook := {}
  settings : Settings := {}
  /-- The complaints of the latest evaluation of each rule. -/
  diagnostics : Table RuleId (List Diagnostic) := {}
  /-- All notices so far, oldest first. -/
  notices : List Notice := []
  /-- How many of them the user has taken. -/
  taken : Nat := 0
  deriving Repr

namespace Session

/-- The session at its beginning, when nothing is known of the document. -/
def start (d : Document) (m : ContentModel) (rules : RuleBook) (settings : Settings) : Session where
  document := d
  workspace := { model := m, whitelist := settings.whitelist }
  rules := rules
  settings := settings

/-- The outermost element. -/
def root? (s : Session) : Option Handle :=
  s.document.root?

/-- The written form of the document. -/
def save (s : Session) : Except Fault String :=
  s.document.save s.settings.saveIndent

/-- The complaints of the latest evaluation of a rule. -/
def diagnosticsOf (s : Session) (r : RuleId) : List Diagnostic :=
  s.diagnostics.getD r []

/-! ## Notices -/

/-- Queue a notice. -/
def notify (s : Session) (n : Notice) : Session :=
  { s with notices := s.notices ++ [n] }

/-- The notices that the user has not taken yet, oldest first. -/
def pending (s : Session) : List Notice :=
  s.notices.drop s.taken

/-- Hand all pending notices to the user. -/
def takeNotices (s : Session) : Session × List Notice :=
  ({ s with taken := s.notices.length }, s.pending)

/-- Once they are taken, no notices are pending. -/
theorem pending_takeNotices (s : Session) : s.takeNotices.1.pending = [] := by
  simp [takeNotices, pending]

/-! ## Rules -/

/-- Tell the user that a rule is violated, and wait for it to hold again. -/
def report (s : Session) (r : RuleId) : Session :=
  match s.rules.get? r with
  | none => s
  | some e =>
    let (rules, ticket) := s.rules.subscribe r
    { s with rules := rules }.notify (.ofViolation e.rule.message { rule := r, ticket := ticket })

/-- Note what an evaluation of a rule found out, and tell the user if the rule is violated and held
before. -/
def noteEvaluation (held : RuleId → Bool) (s : Session) (e : RuleId × RuleBook.Evaluation) :
    Session :=
  let noted := { s with
    workspace := s.workspace.recordRule e.1 e.2.nodes
    diagnostics := s.diagnostics.insert e.1 e.2.diagnostics }
  if !noted.rules.isSatisfied e.1 && held e.1 then noted.report e.1 else noted

/-- Whether the user has not been told that the rule is violated: it was never evaluated, or it
holds. -/
def isQuietAbout (s : Session) (r : RuleId) : Bool :=
  !s.workspace.recorded.contains r || s.rules.isSatisfied r

/-- Evaluate rules again. -/
def checkRules (s : Session) (rs : List RuleId) : Session :=
  let (rules, evaluations) := s.rules.evaluate s.document rs
  evaluations.foldl (noteEvaluation s.isQuietAbout) { s with rules := rules }

/-- Evaluate all rules again. -/
def checkAllRules (s : Session) : Session :=
  s.checkRules s.rules.ids

/-- Evaluate the rules again that led to fewer nodes than they have parameters: a new node can be
one that was missing. -/
def checkMissing (s : Session) : Session :=
  s.checkRules (s.rules.missingParameters fun r => (s.workspace.recorded.get? r).map List.length)

@[simp] theorem checkRules_nil (s : Session) : s.checkRules [] = s := rfl

end Session

end GuidedXml
