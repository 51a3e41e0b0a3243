/-
# Opening sessions

A session begins with a new document, which is as small as its content model allows, or with a given
one, which has to be as its content model says.
-/
import GuidedXml.Editing.Session.Edits
import GuidedXml.Markup.Reading
import GuidedXml.Rule.File

namespace GuidedXml

open Schema (ContentModel SchemaFault)

/-- Why a session cannot be opened. -/
inductive OpeningFault where
  /-- The document with that root is not as its content model says. -/
  | notCompliant (root : String)
  | edit (fault : EditFault)
  | schema (fault : SchemaFault)
  | rules (fault : RuleFileFault)
  | document (fault : Fault)
  /-- The text is no settings. -/
  | settings
  deriving DecidableEq, Repr

/-- The text of the fault. -/
def OpeningFault.message : OpeningFault → String
  | notCompliant root => "Document does not comply with the schema of <" ++ root ++ ">"
  | edit fault => "Mutation error: " ++ fault.message
  | schema fault => "Schema error: " ++ fault.message
  | rules fault => "Rule file error: " ++ fault.message
  | document fault => "Document error: " ++ fault.message
  | settings => "Invalid configuration"

namespace Session

/-- Draw the outline and evaluate all rules for the first time. -/
def begin (s : Session) : Session :=
  let workspace := { s.workspace with outline := .ofDocument s.document }
  { s with workspace := workspace }.checkAllRules

/-- A session with the smallest document that the content model allows. -/
def create (m : ContentModel) (rules : RuleBook) (settings : Settings) :
    Except OpeningFault Session :=
  let s := start .empty m rules settings
  match s.workspace.create s.document ContentModel.root with
  | (_, none) => .error (.edit (s.unsupported ContentModel.root))
  | (stage, some h) =>
    let made := s.withStage stage
    match made.document.setRoot h with
    | (_, .error fault) => .error (.document fault)
    | (d, .ok _) => .ok { made with document := d }.begin

/-- A session with a document, which has to bind completely. -/
def ofDocument (d : Document) (m : ContentModel) (rules : RuleBook) (settings : Settings) :
    Except OpeningFault Session :=
  match d.root? with
  | none => .error (.document .missingRoot)
  | some r =>
    let s := start d m rules settings
    match s.workspace.bind d r ContentModel.root with
    | (_, false) => .error (.notCompliant (d.name r))
    | (w, true) => .ok { s with workspace := w }.begin

/-- A session with a written document, whose content model depends on the name of its root. -/
def load (xml : String) (modelOf : String → Except SchemaFault ContentModel) (rules : RuleBook)
    (settings : Settings) : Except OpeningFault Session :=
  match Document.read xml with
  | .error fault => .error (.document fault)
  | .ok d =>
    match d.root? with
    | none => .error (.document .missingRoot)
    | some r =>
      match modelOf (d.name r) with
      | .error fault => .error (.schema fault)
      | .ok m => ofDocument d m rules settings

/-- The settings that a text describes, or the ones that hold without it. -/
def settingsOf (source : Option String) : Except OpeningFault Settings :=
  match source with
  | none => .ok {}
  | some text => (Settings.read? text).elim (.error .settings) .ok

/-- The rules that a text describes, or none without it. -/
def rulesOf (source : Option String) : Except OpeningFault RuleBook :=
  match source with
  | none => .ok {}
  | some text => (RuleBook.read text).mapError .rules

end Session

end GuidedXml
