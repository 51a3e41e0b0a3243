/-
# Parameters of rules

A parameter is a reference into the document. It is written with dots between the names and with
positions in braces, and may ask for the value of an attribute or of an element:
`a.b{2}.ATTRIBUTE.c` for the attribute `c` and `a.b.CONTENT` for the element `b`. Any other
reference only asks whether there is such a node.
-/
import GuidedXml.Diagnostic
import GuidedXml.Path

namespace GuidedXml

/-- What a parameter stands for where its path leads somewhere. -/
inductive Parameter.Kind where
  /-- The value of the node. -/
  | value
  /-- The presence of the node alone; the value is empty. -/
  | presence
  deriving DecidableEq, Repr

/-- A parameter of a rule. -/
structure Parameter where
  /-- The name by which literals refer to the parameter. -/
  id : String
  /-- The name shown to people. -/
  name : String
  /-- The reference, as it is written. -/
  reference : String
  deriving DecidableEq, Repr

namespace Parameter

/-! ## The path of a reference -/

/-- The mark before the name of an attribute. -/
def attributeMark : List Char := ".ATTRIBUTE.".toList

/-- The mark after an element whose value is asked for. -/
def contentMark : List Char := ".CONTENT".toList

/-- The reference with brackets around its positions. -/
def bracketed (p : Parameter) : List Char :=
  (Text.trim p.reference.toList).map fun c =>
    if c = '{' then '[' else if c = '}' then ']' else c

/-- What the parameter stands for. -/
def kind (p : Parameter) : Kind :=
  if Text.hasPiece attributeMark p.bracketed || Text.hasPiece contentMark p.bracketed then .value
  else .presence

/-- The reference as the text of a path. -/
def pathText (p : Parameter) : List Char :=
  let cs := p.bracketed
  let marked :=
    if Text.hasPiece attributeMark cs then Text.replaceAll attributeMark ['/', '@'] cs
    else Text.replaceAll contentMark [] cs
  marked.map fun c => if c = '.' then '/' else c

/-- The path of the parameter, if its reference has one. -/
def path (p : Parameter) : Except Fault Path :=
  Path.read (String.ofList p.pathText)

/-- Why the parameter never stands for anything, if it never does. -/
def diagnostic? (p : Parameter) : Option Diagnostic :=
  match p.path with
  | .ok _ => none
  | .error fault => some
      { severity := .warning
        subject := p.reference
        message := fault.message
        suggestion := some "use dots between element names, \x7bn\x7d for positions" }

/-! ## Resolution -/

/-- The first node that the parameter leads to in a document, and its value. -/
def resolve? (p : Parameter) (d : Document) : Option (Handle × String) :=
  match p.path with
  | .error _ => none
  | .ok path =>
    (path.selectFirst? d).map fun h =>
      (h, match p.kind with
        | .value => d.value h
        | .presence => "")

end Parameter

end GuidedXml
