/-
# Writing documents

The written form of an element, in one line or with every tag on a line of its own. A tag goes to a
new line unless text stands just before it, since a line break there would belong to the text.
-/
import GuidedXml.Document.Subtree
import GuidedXml.Markup.Reference

namespace GuidedXml.Markup

/-- The line break before a tag, `depth` levels down; none if the width of a level is zero. -/
def lineBreak (width depth : Nat) : List Char :=
  if width = 0 then [] else '\n' :: List.replicate (width * depth) ' '

/-- The written form of an attribute, with the blank before it. -/
def writeAttribute (a : String × String) : List Char :=
  ' ' :: a.1.toList ++ '=' :: '"' :: escape a.2.toList ++ ['"']

/-- Whether a tag just after the content may go to a new line: only text forbids it. -/
def breaksAfter (t : Tree) : Bool :=
  t.kind ≠ .text

mutual
/-- The written form of a content `depth` levels down; `fresh` says whether a tag may go to a new
line here. -/
def writeAt (width depth : Nat) (fresh : Bool) : Tree → List Char
  | .node kind name value as ts =>
    if kind = .text then escape value.toList
    else
      let before := if fresh then lineBreak width depth else []
      let start := before ++ '<' :: name.toList ++ as.flatMap writeAttribute
      if ts.isEmpty then start ++ ['/', '>']
      else
        let last := ((ts.getLast?).map breaksAfter).getD true
        let after := if last then lineBreak width depth else []
        start ++ '>' :: writeAllAt width (depth + 1) true ts ++
          after ++ '<' :: '/' :: name.toList ++ ['>']
/-- The written form of a list of contents, one after the other. -/
def writeAllAt (width depth : Nat) (fresh : Bool) : List Tree → List Char
  | [] => []
  | t :: ts => writeAt width depth fresh t ++ writeAllAt width depth (breaksAfter t) ts
end

/-- The declaration at the start of a written document. -/
def declaration : List Char :=
  "<?xml version=\"1.0\" encoding=\"UTF-8\"?>".toList

/-- The written form of a content in one line. -/
def writeFragment (t : Tree) : String :=
  String.ofList (writeAt 0 0 false t)

/-- The written form of a document with the given outermost element; zero as the width of a level
writes it in one line. -/
def writeDocument (width : Nat) (root : Tree) : String :=
  String.ofList (declaration ++ writeAt width 0 true root)

end GuidedXml.Markup

namespace GuidedXml.Document

/-- The written form of an element or text in one line. -/
def fragment (d : Document) (h : Handle) : Except Fault String :=
  match d.content? h with
  | none => .error (.nodeNotFound h)
  | some t =>
    if t.kind = .element ∨ t.kind = .text then .ok (Markup.writeFragment t)
    else .error (.invalidChild h)

/-- The written form of the document, each level indented by `width` blanks. -/
def save (d : Document) (width : Nat) : Except Fault String :=
  match d.root? with
  | none => .error .missingRoot
  | some root =>
    match d.content? root with
    | none => .error (.nodeNotFound root)
    | some t => .ok (Markup.writeDocument width t)

end GuidedXml.Document
