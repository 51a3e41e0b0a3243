/-
# Faults of documents

Why a text is no document, why an operation on a document is refused, and why a text is no path.
-/
import GuidedXml.Document.Node

namespace GuidedXml

/-- What is wrong with a piece of markup. -/
inductive MarkupCause where
  /-- The text ends before the element is closed. -/
  | unclosedElement (name : String)
  /-- A tag, comment, section, instruction or declaration has no end. -/
  | unclosedMarkup
  /-- A start of markup that is none of the known ones. -/
  | unknownMarkup
  /-- An end tag without an open element. -/
  | strayEndTag
  /-- An end tag that names another element than the open one. -/
  | mismatchedEndTag
  /-- A reference without end, or to an entity or character that does not exist. -/
  | badReference
  /-- An attribute without a quoted value, or a repeated one. -/
  | badAttribute
  deriving DecidableEq, Repr

/-- The text of a cause. -/
def MarkupCause.message : MarkupCause → String
  | unclosedElement name => "unclosed element <" ++ name ++ ">"
  | unclosedMarkup => "markup has no end"
  | unknownMarkup => "unknown markup"
  | strayEndTag => "end tag without an open element"
  | mismatchedEndTag => "end tag does not match the open element"
  | badReference => "bad reference"
  | badAttribute => "bad attribute"

/-- What is wrong with a path. -/
inductive PathCause where
  | emptyPath
  | attributeNotLast
  | noElementStep
  | unclosedPredicate (segment : String)
  | notAPosition (predicate : String)
  | positionZero
  | invalidName (name : String)
  deriving DecidableEq, Repr

/-- The text of a cause. -/
def PathCause.message : PathCause → String
  | emptyPath => "empty path"
  | attributeNotLast => "attribute step must come last"
  | noElementStep => "no element step"
  | unclosedPredicate segment => "unclosed predicate in '" ++ segment ++ "'"
  | notAPosition predicate => "'" ++ predicate ++ "' is not a position"
  | positionZero => "positions start at 1"
  | invalidName name => "invalid name '" ++ name ++ "'"

/-- Why something cannot be done with a document. -/
inductive Fault where
  /-- The text is not well formed at a byte position. -/
  | malformed (position : Nat) (cause : MarkupCause)
  | missingRoot
  | multipleRoots
  /-- The handle names no node, or no longer. -/
  | nodeNotFound (node : Handle)
  | notAnElement (node : Handle)
  | invalidChild (node : Handle)
  | stillAttached (node : Handle)
  | notAChild (node parent : Handle)
  | invalidPath (path : String) (cause : PathCause)
  deriving DecidableEq, Repr

/-- The text of a fault. -/
def Fault.message : Fault → String
  | malformed position cause =>
    "XML syntax error at byte " ++ toString position ++ ": " ++ cause.message
  | missingRoot => "Document has no root element"
  | multipleRoots => "Document has more than one root element"
  | nodeNotFound node => "Node not found: " ++ node.render
  | notAnElement node => "Node " ++ node.render ++ " is not an element"
  | invalidChild node => "Node " ++ node.render ++ " cannot be placed there"
  | stillAttached node => "Node " ++ node.render ++ " is still attached"
  | notAChild node parent => "Node " ++ node.render ++ " is not a child of " ++ parent.render
  | invalidPath path cause => "Invalid path '" ++ path ++ "': " ++ cause.message

end GuidedXml
