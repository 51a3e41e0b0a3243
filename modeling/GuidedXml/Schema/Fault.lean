/-
# Faults of schemas

Why a text is no schema, and why a schema says nothing about a document with a given root.
-/
import GuidedXml.Document.Fault

namespace GuidedXml.Schema

/-- What the reading of a schema may go through only once at a time. -/
inductive Key where
  | element (name : String)
  | type (name : String)
  | group (name : String)
  | attributeGroup (name : String)
  deriving DecidableEq, Repr

/-- How a message names a key. -/
def Key.render : Key → String
  | element name => "element:" ++ name
  | type name => "type:" ++ name
  | group name => "group:" ++ name
  | attributeGroup name => "attributeGroup:" ++ name

/-- Why a schema cannot be used. -/
inductive SchemaFault where
  | malformed (fault : Fault)
  /-- The root element has another name. -/
  | notASchema (root : String)
  | unknownElement (name : String)
  | unknownType (name : String)
  | unknownGroup (name : String)
  /-- The content model leads back to what it started from. -/
  | recursive (key : Key)
  | invalidOccurs (text : String)
  | missingAttribute (name : String)
  deriving DecidableEq, Repr

/-- The text of the fault. -/
def SchemaFault.message : SchemaFault → String
  | malformed fault => "Schema is not well-formed XML: " ++ fault.message
  | notASchema root => "Not a schema document: root element is <" ++ root ++ ">"
  | unknownElement name => "No global element named '" ++ name ++ "'"
  | unknownType name => "Unknown type '" ++ name ++ "'"
  | unknownGroup name => "Unknown group '" ++ name ++ "'"
  | recursive key => "Content model of '" ++ key.render ++ "' refers back to itself"
  | invalidOccurs text => "Invalid occurrence bound '" ++ text ++ "'"
  | missingAttribute name => "Declaration is missing its '" ++ name ++ "' attribute"

end GuidedXml.Schema
