/-
# Nodes and handles

The kinds of nodes of a document, the handles by which nodes are known, and what is stored for one
node.
-/

namespace GuidedXml

/-- The name of a node within its document. A handle is given out once and never again. -/
structure Handle where
  /-- The number of nodes that came before. It has no bound: words of 32 bits are enough for as many
  nodes as fit into memory, and what happens to a document beyond that is left open. -/
  index : Nat
  deriving DecidableEq, Repr, Inhabited

/-- How a handle is shown. -/
def Handle.render (h : Handle) : String :=
  "#" ++ toString h.index

/-- What a node is. -/
inductive Kind where
  | document | element | attribute | text
  deriving DecidableEq, Repr

/-- What a document stores for a node. -/
structure Node where
  /-- What the node is. -/
  kind : Kind
  /-- The name of an element or attribute, empty for other nodes. -/
  name : String := ""
  /-- The value of an attribute or the content of a text, empty for other nodes. -/
  value : String := ""
  /-- The element or document that the node belongs to. -/
  parent : Option Handle := none
  /-- The elements and texts inside, in document order. -/
  children : List Handle := []
  /-- The attributes, in the order of their declaration. -/
  attributes : List Handle := []
  deriving DecidableEq, Repr

end GuidedXml
