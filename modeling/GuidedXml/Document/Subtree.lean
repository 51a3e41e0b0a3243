/-
# Subtrees

What lies at and below a node: the list of its handles, its removal, and its content without
handles, which can be written into any document under new handles.

The main statement says that laying out a content takes as many nodes as the content has.
-/
import GuidedXml.Document.Linking

namespace GuidedXml

/-! ## Contents -/

/-- What a subtree holds, apart from its handles: a node, its attributes with their values, and
what is inside it. -/
inductive Tree where
  | node (kind : Kind) (name value : String) (attributes : List (String × String))
      (children : List Tree)
  deriving Repr

namespace Tree

/-- What the outermost node is. -/
def kind : Tree → Kind
  | node k _ _ _ _ => k

/-- The name of the outermost node. -/
def name : Tree → String
  | node _ n _ _ _ => n

/-- The value of the outermost node. -/
def ownValue : Tree → String
  | node _ _ v _ _ => v

/-- The attributes of the outermost node. -/
def attributes : Tree → List (String × String)
  | node _ _ _ as _ => as

/-- What is just inside the outermost node. -/
def children : Tree → List Tree
  | node _ _ _ _ ts => ts

/-- The elements just inside the outermost node. -/
def elements (t : Tree) : List Tree :=
  t.children.filter fun c => c.kind = .element

/-- The value of the attribute of that name. -/
def attribute? (t : Tree) (name : String) : Option String :=
  t.attributes.lookup name

/-- The content of the first text just inside the outermost node. -/
def textInside (t : Tree) : String :=
  ((t.children.find? fun c => c.kind = .text).map ownValue).getD ""

mutual
/-- The texts inside and below the node, joined. -/
def allText : Tree → String
  | node kind _ value _ ts => (if kind = .text then value else "") ++ allTexts ts
/-- The texts inside and below a list of contents, joined. -/
def allTexts : List Tree → String
  | [] => ""
  | t :: ts => allText t ++ allTexts ts
end

mutual
/-- The first element of that name in preorder, the outermost node included. -/
def findElement? (name : String) : Tree → Option Tree
  | node kind n value as ts =>
    if kind = .element && n = name then some (node kind n value as ts) else findElementAmong? name ts
/-- The first element of that name in a list of contents. -/
def findElementAmong? (name : String) : List Tree → Option Tree
  | [] => none
  | t :: ts => (findElement? name t).or (findElementAmong? name ts)
end

/-- An element. -/
def element (name : String) (attributes : List (String × String)) (children : List Tree) : Tree :=
  node .element name "" attributes children

/-- A text. -/
def text (value : String) : Tree :=
  node .text "" value [] []

mutual
/-- The number of nodes, attributes included. -/
def size : Tree → Nat
  | node _ _ _ as ts => 1 + as.length + sizeAll ts
/-- The number of nodes of a list of contents. -/
def sizeAll : List Tree → Nat
  | [] => 0
  | t :: ts => size t + sizeAll ts
end

theorem size_pos (t : Tree) : 0 < t.size := by
  cases t
  simp only [size]
  omega

/-- A member of a list of contents has no more nodes than the list. -/
theorem size_le_sizeAll {t : Tree} {ts : List Tree} (h : t ∈ ts) : t.size ≤ sizeAll ts := by
  induction ts with
  | nil => simp at h
  | cons u us ih =>
    simp only [sizeAll]
    rcases List.mem_cons.mp h with rfl | h
    · omega
    · have := ih h
      omega

/-- Leaving out contents leaves out their nodes. -/
theorem sizeAll_filter_le (p : Tree → Bool) (ts : List Tree) : sizeAll (ts.filter p) ≤ sizeAll ts := by
  induction ts with
  | nil => simp [sizeAll]
  | cons t ts ih =>
    by_cases hp : p t
    · simp only [List.filter_cons, hp, if_true, sizeAll]
      omega
    · simp only [List.filter_cons, hp, Bool.false_eq_true, if_false, sizeAll]
      omega

/-- The elements inside have fewer nodes than the whole. -/
theorem sizeAll_elements_lt (t : Tree) : sizeAll t.elements < t.size := by
  obtain ⟨kind, name, value, as, ts⟩ := t
  have := sizeAll_filter_le (fun c => decide (c.kind = .element)) ts
  simp only [elements, children, size]
  omega

/-- An element inside has fewer nodes than the whole. -/
theorem size_lt_of_mem_elements {c t : Tree} (h : c ∈ t.elements) : c.size < t.size :=
  Nat.lt_of_le_of_lt (size_le_sizeAll h) (sizeAll_elements_lt t)

/-- The handles of the outermost nodes of a list of contents that are laid out from `first` on. -/
def heads (first : Nat) : List Tree → List Handle
  | [] => []
  | t :: ts => ⟨first⟩ :: heads (first + t.size) ts

mutual
/-- The nodes of a content in preorder, with the handles from `first` on: a node, then its
attributes, then what is inside it. -/
def layout (parent : Option Handle) (first : Nat) : Tree → List Node
  | node kind name value as ts =>
    let inside := first + 1 + as.length
    { kind, name, value, parent,
      children := heads inside ts,
      attributes := (List.range as.length).map fun i => ⟨first + 1 + i⟩ } ::
    (as.map fun a =>
      ({ kind := .attribute, name := a.1, value := a.2, parent := some ⟨first⟩ } : Node)) ++
    layoutAll (some ⟨first⟩) inside ts
/-- The nodes of a list of contents, one content after the other. -/
def layoutAll (parent : Option Handle) (first : Nat) : List Tree → List Node
  | [] => []
  | t :: ts => layout parent first t ++ layoutAll parent (first + t.size) ts
end

mutual
/-- Laying out takes as many nodes as the content has. -/
theorem length_layout (parent : Option Handle) (first : Nat) :
    ∀ t : Tree, (layout parent first t).length = t.size
  | node _ _ _ as ts => by
    simp [layout, size, length_layoutAll]
    omega
/-- Laying out a list of contents takes as many nodes as they have. -/
theorem length_layoutAll (parent : Option Handle) (first : Nat) :
    ∀ ts : List Tree, (layoutAll parent first ts).length = sizeAll ts
  | [] => by simp [layoutAll, sizeAll]
  | t :: ts => by simp [layoutAll, sizeAll, length_layout, length_layoutAll]
end

end Tree

namespace Document

/-! ## Reading and writing contents -/

/-- The content of the subtree at a node, at most `fuel` levels deep. -/
def contentAux (d : Document) : Nat → Handle → Option Tree
  | 0, _ => none
  | fuel + 1, h => do
    let n ← d.node? h
    let attributes ← n.attributes.mapM fun a => (d.node? a).map fun m => (m.name, m.value)
    let children ← n.children.mapM (contentAux d fuel)
    some (.node n.kind n.name n.value attributes children)

/-- The content of the subtree at a live node. A path downwards visits no node twice, so the number
of slots bounds the depth. -/
def content? (d : Document) (h : Handle) : Option Tree :=
  d.contentAux d.slots.size h

/-- Write a content into the document, not yet placed, under the next handles in preorder. -/
def write (d : Document) (t : Tree) : Document × Handle :=
  (⟨d.slots ++ (t.layout none d.slots.size).map some⟩, d.next)

/-- Copy the subtree of a node of another document, not yet placed. -/
def copyFrom (d : Document) (source : Document) (h : Handle) :
    Except Fault (Document × Handle) :=
  match source.content? h with
  | none => .error (.nodeNotFound h)
  | some t => .ok (d.write t)

/-- The document with one outermost element of the given content, numbered in preorder. -/
def ofTree (root : Tree) : Document :=
  ⟨(((Tree.node .document "" "" [] [root]).layout none 0).map some).toArray⟩

/-! ## Handles of a subtree -/

/-- The live nodes of the subtree at a node in preorder, at most `fuel` levels deep. -/
def subtreeAux (d : Document) : Nat → Handle → List Handle
  | 0, _ => []
  | fuel + 1, h =>
    match d.node? h with
    | none => []
    | some n => h :: (n.attributes ++ n.children).flatMap (subtreeAux d fuel)

/-- The live nodes of the subtree at a node in preorder: the node, its attributes, and what is
inside it. -/
def subtree (d : Document) (h : Handle) : List Handle :=
  d.subtreeAux d.slots.size h

/-- Remove a subtree that belongs to no parent. -/
def discard (d : Document) (h : Handle) : Except Fault Document :=
  match d.node? h with
  | none => .error (.nodeNotFound h)
  | some n =>
    if n.parent.isSome then .error (.stillAttached h)
    else .ok ((d.subtree h).foldl drop d)

end Document

end GuidedXml
