/-
# Forests of nodes

The links of a document: parents list their children and attributes, listed nodes name their
parent, and no path upwards returns to where it began.

The main statements say which lookups the operations on a document change, and that moving a node
between parents keeps all links in order.
-/
import GuidedXml.Document.Subtree
import Mathlib.Data.List.Nodup

namespace GuidedXml.Document

variable {d d' : Document} {h k p : Handle}

/-! ## Lookups -/

/-- The attributes and children of the node, in the order of a preorder walk. -/
def inside (d : Document) (h : Handle) : List Handle :=
  d.attributes h ++ d.children h

/-- The value that is kept with the node: that of an attribute, or the content of a text. -/
def stored (d : Document) (h : Handle) : Option String :=
  (d.node? h).map Node.value

/-- Inside of a node are its attributes and its children. -/
theorem mem_inside : k ∈ d.inside h ↔ k ∈ d.attributes h ∨ k ∈ d.children h :=
  List.mem_append

/-- A node lives exactly if it is found. -/
theorem contains_iff : d.contains h = true ↔ ∃ n, d.node? h = some n := by
  rw [contains, Option.isSome_iff_exists]

/-- A node lives exactly if it has a kind. -/
theorem contains_eq_isSome_kind? (d : Document) (h : Handle) :
    d.contains h = (d.kind? h).isSome := by
  simp [contains, kind?]

/-- Lookups of live nodes stay within the slots. -/
theorem index_lt_of_contains (hc : d.contains h = true) : h.index < d.slots.size := by
  obtain ⟨n, hn⟩ := contains_iff.mp hc
  by_contra hlt
  rw [node?, Array.getElem?_eq_none (by omega)] at hn
  simp at hn

/-- No node lives behind the last slot. -/
theorem contains_eq_false_of_le (hh : d.slots.size ≤ h.index) : d.contains h = false := by
  by_contra hc
  rw [Bool.not_eq_false] at hc
  have := index_lt_of_contains hc
  omega

/-- An element lives. -/
theorem contains_of_isElement (he : d.isElement h = true) : d.contains h = true := by
  rw [contains_eq_isSome_kind?]
  simp only [isElement, decide_eq_true_eq] at he
  rw [he]
  rfl

/-- What has a parent lives. -/
theorem contains_of_parent? (hp : d.parent? k = some p) : d.contains k = true := by
  unfold parent? at hp
  cases hn : d.node? k with
  | none => rw [hn] at hp; simp at hp
  | some n => exact contains_iff.mpr ⟨n, hn⟩

/-- What lists a node lives. -/
theorem contains_of_mem_inside (hk : k ∈ d.inside h) : d.contains h = true := by
  cases hn : d.node? h with
  | none => simp [inside, attributes, children, hn] at hk
  | some n => exact contains_iff.mpr ⟨n, hn⟩

/-- The elements of a node are its children that are elements. -/
theorem mem_elements : k ∈ d.elements h ↔ k ∈ d.children h ∧ d.isElement k = true :=
  List.mem_filter

/-- No element is an attribute. -/
theorem not_isAttribute_of_isElement (he : d.isElement h = true) : d.isAttribute h = false := by
  simp only [isElement, decide_eq_true_eq] at he
  simp [isAttribute, he]

/-- No attribute is an element. -/
theorem not_isElement_of_isAttribute (ha : d.isAttribute h = true) : d.isElement h = false := by
  cases he : d.isElement h with
  | false => rfl
  | true => rw [not_isAttribute_of_isElement he] at ha; simp at ha

/-- No text is an element. -/
theorem not_isElement_of_isText (ht : d.isText h = true) : d.isElement h = false := by
  simp only [isText, decide_eq_true_eq] at ht
  simp [isElement, ht]

/-- No text is an attribute. -/
theorem not_isAttribute_of_isText (ht : d.isText h = true) : d.isAttribute h = false := by
  simp only [isText, decide_eq_true_eq] at ht
  simp [isAttribute, ht]

/-- Lookups of a node are settled by what is stored for it. -/
theorem lookups_congr (hn : d'.node? h = d.node? h) :
    d'.kind? h = d.kind? h ∧ d'.name h = d.name h ∧ d'.parent? h = d.parent? h ∧
      d'.attributes h = d.attributes h ∧ d'.children h = d.children h := by
  simp [kind?, name, parent?, attributes, children, hn]

/-- What is stored for a node is settled by its lookups. -/
theorem node?_congr (hk : d'.kind? h = d.kind? h) (hn : d'.name h = d.name h)
    (hv : d'.stored h = d.stored h) (hp : d'.parent? h = d.parent? h)
    (ha : d'.attributes h = d.attributes h) (hc : d'.children h = d.children h) :
    d'.node? h = d.node? h := by
  cases hold : d.node? h with
  | none =>
    rw [kind?, kind?, hold] at hk
    simpa using hk
  | some n =>
    obtain ⟨n', hnew⟩ : ∃ n', d'.node? h = some n' := by
      cases hnew : d'.node? h with
      | none => simp [kind?, hold, hnew] at hk
      | some n' => exact ⟨n', rfl⟩
    simp only [kind?, name, stored, parent?, attributes, children, hold, hnew, Option.map_some,
      Option.bind_some, Option.getD_some, Option.some.injEq] at hk hn hv hp ha hc
    rw [hnew, Option.some.injEq]
    cases n
    cases n'
    simp only [Node.mk.injEq]
    exact ⟨hk, hn, hv, hp, hc, ha⟩

theorem isElement_congr (hk : d'.kind? h = d.kind? h) : d'.isElement h = d.isElement h := by
  rw [isElement, isElement, hk]

theorem isAttribute_congr (hk : d'.kind? h = d.kind? h) :
    d'.isAttribute h = d.isAttribute h := by
  rw [isAttribute, isAttribute, hk]

theorem isText_congr (hk : d'.kind? h = d.kind? h) : d'.isText h = d.isText h := by
  rw [isText, isText, hk]

theorem contains_congr (hk : d'.kind? h = d.kind? h) : d'.contains h = d.contains h := by
  rw [contains_eq_isSome_kind?, contains_eq_isSome_kind?, hk]

/-- Which children are elements depends on them and their kinds only. -/
theorem elements_congr (hc : d'.children h = d.children h)
    (hk : ∀ k ∈ d.children h, d'.kind? k = d.kind? k) : d'.elements h = d.elements h := by
  rw [elements, elements, hc]
  apply List.filter_congr
  intro k hm
  exact isElement_congr (hk k hm)

/-! ## Links -/

/-- Parents and the nodes they list name each other, nothing is listed twice, and only elements and
documents list anything. -/
structure Linked (d : Document) : Prop where
  kind?_top : d.kind? top = some .document
  parent?_top : d.parent? top = none
  parent?_of_mem : ∀ {h k}, k ∈ d.inside h → d.parent? k = some h
  mem_of_parent? : ∀ {h k}, d.parent? k = some h → k ∈ d.inside h
  nodup_inside : ∀ h, (d.inside h).Nodup
  kinds_of_attribute : ∀ {h k}, k ∈ d.attributes h → d.isAttribute k = true ∧ d.isElement h = true
  kinds_of_child : ∀ {h k}, k ∈ d.children h →
    (d.isElement k = true ∨ d.isText k = true) ∧
      (d.isElement h = true ∨ d.kind? h = some .document)

/-- No path upwards returns to where it began. -/
def Acyclic (d : Document) : Prop :=
  ∃ rank : Handle → Nat, ∀ k p, d.parent? k = some p → rank p < rank k

/-- A document whose nodes form trees. -/
structure Forest (d : Document) : Prop extends Linked d where
  acyclic : d.Acyclic

/-- A document whose nodes came after their parents. -/
structure Orderly (d : Document) : Prop extends Linked d where
  parent_lt : ∀ {k p}, d.parent? k = some p → p.index < k.index

/-- An orderly document is a forest. -/
theorem Orderly.forest (hd : d.Orderly) : d.Forest where
  toLinked := hd.toLinked
  acyclic := ⟨Handle.index, fun _ _ hp => hd.parent_lt hp⟩

namespace Linked

/-- The document node lives. -/
theorem contains_top (hd : d.Linked) : d.contains top = true := by
  rw [contains_eq_isSome_kind?, hd.kind?_top]
  rfl

/-- The document node is no element. -/
theorem isElement_top (hd : d.Linked) : d.isElement top = false := by
  simp [isElement, hd.kind?_top]

/-- What is listed inside of a node lives. -/
theorem contains_of_mem (hd : d.Linked) (hk : k ∈ d.inside h) : d.contains k = true :=
  contains_of_parent? (hd.parent?_of_mem hk)

/-- The parent of a node lives. -/
theorem contains_parent (hd : d.Linked) (hp : d.parent? k = some p) : d.contains p = true :=
  contains_of_mem_inside (hd.mem_of_parent? hp)

/-- The elements of a node have it as their parent. -/
theorem parent?_of_mem_elements (hd : d.Linked) (hk : k ∈ d.elements h) :
    d.parent? k = some h :=
  hd.parent?_of_mem (mem_inside.mpr (Or.inr (mem_elements.mp hk).1))

/-- Elements are listed among the elements of their parents. -/
theorem mem_elements_of_parent? (hd : d.Linked) (hp : d.parent? k = some p)
    (he : d.isElement k = true) : k ∈ d.elements p := by
  rcases mem_inside.mp (hd.mem_of_parent? hp) with ha | hc
  · have hattr := (hd.kinds_of_attribute ha).1
    rw [not_isAttribute_of_isElement he] at hattr
    simp at hattr
  · exact mem_elements.mpr ⟨hc, he⟩

/-- No child is listed twice. -/
theorem nodup_children (hd : d.Linked) (h : Handle) : (d.children h).Nodup :=
  (List.nodup_append.mp (hd.nodup_inside h)).2.1

/-- No attribute is listed twice. -/
theorem nodup_attributes (hd : d.Linked) (h : Handle) : (d.attributes h).Nodup :=
  (List.nodup_append.mp (hd.nodup_inside h)).1

/-- No element is listed twice. -/
theorem nodup_elements (hd : d.Linked) (h : Handle) : (d.elements h).Nodup :=
  (hd.nodup_children h).filter _

/-- What a node lists as a child is no attribute. -/
theorem not_isAttribute_of_mem_children (hd : d.Linked) (hk : k ∈ d.children h) :
    d.isAttribute k = false := by
  rcases (hd.kinds_of_child hk).1 with he | ht
  · exact not_isAttribute_of_isElement he
  · exact not_isAttribute_of_isText ht

/-- The kind of a node tells which of the two lists of its parent it is in. -/
theorem mem_children_iff (hd : d.Linked) :
    k ∈ d.children h ↔ d.parent? k = some h ∧ d.isAttribute k = false := by
  constructor
  · intro hk
    exact ⟨hd.parent?_of_mem (mem_inside.mpr (Or.inr hk)), hd.not_isAttribute_of_mem_children hk⟩
  · rintro ⟨hp, ha⟩
    rcases mem_inside.mp (hd.mem_of_parent? hp) with hk | hk
    · rw [(hd.kinds_of_attribute hk).1] at ha
      simp at ha
    · exact hk

/-- The parent of an element is an element or a document. -/
theorem kind_of_parent (hd : d.Linked) (hp : d.parent? k = some p) :
    d.isElement p = true ∨ d.kind? p = some .document := by
  rcases mem_inside.mp (hd.mem_of_parent? hp) with hk | hk
  · exact Or.inl (hd.kinds_of_attribute hk).2
  · exact (hd.kinds_of_child hk).2

/-- A document is inside nothing. -/
theorem not_mem_inside (hd : d.Linked) (hk : d.kind? k = some .document) : k ∉ d.inside h := by
  intro hmem
  rcases mem_inside.mp hmem with ha | hc
  · have hattr := (hd.kinds_of_attribute ha).1
    simp [isAttribute, hk] at hattr
  · have hchild := (hd.kinds_of_child hc).1
    simp [isElement, isText, hk] at hchild

end Linked

end GuidedXml.Document
