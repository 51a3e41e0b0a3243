/-
# Growing documents

New nodes go behind all slots, so they change no lookup of a node that was there. A content that is
written at once is laid out in preorder, and its links are in order among themselves.

The main statements say that adding a bare node and writing a proper content keep a document in
order, and that a document made of a proper content is in order.
-/
import GuidedXml.Proofs.Document.Subtree

namespace GuidedXml

/-! ## Proper contents -/

/-- A content in which only elements have attributes and only elements and documents have something
inside, which is elements and texts. -/
inductive Tree.Proper : Tree → Prop
  | node {kind : Kind} {name value : String} {as : List (String × String)} {ts : List Tree} :
      (as ≠ [] → kind = .element) → (ts ≠ [] → kind = .element ∨ kind = .document) →
      (∀ t ∈ ts, t.kind = .element ∨ t.kind = .text) → (∀ t ∈ ts, Tree.Proper t) →
      Tree.Proper (.node kind name value as ts)

namespace Document

variable {d d' : Document} {h k p c : Handle}

/-! ## Extensions -/

/-- The second document has all slots of the first one, unchanged, and maybe more. -/
structure Extends (d d' : Document) : Prop where
  size : d.slots.size ≤ d'.slots.size
  node? : ∀ h, h.index < d.slots.size → d'.node? h = d.node? h

namespace Extends

theorem refl (d : Document) : Extends d d :=
  ⟨Nat.le_refl _, fun _ _ => rfl⟩

theorem trans {d'' : Document} (h₁ : Extends d d') (h₂ : Extends d' d'') : Extends d d'' where
  size := Nat.le_trans h₁.size h₂.size
  node? := fun h hh => by
    rw [h₂.node? h (Nat.lt_of_lt_of_le hh h₁.size), h₁.node? h hh]

/-- Lookups of old nodes are as before. -/
theorem lookups (he : Extends d d') (hc : d.contains h = true) :
    d'.kind? h = d.kind? h ∧ d'.name h = d.name h ∧ d'.parent? h = d.parent? h ∧
      d'.attributes h = d.attributes h ∧ d'.children h = d.children h :=
  lookups_congr (he.node? h (index_lt_of_contains hc))

theorem contains_eq (he : Extends d d') (hh : h.index < d.slots.size) :
    d'.contains h = d.contains h :=
  contains_congr (lookups_congr (he.node? h hh)).1

/-- A node that was not there before goes behind all slots. -/
theorem le_index (he : Extends d d') (hc : d.contains h = false) (hc' : d'.contains h = true) :
    d.slots.size ≤ h.index := by
  by_contra hlt
  rw [he.contains_eq (Nat.lt_of_not_le hlt), hc] at hc'
  simp at hc'

end Extends

theorem extends_push (d : Document) (n : Node) : Extends d (d.push n).1 where
  size := by simp [push]
  node? := fun h hh => by
    rw [node?_push, if_neg]
    rintro rfl
    exact Nat.lt_irrefl _ hh

theorem size_push (d : Document) (n : Node) :
    (d.push n).1.slots.size = d.slots.size + 1 := by
  simp [push]

/-- One node is made at a time. -/
theorem eq_next_of_contains_push {n : Node} (hnew : d.slots.size ≤ h.index)
    (hc : (d.push n).1.contains h = true) : h = d.next := by
  have hlt := index_lt_of_contains hc
  rw [size_push] at hlt
  exact congrArg Handle.mk (by omega : h.index = d.slots.size)

/-- Nothing is known of the next handle. -/
theorem node?_next (d : Document) : d.node? d.next = none := by
  simp [node?, next]

theorem ne_next_of_contains (hc : d.contains h = true) : h ≠ d.next := by
  rintro rfl
  simp [contains, node?_next] at hc

/-! ## Sound nodes -/

/-- The links from a node downwards are in order. -/
structure SoundAt (d : Document) (h : Handle) : Prop where
  parent?_of_mem : ∀ {k}, k ∈ d.inside h → d.parent? k = some h ∧ h.index < k.index
  nodup_inside : (d.inside h).Nodup
  kinds_of_attribute : ∀ {k}, k ∈ d.attributes h → d.isAttribute k = true ∧ d.isElement h = true
  kinds_of_child : ∀ {k}, k ∈ d.children h →
    (d.isElement k = true ∨ d.isText k = true) ∧
      (d.isElement h = true ∨ d.kind? h = some .document)

theorem Orderly.soundAt (hd : d.Orderly) (h : Handle) : d.SoundAt h where
  parent?_of_mem := fun hk => ⟨hd.parent?_of_mem hk, hd.parent_lt (hd.parent?_of_mem hk)⟩
  nodup_inside := hd.nodup_inside h
  kinds_of_attribute := hd.kinds_of_attribute
  kinds_of_child := hd.kinds_of_child

/-- A document is in order if all its nodes are. -/
theorem orderly_of_soundAt (hk : d.kind? top = some .document) (hp : d.parent? top = none)
    (hs : ∀ h, d.contains h = true → d.SoundAt h)
    (hu : ∀ h p, d.parent? h = some p → h ∈ d.inside p) : d.Orderly where
  kind?_top := hk
  parent?_top := hp
  parent?_of_mem := fun hm => ((hs _ (contains_of_mem_inside hm)).parent?_of_mem hm).1
  mem_of_parent? := fun hq => hu _ _ hq
  nodup_inside := by
    intro h
    by_cases hc : d.contains h = true
    · exact (hs h hc).nodup_inside
    · have hn : d.node? h = none := by simpa [contains] using hc
      simp [inside, attributes, children, hn]
  kinds_of_attribute := fun hm =>
    (hs _ (contains_of_mem_inside (mem_inside.mpr (Or.inl hm)))).kinds_of_attribute hm
  kinds_of_child := fun hm =>
    (hs _ (contains_of_mem_inside (mem_inside.mpr (Or.inr hm)))).kinds_of_child hm
  parent_lt := fun hq => ((hs _ (contains_of_mem_inside (hu _ _ hq))).parent?_of_mem (hu _ _ hq)).2

/-- In a larger document the old nodes are as sound as before. -/
theorem Extends.soundAt (he : Extends d d') (hd : d.Orderly) (hh : h.index < d.slots.size) :
    d'.SoundAt h := by
  have hs := hd.soundAt h
  have heq := lookups_congr (he.node? h hh)
  have hin : d'.inside h = d.inside h := by rw [inside, inside, heq.2.2.2.1, heq.2.2.2.2]
  refine ⟨?_, ?_, ?_, ?_⟩
  · intro k hk
    rw [hin] at hk
    rw [(he.lookups (hd.contains_of_mem hk)).2.2.1]
    exact hs.parent?_of_mem hk
  · rw [hin]
    exact hs.nodup_inside
  · intro k hk
    rw [heq.2.2.2.1] at hk
    have hkc := hd.contains_of_mem (mem_inside.mpr (Or.inl hk))
    rw [isAttribute_congr (he.lookups hkc).1, isElement_congr heq.1]
    exact hs.kinds_of_attribute hk
  · intro k hk
    rw [heq.2.2.2.2] at hk
    have hkc := hd.contains_of_mem (mem_inside.mpr (Or.inr hk))
    rw [isElement_congr (he.lookups hkc).1, isText_congr (he.lookups hkc).1,
      isElement_congr heq.1, heq.1]
    exact hs.kinds_of_child hk

/-- A larger document is in order if the new nodes are. -/
theorem Extends.orderly (he : Extends d d') (hd : d.Orderly)
    (hs : ∀ h, d'.contains h = true → d.slots.size ≤ h.index → d'.SoundAt h)
    (hu : ∀ h p, d.slots.size ≤ h.index → d'.parent? h = some p → h ∈ d'.inside p) :
    d'.Orderly := by
  have htop := he.lookups hd.contains_top
  refine orderly_of_soundAt (by rw [htop.1, hd.kind?_top]) (by rw [htop.2.2.1, hd.parent?_top])
    ?_ ?_
  · intro h hc
    by_cases hh : h.index < d.slots.size
    · exact he.soundAt hd hh
    · exact hs h hc (by omega)
  · intro h p hp
    by_cases hh : h.index < d.slots.size
    · rw [(lookups_congr (he.node? h hh)).2.2.1] at hp
      have heq := he.lookups (hd.contains_parent hp)
      rw [inside, heq.2.2.2.1, heq.2.2.2.2]
      exact hd.mem_of_parent? hp
    · exact hu h p (by omega) hp

/-- A document with more empty slots is in order. -/
theorem Extends.orderly_of_node? (he : Extends d d') (hd : d.Orderly)
    (hn : ∀ k, d'.node? k = d.node? k) : d'.Orderly := by
  have hout : ∀ h : Handle, d.slots.size ≤ h.index → d'.contains h = false := fun h hh => by
    rw [contains, hn, ← contains]
    exact contains_eq_false_of_le hh
  refine he.orderly hd ?_ ?_
  · intro h hc hh
    rw [hout h hh] at hc
    simp at hc
  · intro h p hh hp
    have hc := contains_of_parent? hp
    rw [hout h hh] at hc
    simp at hc

/-- The document without elements is in order. -/
theorem orderly_empty : (empty : Document).Orderly := by
  have hnode : ∀ h : Handle, empty.node? h = if h = top then some { kind := .document } else none := by
    rintro ⟨i⟩
    cases i with
    | zero => rfl
    | succ i => simp [node?, empty, top]
  have hinside : ∀ h, empty.inside h = [] := by
    intro h
    rw [inside, attributes, children, hnode]
    split <;> rfl
  have hparent : ∀ h, empty.parent? h = none := by
    intro h
    rw [parent?, hnode]
    split <;> rfl
  refine orderly_of_soundAt rfl (hparent top) ?_ ?_
  · intro h _
    have hattrs : empty.attributes h = [] := (List.append_eq_nil_iff.mp (hinside h)).1
    have hchildren : empty.children h = [] := (List.append_eq_nil_iff.mp (hinside h)).2
    refine ⟨by simp [hinside], by simp [hinside], by simp [hattrs], by simp [hchildren]⟩
  · intro h p hp
    rw [hparent] at hp
    simp at hp

/-- A new node without links keeps the document in order. -/
theorem Orderly.push (hd : d.Orderly) {n : Node} (hp : n.parent = none) (ha : n.attributes = [])
    (hc : n.children = []) : (d.push n).1.Orderly := by
  have hnew : ∀ h : Handle, (d.push n).1.contains h = true → d.slots.size ≤ h.index →
      (d.push n).1.node? h = some n := by
    intro h hc hh
    have := index_lt_of_contains hc
    rw [size_push] at this
    obtain rfl : h = d.next := by
      cases h
      rw [next, Handle.mk.injEq]
      simp only at *
      omega
    rw [node?_push, if_pos rfl]
  refine (extends_push d n).orderly hd ?_ ?_
  · intro h hh hle
    have hn := hnew h hh hle
    refine ⟨?_, ?_, ?_, ?_⟩
    · intro k hk
      simp [inside, attributes, children, hn, ha, hc] at hk
    · simp [inside, attributes, children, hn, ha, hc]
    · intro k hk
      simp [attributes, hn, ha] at hk
    · intro k hk
      simp [children, hn, hc] at hk
  · intro h p hle hq
    simp [parent?, hnew h (contains_of_parent? hq) hle, hp] at hq

/-! ## Laid out contents -/

mutual
/-- The document stores a content from the handle `first` on. -/
def Holds (d : Document) (parent : Option Handle) (first : Nat) : Tree → Prop
  | .node kind name value as ts =>
    d.node? ⟨first⟩ = some
      { kind, name, value, parent,
        children := Tree.heads (first + 1 + as.length) ts,
        attributes := (List.range as.length).map fun i => ⟨first + 1 + i⟩ } ∧
    (∀ (i : Nat) (a : String × String), as[i]? = some a →
      d.node? ⟨first + 1 + i⟩ = some
        { kind := .attribute, name := a.1, value := a.2, parent := some ⟨first⟩ }) ∧
    HoldsAll d (some ⟨first⟩) (first + 1 + as.length) ts
/-- The document stores contents one after the other from the handle `first` on. -/
def HoldsAll (d : Document) (parent : Option Handle) (first : Nat) : List Tree → Prop
  | [] => True
  | t :: ts => Holds d parent first t ∧ HoldsAll d parent (first + t.size) ts
end

mutual
/-- A document that stores the layout of a content stores the content. -/
theorem holds_of_layout (d : Document) (parent : Option Handle) (first : Nat) : ∀ t : Tree,
    (∀ i, i < t.size → d.node? ⟨first + i⟩ = (t.layout parent first)[i]?) →
      d.Holds parent first t
  | .node kind name value as ts, hl => by
    have hlen : ((Tree.node kind name value as ts).layout parent first).length =
        1 + as.length + Tree.sizeAll ts := Tree.length_layout parent first _
    simp only [Tree.size] at hl
    rw [Tree.layout] at hl
    rw [Holds]
    refine ⟨?_, ?_, ?_⟩
    · have := hl 0 (by omega)
      simpa using this
    · intro i a ha
      obtain ⟨hi, rfl⟩ := List.getElem?_eq_some_iff.mp ha
      have := hl (1 + i) (by omega)
      rw [← Nat.add_assoc] at this
      rw [this, Nat.add_comm 1 i]
      simp [List.getElem?_append, hi]
    · refine holdsAll_of_layout d _ _ ts ?_
      intro i hi
      have := hl (1 + as.length + i) (by omega)
      rw [← Nat.add_assoc, ← Nat.add_assoc] at this
      rw [this, show 1 + as.length + i = (as.length + i) + 1 by omega]
      simp [List.getElem?_append]
/-- A document that stores the layout of a list of contents stores the contents. -/
theorem holdsAll_of_layout (d : Document) (parent : Option Handle) (first : Nat) :
    ∀ ts : List Tree,
    (∀ i, i < Tree.sizeAll ts → d.node? ⟨first + i⟩ = (Tree.layoutAll parent first ts)[i]?) →
      d.HoldsAll parent first ts
  | [], _ => trivial
  | t :: ts, hl => by
    simp only [Tree.sizeAll] at hl
    rw [Tree.layoutAll] at hl
    have hlen := Tree.length_layout parent first t
    refine ⟨holds_of_layout d parent first t ?_, holdsAll_of_layout d parent _ ts ?_⟩
    · intro i hi
      rw [hl i (by omega), List.getElem?_append_left (by omega)]
    · intro i hi
      have := hl (t.size + i) (by omega)
      rw [← Nat.add_assoc] at this
      rw [this, List.getElem?_append_right (by omega), hlen, Nat.add_sub_cancel_left]
end

/-- The outermost nodes of stored contents name the given parent and are of the right kinds. -/
theorem parent?_of_mem_heads {parent : Option Handle} {first : Nat} {ts : List Tree}
    (hs : d.HoldsAll parent first ts) (hk : k ∈ Tree.heads first ts) :
    d.parent? k = parent ∧ first ≤ k.index ∧ ∃ t ∈ ts, d.kind? k = some t.kind := by
  induction ts generalizing first with
  | nil => simp [Tree.heads] at hk
  | cons t ts ih =>
    obtain ⟨ht, hts⟩ := hs
    rcases List.mem_cons.mp hk with rfl | hk
    · obtain ⟨kind, name, value, as, us⟩ := t
      rw [Holds] at ht
      refine ⟨by simp [parent?, ht.1], Nat.le_refl _, _, List.mem_cons_self .., ?_⟩
      simp [kind?, ht.1, Tree.kind]
    · obtain ⟨hp, hle, u, hu, hkind⟩ := ih hts hk
      exact ⟨hp, by omega, u, List.mem_cons_of_mem _ hu, hkind⟩

theorem le_of_mem_heads {first : Nat} {ts : List Tree} (hk : k ∈ Tree.heads first ts) :
    first ≤ k.index := by
  induction ts generalizing first with
  | nil => simp [Tree.heads] at hk
  | cons t ts ih =>
    rcases List.mem_cons.mp hk with rfl | hk
    · exact Nat.le_refl _
    · have := ih hk
      omega

theorem nodup_heads (first : Nat) (ts : List Tree) : (Tree.heads first ts).Nodup := by
  induction ts generalizing first with
  | nil => simp [Tree.heads]
  | cons t ts ih =>
    rw [Tree.heads, List.nodup_cons]
    refine ⟨?_, ih _⟩
    intro hm
    have := le_of_mem_heads hm
    have := t.size_pos
    simp only at *
    omega

/-- The outermost node of a stored proper content is sound. -/
theorem soundAt_of_holds {parent : Option Handle} {first : Nat} {t : Tree} (ht : t.Proper)
    (hs : d.Holds parent first t) : d.SoundAt ⟨first⟩ := by
  obtain @⟨kind, name, value, as, ts, has, hts, hkinds, -⟩ := ht
  rw [Holds] at hs
  obtain ⟨hroot, hattrs, hbelow⟩ := hs
  have hattributes : d.attributes ⟨first⟩ =
      (List.range as.length).map fun i => ⟨first + 1 + i⟩ := by
    simp [attributes, hroot]
  have hchildren : d.children ⟨first⟩ = Tree.heads (first + 1 + as.length) ts := by
    simp [children, hroot]
  have hkind : d.kind? ⟨first⟩ = some kind := by simp [kind?, hroot]
  -- the attributes of the first node come right behind it, and its children behind these
  have hattr : ∀ k ∈ d.attributes ⟨first⟩, d.parent? k = some ⟨first⟩ ∧ first < k.index ∧
      k.index < first + 1 + as.length ∧ d.isAttribute k = true := by
    intro k hk
    rw [hattributes] at hk
    obtain ⟨i, hi, rfl⟩ := List.mem_map.mp hk
    rw [List.mem_range] at hi
    have hn := hattrs i as[i] (List.getElem?_eq_getElem hi)
    refine ⟨by simp [parent?, hn], ?_, ?_, by simp [isAttribute, kind?, hn]⟩ <;> simp only <;> omega
  have hchild : ∀ k ∈ d.children ⟨first⟩, d.parent? k = some ⟨first⟩ ∧
      first + 1 + as.length ≤ k.index ∧ ∃ t ∈ ts, d.kind? k = some t.kind := by
    intro k hk
    rw [hchildren] at hk
    exact parent?_of_mem_heads hbelow hk
  refine ⟨?_, ?_, ?_, ?_⟩
  · intro k hk
    rcases mem_inside.mp hk with hk | hk
    · exact ⟨(hattr k hk).1, (hattr k hk).2.1⟩
    · refine ⟨(hchild k hk).1, ?_⟩
      have := (hchild k hk).2.1
      simp only
      omega
  · rw [inside, List.nodup_append]
    refine ⟨?_, hchildren ▸ nodup_heads _ _, ?_⟩
    · rw [hattributes]
      refine List.Nodup.map ?_ List.nodup_range
      intro i j hij
      have := congrArg Handle.index hij
      simp only at this
      omega
    · intro a ha b hb hab
      have := (hattr a ha).2.2.1
      have := (hchild b hb).2.1
      rw [hab] at *
      omega
  · intro k hk
    refine ⟨(hattr k hk).2.2.2, ?_⟩
    have hne : as ≠ [] := by
      rintro rfl
      rw [hattributes] at hk
      simp at hk
    simp [isElement, hkind, has hne]
  · intro k hk
    obtain ⟨-, -, t, ht, hkt⟩ := hchild k hk
    refine ⟨?_, ?_⟩
    · simpa [isElement, isText, hkt] using hkinds t ht
    · have hne : ts ≠ [] := List.ne_nil_of_mem ht
      simpa [isElement, hkind] using hts hne

/-- What is stored for the outermost node of a stored content. -/
theorem lookups_of_holds {parent : Option Handle} {first : Nat} {t : Tree}
    (hs : d.Holds parent first t) :
    d.kind? ⟨first⟩ = some t.kind ∧ d.parent? ⟨first⟩ = parent ∧
      (d.attributes ⟨first⟩).map d.name = t.attributes.map Prod.fst := by
  obtain ⟨kind, name, value, as, ts⟩ := t
  rw [Holds] at hs
  obtain ⟨hnode, hattributes, -⟩ := hs
  refine ⟨by simp [kind?, hnode, Tree.kind], by simp [parent?, hnode], ?_⟩
  rw [attributes, hnode, Option.map_some, Option.getD_some, List.map_map, Tree.attributes]
  refine List.ext_getElem (by simp) fun i hi hi' => ?_
  rw [List.length_map] at hi'
  simp [Document.name, hattributes i as[i] (List.getElem?_eq_getElem hi')]

/-- A property of contents that attributes have, and that a content has only if all that is inside
it has it. -/
structure Inherited (P : Tree → Prop) : Prop where
  leaf : ∀ name value, P (.node .attribute name value [] [])
  below : ∀ t, P t → ∀ u ∈ t.children, P u

mutual
/-- Every node of a stored content begins a stored content itself, which inherits from the whole one;
and all nodes but the outermost one are listed by their parents. -/
theorem exists_holds_of_mem {P : Tree → Prop} (hP : Inherited P) {parent : Option Handle}
    {first : Nat} : ∀ t : Tree, P t →
    d.Holds parent first t → ∀ h : Handle, first ≤ h.index → h.index < first + t.size →
      ∃ (u : Tree) (q : Option Handle), P u ∧ d.Holds q h.index u ∧
        ((h = ⟨first⟩ ∧ q = parent) ∨ ∃ p, q = some p ∧ h ∈ d.inside p)
  | .node kind name value as ts, ht, hs, h, hle, hlt => by
    have hself := hs
    rw [Holds] at hs
    obtain ⟨hnode, hattrs, hall⟩ := hs
    rw [Tree.size] at hlt
    by_cases h₀ : h.index = first
    · exact ⟨_, parent, ht, h₀ ▸ hself, Or.inl ⟨by rw [← h₀], rfl⟩⟩
    by_cases h₁ : h.index < first + 1 + as.length
    · -- an attribute lists nothing
      obtain ⟨i, hi⟩ : ∃ i, h.index = first + 1 + i := ⟨h.index - (first + 1), by omega⟩
      have hilt : i < as.length := by omega
      have hn := hattrs i as[i] (List.getElem?_eq_getElem hilt)
      obtain rfl : h = ⟨first + 1 + i⟩ := by rw [← hi]
      refine ⟨_, some ⟨first⟩, hP.leaf as[i].1 as[i].2, ?_, Or.inr ⟨⟨first⟩, rfl, ?_⟩⟩
      · rw [Holds]
        exact ⟨hn, by simp, trivial⟩
      · refine mem_inside.mpr (Or.inl ?_)
        simp only [attributes, hnode, Option.map_some, Option.getD_some, List.mem_map,
          List.mem_range]
        exact ⟨i, hilt, rfl⟩
    · obtain ⟨u, q, hu, hh, hplace⟩ :=
        exists_holds_of_mem_all hP ts (hP.below _ ht) hall h (by omega) (by omega)
      refine ⟨u, q, hu, hh, Or.inr ?_⟩
      rcases hplace with ⟨hk, hq⟩ | hplace
      · refine ⟨_, hq, mem_inside.mpr (Or.inr ?_)⟩
        simpa [children, hnode] using hk
      · exact hplace
/-- The same for contents that are stored one after the other. -/
theorem exists_holds_of_mem_all {P : Tree → Prop} (hP : Inherited P) {parent : Option Handle}
    {first : Nat} : ∀ ts : List Tree,
    (∀ t ∈ ts, P t) → d.HoldsAll parent first ts → ∀ h : Handle, first ≤ h.index →
      h.index < first + Tree.sizeAll ts →
        ∃ (u : Tree) (q : Option Handle), P u ∧ d.Holds q h.index u ∧
          ((h ∈ Tree.heads first ts ∧ q = parent) ∨ ∃ p, q = some p ∧ h ∈ d.inside p)
  | [], _, _, h, hle, hlt => by
    rw [Tree.sizeAll] at hlt
    omega
  | t :: ts, hts, hs, h, hle, hlt => by
    obtain ⟨ht, hrest⟩ := List.forall_mem_cons.mp hts
    rw [Tree.sizeAll] at hlt
    by_cases hin : h.index < first + t.size
    · obtain ⟨u, q, hu, hh, hplace⟩ := exists_holds_of_mem hP t ht hs.1 h hle hin
      refine ⟨u, q, hu, hh, ?_⟩
      rcases hplace with ⟨rfl, hq⟩ | hplace
      · exact Or.inl ⟨List.mem_cons_self .., hq⟩
      · exact Or.inr hplace
    · obtain ⟨u, q, hu, hh, hplace⟩ :=
        exists_holds_of_mem_all hP ts hrest hs.2 h (by omega) (by omega)
      refine ⟨u, q, hu, hh, ?_⟩
      rcases hplace with ⟨hk, hq⟩ | hplace
      · exact Or.inl ⟨List.mem_cons_of_mem _ hk, hq⟩
      · exact Or.inr hplace
end

theorem inherited_proper : Inherited Tree.Proper where
  leaf _ _ := .node (by simp) (by simp) (by simp) (by simp)
  below := fun _ ⟨_, _, _, hts⟩ => hts

/-- All nodes of a stored proper content are sound, and all but the outermost one are listed by
their parents. -/
theorem soundAt_of_holds_of_mem {parent : Option Handle} {first : Nat} {t : Tree} (ht : t.Proper)
    (hs : d.Holds parent first t) (h : Handle) (hle : first ≤ h.index)
    (hlt : h.index < first + t.size) : d.SoundAt h ∧
      ((h = ⟨first⟩ ∧ d.parent? h = parent) ∨ ∃ p, d.parent? h = some p ∧ h ∈ d.inside p) := by
  obtain ⟨u, q, hu, hh, hplace⟩ := exists_holds_of_mem inherited_proper t ht hs h hle hlt
  have hparent : d.parent? h = q := (lookups_of_holds hh).2.1
  exact ⟨soundAt_of_holds hu hh, by rwa [hparent]⟩

/-! ## Writing contents -/

theorem size_write (d : Document) (t : Tree) :
    (d.write t).1.slots.size = d.slots.size + t.size := by
  rw [write, ← Array.length_toList, Array.toList_appendList, List.length_append, List.length_map,
    Tree.length_layout, Array.length_toList]

/-- Old nodes keep their slots, and the content takes the ones after them. -/
theorem node?_write (d : Document) (t : Tree) (h : Handle) :
    (d.write t).1.node? h = if h.index < d.slots.size then d.node? h
      else (t.layout none d.slots.size)[h.index - d.slots.size]? := by
  rw [node?, write, ← Array.getElem?_toList, Array.toList_appendList, List.getElem?_append,
    Array.length_toList]
  by_cases hh : h.index < d.slots.size
  · rw [if_pos hh, if_pos hh, node?, Array.getElem?_toList]
  · rw [if_neg hh, if_neg hh, List.getElem?_map]
    cases (t.layout none d.slots.size)[h.index - d.slots.size]? <;> rfl

theorem extends_write (d : Document) (t : Tree) : Extends d (d.write t).1 where
  size := by
    rw [size_write]
    omega
  node? := fun h hh => by rw [node?_write, if_pos hh]

/-- A written content is stored behind all slots. -/
theorem holds_write (d : Document) (t : Tree) : (d.write t).1.Holds none d.slots.size t := by
  refine holds_of_layout _ _ _ t ?_
  intro i hi
  rw [node?_write, if_neg (by simp only; omega)]
  simp only [Nat.add_sub_cancel_left]

/-- Writing a proper content keeps the document in order. -/
theorem Orderly.write (hd : d.Orderly) {t : Tree} (ht : t.Proper) : (d.write t).1.Orderly := by
  have hnew : ∀ k, (d.write t).1.contains k = true → d.slots.size ≤ k.index → _ := fun k hc hk =>
    soundAt_of_holds_of_mem ht (holds_write d t) k hk
      (by have := index_lt_of_contains hc; rw [size_write] at this; exact this)
  refine (extends_write d t).orderly hd (fun k hc hk => (hnew k hc hk).1) ?_
  intro k p hk hp
  rcases (hnew k (contains_of_parent? hp) hk).2 with ⟨-, hp'⟩ | ⟨q, hq, hm⟩
  · rw [hp'] at hp
    simp at hp
  · obtain rfl := Option.some.inj (hp.symm.trans hq)
    exact hm

/-- The outermost node of a written content is new and has no parent. -/
theorem parent?_write (d : Document) (t : Tree) :
    (d.write t).1.parent? (d.write t).2 = none ∧
      (d.write t).1.kind? (d.write t).2 = some t.kind ∧
      (d.write t).1.name (d.write t).2 = t.name := by
  obtain ⟨kind, name, value, as, ts⟩ := t
  have hs := holds_write d (.node kind name value as ts)
  rw [Holds] at hs
  have hnext : (d.write (.node kind name value as ts)).2 = ⟨d.slots.size⟩ := rfl
  simp [hnext, parent?, Document.kind?, Document.name, hs.1, Tree.kind, Tree.name]

/-! ## Documents of contents -/

theorem size_ofTree (root : Tree) : (ofTree root).slots.size = root.size + 1 := by
  simp [ofTree, Tree.length_layout, Tree.size, Tree.sizeAll]
  omega

theorem holds_ofTree (root : Tree) :
    (ofTree root).Holds none 0 (.node .document "" "" [] [root]) := by
  refine holds_of_layout _ _ _ _ ?_
  intro i hi
  rw [node?, ofTree]
  simp only [Nat.zero_add, List.getElem?_toArray, List.getElem?_map]
  cases (Tree.layout none 0 (Tree.node .document "" "" [] [root]))[i]? <;> rfl

/-- Every node of the document of a content has a place in it. -/
theorem soundAt_ofTree {root : Tree} (ht : root.Proper) (hk : root.kind = .element) {h : Handle}
    (hc : (ofTree root).contains h = true) :
    (ofTree root).SoundAt h ∧ ((h = top ∧ (ofTree root).parent? h = none) ∨
      ∃ p, (ofTree root).parent? h = some p ∧ h ∈ (ofTree root).inside p) := by
  have hlt := index_lt_of_contains hc
  rw [size_ofTree] at hlt
  refine soundAt_of_holds_of_mem ?_ (holds_ofTree root) h (Nat.zero_le _) ?_
  · refine Tree.Proper.node (by simp) (by simp) ?_ ?_
    · simp [hk]
    · simpa using ht
  · simp only [Tree.size, Tree.sizeAll, List.length_nil]
    omega

/-- The document of an element holds that element and nothing beside it. -/
theorem inside_top_ofTree {root : Tree} (hk : root.kind = .element) :
    (ofTree root).inside top = [⟨1⟩] ∧ (ofTree root).isElement ⟨1⟩ = true := by
  obtain ⟨htop, -, hall⟩ := holds_ofTree root
  have hheads : Tree.heads 1 [root] = [⟨1⟩] := rfl
  have hmem : (⟨1⟩ : Handle) ∈ Tree.heads 1 [root] := by
    rw [hheads]
    exact List.mem_singleton_self _
  obtain ⟨-, -, t, ht, hkind⟩ := parent?_of_mem_heads hall hmem
  rw [List.mem_singleton.mp ht, hk] at hkind
  refine ⟨?_, decide_eq_true hkind⟩
  rw [inside, attributes, children, show top = ⟨0⟩ from rfl, htop]
  exact hheads

/-- The document of a proper element is in order. -/
theorem orderly_ofTree {root : Tree} (ht : root.Proper) (hk : root.kind = .element) :
    (ofTree root).Orderly := by
  have hs := holds_ofTree root
  rw [Holds] at hs
  refine orderly_of_soundAt ?_ ?_ (fun h hc => (soundAt_ofTree ht hk hc).1) ?_
  · simp [kind?, top, hs.1]
  · simp [parent?, top, hs.1]
  · intro h p hp
    rcases (soundAt_ofTree ht hk (contains_of_parent? hp)).2 with ⟨-, hp'⟩ | ⟨q, hq, hm⟩
    · rw [hp'] at hp
      simp at hp
    · obtain rfl := Option.some.inj (hp.symm.trans hq)
      exact hm

/-! ## Contents read off documents -/

theorem mapM_congr {α β : Type} {f g : α → Option β} {as : List α}
    (hfg : ∀ a ∈ as, f a = g a) : as.mapM f = as.mapM g := by
  induction as with
  | nil => rfl
  | cons a as ih =>
    rw [List.mapM_cons, List.mapM_cons, hfg a (List.mem_cons_self ..),
      ih fun b hb => hfg b (List.mem_cons_of_mem _ hb)]

end Document

end GuidedXml
