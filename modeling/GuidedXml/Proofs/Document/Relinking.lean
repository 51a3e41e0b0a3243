/-
# Relinking

What the operations on a document do to its links. Every one of them that moves a node gives one
parent another list of nodes: it may take one node out and may give it one that had no parent.

The main statements say that such a change keeps the links of a document in order, and what is to be
shown of one where only children or only attributes are listed otherwise.
-/
import GuidedXml.Proofs.Document.Forest

namespace GuidedXml.Document

variable {d d' : Document} {h k p c : Handle}

/-! ## Changes of one parent -/

/-- The second document is the first one after `p` lost the node `taken` and got the node `given`,
each of them only if there is one. -/
structure Relinked (d d' : Document) (p : Handle) (taken given : Option Handle) : Prop where
  size : d'.slots.size = d.slots.size
  kind? : ∀ k, d'.kind? k = d.kind? k
  name : ∀ k, d'.name k = d.name k
  stored : ∀ k, d'.stored k = d.stored k
  parent? : ∀ k, d'.parent? k =
    if given = some k then some p else if taken = some k then none else d.parent? k
  node? : ∀ k, k ≠ p → given ≠ some k → taken ≠ some k → d'.node? k = d.node? k
  attributes : ∀ h, h ≠ p → d'.attributes h = d.attributes h
  children : ∀ h, h ≠ p → d'.children h = d.children h
  mem_attributes : ∀ k, k ∈ d'.attributes p ↔
    (given = some k ∧ d.isAttribute k = true) ∨ (k ∈ d.attributes p ∧ taken ≠ some k)
  mem_children : ∀ k, k ∈ d'.children p ↔
    (given = some k ∧ d.isAttribute k = false) ∨ (k ∈ d.children p ∧ taken ≠ some k)
  nodup : (d'.inside p).Nodup

/-- The node can be put into the parent: it has none so far, and the kinds of the two agree. -/
structure CanHold (d : Document) (p c : Handle) : Prop where
  detached : d.parent? c = none
  kinds : (d.isAttribute c = true ∧ d.isElement p = true) ∨
    ((d.isElement c = true ∨ d.isText c = true) ∧
      (d.isElement p = true ∨ d.kind? p = some .document))

theorem CanHold.ne_top (hd : d.Linked) (hc : d.CanHold p c) : c ≠ top := by
  rintro rfl
  have htop := hd.kind?_top
  rcases hc.kinds with ⟨ha, -⟩ | ⟨he | ht, -⟩
  · simp [isAttribute, htop] at ha
  · simp [isElement, htop] at he
  · simp [isText, htop] at ht

namespace Relinked

variable {taken given : Option Handle}

/-- Every node of the parent that is changed was there before, or was given to it. -/
theorem mem_inside (hr : Relinked d d' p taken given) (k : Handle) :
    k ∈ d'.inside p ↔ given = some k ∨ (k ∈ d.inside p ∧ taken ≠ some k) := by
  rw [Document.mem_inside, Document.mem_inside, hr.mem_attributes, hr.mem_children]
  cases d.isAttribute k <;> simp <;> tauto

/-- The attributes of a node, wherever nodes are given and taken. -/
theorem mem_attributes_iff (hr : Relinked d d' p taken given) (h a : Handle) :
    a ∈ d'.attributes h ↔ (h = p ∧ given = some a ∧ d.isAttribute a = true) ∨
      (a ∈ d.attributes h ∧ (h = p → taken ≠ some a)) := by
  by_cases hh : h = p
  · subst hh
    simp [hr.mem_attributes]
  · simp [hr.attributes h hh, hh]

theorem inside_of_ne (hr : Relinked d d' p taken given) (hh : h ≠ p) :
    d'.inside h = d.inside h := by
  rw [inside, inside, hr.attributes h hh, hr.children h hh]

/-- Changing the nodes of one parent keeps the links of a document in order. -/
theorem linked (hr : Relinked d d' p taken given) (hd : d.Linked)
    (hgiven : ∀ c, given = some c → d.CanHold p c)
    (htaken : ∀ c, taken = some c → d.parent? c = some p) : d'.Linked where
  kind?_top := by rw [hr.kind?, hd.kind?_top]
  parent?_top := by
    rw [hr.parent?, hd.parent?_top]
    have hne : given ≠ some top := fun hg => (hgiven top hg).ne_top hd rfl
    simp [hne]
  parent?_of_mem := by
    intro h k hk
    rw [hr.parent?]
    by_cases hg : given = some k
    · rw [if_pos hg]
      by_cases hh : h = p
      · rw [hh]
      · -- a node that is given had no parent, so nothing else listed it
        rw [hr.inside_of_ne hh] at hk
        have := hd.parent?_of_mem hk
        rw [(hgiven k hg).detached] at this
        simp at this
    · rw [if_neg hg]
      by_cases hh : h = p
      · subst hh
        rcases (hr.mem_inside k).mp hk with hg' | ⟨hk', ht⟩
        · exact absurd hg' hg
        · rw [if_neg ht, hd.parent?_of_mem hk']
      · rw [hr.inside_of_ne hh] at hk
        have hp := hd.parent?_of_mem hk
        have ht : taken ≠ some k := by
          intro ht
          rw [htaken k ht] at hp
          exact hh (Option.some.inj hp).symm
        rw [if_neg ht, hp]
  mem_of_parent? := by
    intro h k hp
    rw [hr.parent?] at hp
    split_ifs at hp with hg ht
    · obtain rfl : p = h := Option.some.inj hp
      exact (hr.mem_inside k).mpr (Or.inl hg)
    · have hk := hd.mem_of_parent? hp
      by_cases hh : h = p
      · subst hh
        exact (hr.mem_inside k).mpr (Or.inr ⟨hk, ht⟩)
      · rw [hr.inside_of_ne hh]
        exact hk
  nodup_inside := by
    intro h
    by_cases hh : h = p
    · rw [hh]
      exact hr.nodup
    · rw [hr.inside_of_ne hh]
      exact hd.nodup_inside h
  kinds_of_attribute := by
    intro h k hk
    rw [isAttribute_congr (hr.kind? k), isElement_congr (hr.kind? h)]
    by_cases hh : h = p
    · subst hh
      rcases (hr.mem_attributes k).mp hk with ⟨hg, ha⟩ | ⟨hk', -⟩
      · refine ⟨ha, ?_⟩
        rcases (hgiven k hg).kinds with ⟨-, he⟩ | ⟨he | ht, -⟩
        · exact he
        · rw [not_isAttribute_of_isElement he] at ha
          simp at ha
        · rw [not_isAttribute_of_isText ht] at ha
          simp at ha
      · exact hd.kinds_of_attribute hk'
    · rw [hr.attributes h hh] at hk
      exact hd.kinds_of_attribute hk
  kinds_of_child := by
    intro h k hk
    rw [isElement_congr (hr.kind? k), isText_congr (hr.kind? k), isElement_congr (hr.kind? h),
      hr.kind?]
    by_cases hh : h = p
    · subst hh
      rcases (hr.mem_children k).mp hk with ⟨hg, ha⟩ | ⟨hk', -⟩
      · rcases (hgiven k hg).kinds with ⟨ha', -⟩ | hc
        · rw [ha'] at ha
          simp at ha
        · exact hc
      · exact hd.kinds_of_child hk'
    · rw [hr.children h hh] at hk
      exact hd.kinds_of_child hk

/-- The order of handles is kept if the new node came after its parent. -/
theorem orderly (hr : Relinked d d' p taken given) (hd : d.Orderly)
    (hgiven : ∀ c, given = some c → d.CanHold p c ∧ p.index < c.index)
    (htaken : ∀ c, taken = some c → d.parent? c = some p) : d'.Orderly where
  toLinked := hr.linked hd.toLinked (fun c hc => (hgiven c hc).1) htaken
  parent_lt := by
    intro k q hq
    rw [hr.parent?] at hq
    split_ifs at hq with hg
    · obtain rfl : p = q := Option.some.inj hq
      exact (hgiven k hg).2
    · exact hd.parent_lt hq

/-- Elements that wait for a parent still wait when another node was given to it. -/
theorem waiting (hr : Relinked d d' p none (some c)) {hs : List Handle} (hc : c ∉ hs)
    (hhs : ∀ x ∈ hs, d.isElement x = true ∧ d.parent? x = none ∧ p.index < x.index) :
    ∀ x ∈ hs, d'.isElement x = true ∧ d'.parent? x = none ∧ p.index < x.index := by
  intro x hx
  obtain ⟨hxe, hroot, hlt⟩ := hhs x hx
  have hgiven : some c ≠ some x := by
    intro he
    obtain rfl := Option.some.inj he
    exact hc hx
  refine ⟨(isElement_congr (hr.kind? x)).trans hxe, ?_, hlt⟩
  rw [hr.parent?, if_neg hgiven, if_neg (by simp), hroot]

end Relinked

/-! ## Lists of one parent -/

/-- Attributes and children of a parent stay apart. -/
theorem nodup_append_of_kinds {as cs : List Handle} (has : as.Nodup) (hcs : cs.Nodup)
    (hattrs : ∀ k ∈ as, d.isAttribute k = true) (hchildren : ∀ k ∈ cs, d.isAttribute k = false) :
    (as ++ cs).Nodup := by
  rw [List.nodup_append]
  refine ⟨has, hcs, ?_⟩
  intro a ha b hb
  rintro rfl
  have hattr := hattrs a ha
  rw [hchildren a hb] at hattr
  simp at hattr

section Relisting

variable (hd : d.Linked) (taken given : Option Handle)

include hd

/-- A parent gives one child away and gets another one, each only if there is one. -/
theorem relisted_children (hgiven : ∀ c, given = some c → d.isAttribute c = false)
    (htaken : ∀ c, taken = some c → d.isAttribute c = false)
    (hattrs : d'.attributes p = d.attributes p)
    (hmem : ∀ k, k ∈ d'.children p ↔ given = some k ∨ (k ∈ d.children p ∧ taken ≠ some k))
    (hnd : (d'.children p).Nodup) :
    (∀ k, k ∈ d'.attributes p ↔
      (given = some k ∧ d.isAttribute k = true) ∨ (k ∈ d.attributes p ∧ taken ≠ some k)) ∧
    (∀ k, k ∈ d'.children p ↔
      (given = some k ∧ d.isAttribute k = false) ∨ (k ∈ d.children p ∧ taken ≠ some k)) ∧
    (d'.inside p).Nodup := by
  refine ⟨?_, ?_, ?_⟩
  · intro k
    rw [hattrs]
    constructor
    · intro hk
      refine Or.inr ⟨hk, ?_⟩
      intro ht
      -- what was taken is no attribute, and the members of this list are
      have hattr := (hd.kinds_of_attribute hk).1
      rw [htaken k ht] at hattr
      simp at hattr
    · rintro (⟨hg, ha⟩ | ⟨hk, -⟩)
      · rw [hgiven k hg] at ha
        simp at ha
      · exact hk
  · intro k
    rw [hmem]
    constructor
    · rintro (hg | hk)
      · exact Or.inl ⟨hg, hgiven k hg⟩
      · exact Or.inr hk
    · rintro (⟨hg, -⟩ | hk)
      · exact Or.inl hg
      · exact Or.inr hk
  · rw [inside, hattrs]
    refine nodup_append_of_kinds (hd.nodup_attributes p) hnd
      (fun k hk => (hd.kinds_of_attribute hk).1) ?_
    intro k hk
    rcases (hmem k).mp hk with hg | ⟨hold, -⟩
    · exact hgiven k hg
    · exact hd.not_isAttribute_of_mem_children hold

/-- A parent gives one attribute away and gets another one, each only if there is one. -/
theorem relisted_attributes (hgiven : ∀ c, given = some c → d.isAttribute c = true)
    (htaken : ∀ c, taken = some c → d.isAttribute c = true)
    (hchildren : d'.children p = d.children p)
    (hmem : ∀ k, k ∈ d'.attributes p ↔ given = some k ∨ (k ∈ d.attributes p ∧ taken ≠ some k))
    (hnd : (d'.attributes p).Nodup) :
    (∀ k, k ∈ d'.attributes p ↔
      (given = some k ∧ d.isAttribute k = true) ∨ (k ∈ d.attributes p ∧ taken ≠ some k)) ∧
    (∀ k, k ∈ d'.children p ↔
      (given = some k ∧ d.isAttribute k = false) ∨ (k ∈ d.children p ∧ taken ≠ some k)) ∧
    (d'.inside p).Nodup := by
  refine ⟨?_, ?_, ?_⟩
  · intro k
    rw [hmem]
    constructor
    · rintro (hg | hk)
      · exact Or.inl ⟨hg, hgiven k hg⟩
      · exact Or.inr hk
    · rintro (⟨hg, -⟩ | hk)
      · exact Or.inl hg
      · exact Or.inr hk
  · intro k
    rw [hchildren]
    constructor
    · intro hk
      refine Or.inr ⟨hk, ?_⟩
      intro ht
      -- what was taken is an attribute, and no child is one
      have hchild := hd.not_isAttribute_of_mem_children hk
      rw [htaken k ht] at hchild
      simp at hchild
    · rintro (⟨hg, ha⟩ | ⟨hk, -⟩)
      · rw [hgiven k hg] at ha
        simp at ha
      · exact hk
  · rw [inside, hchildren]
    refine nodup_append_of_kinds hnd (hd.nodup_children p) ?_
      fun k hk => hd.not_isAttribute_of_mem_children hk
    intro k hk
    rcases (hmem k).mp hk with hg | ⟨hold, -⟩
    · exact hgiven k hg
    · exact (hd.kinds_of_attribute hold).1

end Relisting

/-- A node without parent is inside no node. -/
theorem Linked.not_mem_inside_of_detached (hd : d.Linked) (hc : d.parent? c = none) :
    c ∉ d.inside p := by
  intro hm
  rw [hd.parent?_of_mem hm] at hc
  simp at hc

theorem Linked.not_mem_children_of_detached (hd : d.Linked) (hc : d.parent? c = none) :
    c ∉ d.children p :=
  fun hm => hd.not_mem_inside_of_detached hc (mem_inside.mpr (Or.inr hm))

theorem Linked.not_mem_attributes_of_detached (hd : d.Linked) (hc : d.parent? c = none) :
    c ∉ d.attributes p :=
  fun hm => hd.not_mem_inside_of_detached hc (mem_inside.mpr (Or.inl hm))

end GuidedXml.Document
