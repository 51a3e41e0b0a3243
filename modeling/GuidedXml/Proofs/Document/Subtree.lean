/-
# Nodes of a subtree

What lies at and below a node, as a relation. A path downwards in a forest visits no node twice, so
the walk that lists a subtree reaches all of it.

The main statements say that the subtree lists exactly the nodes at and below a node, that siblings
have no node below them in common, and that discarding drops exactly the nodes of a subtree.
-/
import GuidedXml.Proofs.Document.Operations
import Mathlib.Data.Finset.Card

namespace GuidedXml.Document

variable {d d' : Document} {h k p c : Handle}

/-! ## Below a node -/

/-- The live node `k` is `h` or lies below it. -/
inductive Within (d : Document) (h : Handle) : Handle → Prop
  | self : d.contains h = true → Within d h h
  | step {p k : Handle} : Within d h p → d.parent? k = some p → Within d h k

namespace Within

theorem contains_root (hw : d.Within h k) : d.contains h = true := by
  induction hw with
  | self hc => exact hc
  | step _ _ ih => exact ih

theorem contains (hw : d.Within h k) : d.contains k = true := by
  cases hw with
  | self hc => exact hc
  | step _ hp => exact contains_of_parent? hp

theorem trans (hhk : d.Within h k) (hkc : d.Within k c) : d.Within h c := by
  induction hkc with
  | self _ => exact hhk
  | step _ hp ih => exact ih.step hp

theorem of_parent? (hd : d.Linked) (hp : d.parent? k = some h) : d.Within h k :=
  (self (hd.contains_parent hp)).step hp

/-- Below a node there is the node itself and what lies below the nodes that it lists. -/
theorem cases_head (hd : d.Linked) (hw : d.Within h k) :
    k = h ∨ ∃ c ∈ d.inside h, d.Within c k := by
  induction hw with
  | self _ => exact Or.inl rfl
  | @step p k hw hp ih =>
    rcases ih with rfl | ⟨c, hc, hcp⟩
    · exact Or.inr ⟨k, hd.mem_of_parent? hp, self (contains_of_parent? hp)⟩
    · exact Or.inr ⟨c, hc, hcp.step hp⟩

/-- Two nodes above the same node lie one below the other. -/
theorem total {a b : Handle} (ha : d.Within a k) (hb : d.Within b k) :
    d.Within a b ∨ d.Within b a := by
  induction ha with
  | self _ => exact Or.inr hb
  | @step p k ha hp ih =>
    cases hb with
    | self hc => exact Or.inl (ha.step hp)
    | step hb hp' =>
      obtain rfl := Option.some.inj (hp.symm.trans hp')
      exact ih hb

theorem rank_le {rank : Handle → Nat} (hr : ∀ k p, d.parent? k = some p → rank p < rank k)
    (hw : d.Within h k) : rank h ≤ rank k := by
  induction hw with
  | self _ => exact Nat.le_refl _
  | step _ hp ih => exact Nat.le_of_lt (Nat.lt_of_le_of_lt ih (hr _ _ hp))

/-- The parent of a node does not lie below it. -/
theorem not_within_parent (ha : d.Acyclic) (hp : d.parent? k = some p) : ¬ d.Within k p := by
  obtain ⟨rank, hr⟩ := ha
  intro hw
  have := hw.rank_le hr
  have := hr _ _ hp
  omega

/-- Siblings have no node below them in common. -/
theorem eq_of_siblings (ha : d.Acyclic) {a b : Handle} (hpa : d.parent? a = some p)
    (hpb : d.parent? b = some p) (hka : d.Within a k) (hkb : d.Within b k) : a = b := by
  have key : ∀ {a b : Handle}, d.parent? a = some p → d.parent? b = some p → d.Within a b →
      a = b := by
    intro a b hpa hpb hw
    cases hw with
    | self _ => rfl
    | step hw hp =>
      obtain rfl := Option.some.inj (hpb.symm.trans hp)
      exact absurd hw (not_within_parent ha hpa)
  rcases hka.total hkb with hab | hba
  · exact key hpa hpb hab
  · exact (key hpb hpa hba).symm

/-- A node that lies outside a tree lists no node of it. -/
theorem not_within_of_mem (hd : d.Linked) (hroot : d.parent? h = none) (hk : ¬ d.Within h k)
    (hc : c ∈ d.inside k) : ¬ d.Within h c := by
  have hp := hd.parent?_of_mem hc
  intro hw
  cases hw with
  | self _ => rw [hroot] at hp; simp at hp
  | step hw hp' =>
    obtain rfl := Option.some.inj (hp.symm.trans hp')
    exact hk hw

end Within

/-- Elements have only elements above them, up to the document. -/
theorem mem_elements_of_within (hd : d.Linked) {x : Handle} (hx : x ∈ d.inside h)
    (hk : d.Within x k) (he : d.isElement k = true) : x ∈ d.elements h := by
  have hxe : d.isElement x = true := by
    rcases hk.cases_head hd with rfl | ⟨c, hc, -⟩
    · exact he
    · rcases hd.kind_of_parent (hd.parent?_of_mem hc) with hxe | hdoc
      · exact hxe
      · exact absurd hx (hd.not_mem_inside hdoc)
  exact hd.mem_elements_of_parent? (hd.parent?_of_mem hx) hxe

/-! ## Heights -/

/-- An attribute of a node is not below any of the elements inside it. -/
theorem Forest.not_within_attribute (hd : d.Forest) {a x : Handle} (ha : a ∈ d.attributes h)
    (hx : x ∈ d.elements h) : ¬ d.Within x a := by
  intro hw
  have hpar := hd.parent?_of_mem (mem_inside.mpr (Or.inl ha))
  have heq := Within.eq_of_siblings hd.acyclic (hd.parent?_of_mem_elements hx) hpar hw
    (Within.self hw.contains)
  have hattr := (hd.kinds_of_attribute ha).1
  rw [← heq, not_isAttribute_of_isElement (mem_elements.mp hx).2] at hattr
  simp at hattr

/-- Handles that are ranked can be numbered in the order of their ranks, with numbers below that of
the slots. -/
theorem exists_numbering {α : Type} [Preorder α] (rank : Handle → α) (size : Nat) :
    ∃ number : Handle → Nat,
      (∀ a b, a.index < size → rank a < rank b → number a < number b) ∧
        ∀ h, h.index < size → number h < size := by
  classical
  -- count the slots that are ranked lower
  let below : Handle → Finset Nat := fun h =>
    (Finset.range size).filter fun i => rank ⟨i⟩ < rank h
  refine ⟨fun h => (below h).card, ?_, ?_⟩
  · intro a b ha hab
    apply Finset.card_lt_card
    rw [Finset.ssubset_iff_of_subset]
    · refine ⟨a.index, ?_, ?_⟩
      · rw [Finset.mem_filter, Finset.mem_range]
        exact ⟨ha, hab⟩
      · simp [below]
    · intro i hi
      rw [Finset.mem_filter] at hi ⊢
      exact ⟨hi.1, lt_trans hi.2 hab⟩
  · intro h hlt
    have hsub : below h ⊆ (Finset.range size).erase h.index := by
      intro i hi
      rw [Finset.mem_filter] at hi
      rw [Finset.mem_erase]
      refine ⟨?_, hi.1⟩
      rintro rfl
      exact lt_irrefl _ hi.2
    calc (below h).card ≤ ((Finset.range size).erase h.index).card := Finset.card_le_card hsub
      _ = size - 1 := by
          rw [Finset.card_erase_of_mem (Finset.mem_range.mpr hlt), Finset.card_range]
      _ < size := by omega

/-- In a forest every node has a height, which is smaller than that of its parent and than the
number of slots. -/
theorem Forest.exists_height (hd : d.Forest) :
    ∃ height : Handle → Nat, (∀ k p, d.parent? k = some p → height k < height p) ∧
      ∀ h, d.contains h = true → height h < d.slots.size := by
  obtain ⟨rank, hr⟩ := hd.acyclic
  obtain ⟨height, hlt, hsize⟩ :=
    exists_numbering (fun h => OrderDual.toDual (rank h)) d.slots.size
  refine ⟨height, ?_, fun h hc => hsize h (index_lt_of_contains hc)⟩
  intro k p hp
  exact hlt k p (index_lt_of_contains (contains_of_parent? hp)) (hr k p hp)

/-- In a forest every node has a depth, which is greater than that of its parent and smaller than
the number of slots. -/
theorem Forest.exists_depth (hd : d.Forest) :
    ∃ depth : Handle → Nat, (∀ k p, d.parent? k = some p → depth p < depth k) ∧
      ∀ h, d.contains h = true → depth h < d.slots.size := by
  obtain ⟨rank, hr⟩ := hd.acyclic
  obtain ⟨depth, hlt, hsize⟩ := exists_numbering rank d.slots.size
  refine ⟨depth, ?_, fun h hc => hsize h (index_lt_of_contains hc)⟩
  intro k p hp
  exact hlt p k (index_lt_of_contains (hd.contains_parent hp)) (hr k p hp)

/-! ## Listing a subtree -/

theorem within_of_mem_subtreeAux (hd : d.Linked) {fuel : Nat} (hk : k ∈ d.subtreeAux fuel h) :
    d.Within h k := by
  induction fuel generalizing h with
  | zero => simp [subtreeAux] at hk
  | succ fuel ih =>
    unfold subtreeAux at hk
    cases hn : d.node? h with
    | none => rw [hn] at hk; simp at hk
    | some n =>
      rw [hn] at hk
      have hself : d.Within h h := Within.self (contains_iff.mpr ⟨n, hn⟩)
      have hinside : n.attributes ++ n.children = d.inside h := by
        simp [inside, attributes, children, hn]
      simp only [hinside] at hk
      rcases List.mem_cons.mp hk with rfl | hk
      · exact hself
      · obtain ⟨c, hc, hkc⟩ := List.mem_flatMap.mp hk
        exact (hself.step (hd.parent?_of_mem hc)).trans (ih hkc)

/-- With as much fuel as the node is high, the walk reaches all nodes below it. -/
theorem mem_subtreeAux_of_within (hd : d.Linked) {height : Handle → Nat}
    (hh : ∀ k p, d.parent? k = some p → height k < height p) {fuel : Nat}
    (hfuel : height h < fuel) (hw : d.Within h k) : k ∈ d.subtreeAux fuel h := by
  induction fuel generalizing h with
  | zero => omega
  | succ fuel ih =>
    obtain ⟨n, hn⟩ := contains_iff.mp hw.contains_root
    have hinside : n.attributes ++ n.children = d.inside h := by
      simp [inside, attributes, children, hn]
    rw [subtreeAux, hn]
    simp only [hinside]
    rcases hw.cases_head hd with rfl | ⟨c, hc, hck⟩
    · exact List.mem_cons_self ..
    · refine List.mem_cons_of_mem _ (List.mem_flatMap.mpr ⟨c, hc, ih ?_ hck⟩)
      have := hh _ _ (hd.parent?_of_mem hc)
      omega

/-- The subtree lists exactly the nodes at and below a node. -/
theorem mem_subtree_iff (hd : d.Forest) : k ∈ d.subtree h ↔ d.Within h k := by
  constructor
  · exact within_of_mem_subtreeAux hd.toLinked
  · intro hw
    obtain ⟨height, hlt, hsize⟩ := hd.exists_height
    exact mem_subtreeAux_of_within hd.toLinked hlt (hsize h hw.contains_root) hw

/-! ## Discarding -/

theorem node?_foldl_drop (hs : List Handle) (d : Document) (k : Handle) :
    (hs.foldl drop d).node? k = if k ∈ hs then none else d.node? k := by
  induction hs generalizing d with
  | nil => simp
  | cons h hs ih =>
    rw [List.foldl_cons, ih, node?_drop]
    by_cases hk : k ∈ hs
    · simp [hk]
    · by_cases hkh : k = h <;> simp [hk, hkh]

theorem size_foldl_drop (hs : List Handle) (d : Document) :
    (hs.foldl drop d).slots.size = d.slots.size := by
  induction hs generalizing d with
  | nil => rfl
  | cons h hs ih => rw [List.foldl_cons, ih, drop, Array.size_modify]

/-- The second document is the first one without links to and from the nodes at and below `h`. -/
structure Cut (d d' : Document) (h : Handle) : Prop where
  bare : ∀ k, d.Within h k → d'.inside k = [] ∧ d'.parent? k = none
  kept : ∀ k, ¬ d.Within h k → d'.node? k = d.node? k

namespace Cut

/-- A node that is left names the parent that it had. -/
theorem parent?_eq (hr : Cut d d' h) (hp : d'.parent? k = some p) :
    d.parent? k = some p ∧ ¬ d.Within h k := by
  have hk : ¬ d.Within h k := by
    intro hw
    rw [(hr.bare k hw).2] at hp
    simp at hp
  rw [(lookups_congr (hr.kept k hk)).2.2.1] at hp
  exact ⟨hp, hk⟩

/-- A node that is left lists nodes that are left. -/
theorem mem_inside (hr : Cut d d' h) (hd : d.Linked) (hroot : d.parent? h = none)
    (hc : c ∈ d'.inside k) : ¬ d.Within h k ∧ c ∈ d.inside k ∧ ¬ d.Within h c := by
  have hk : ¬ d.Within h k := by
    intro hw
    rw [(hr.bare k hw).1] at hc
    simp at hc
  have heq := lookups_congr (hr.kept k hk)
  rw [inside, heq.2.2.2.1, heq.2.2.2.2] at hc
  exact ⟨hk, hc, Within.not_within_of_mem hd hroot hk hc⟩

/-- Cutting a tree off that belongs to no parent keeps the links of a document in order. -/
theorem linked (hr : Cut d d' h) (hd : d.Linked) (hroot : d.parent? h = none)
    (htop : d'.kind? top = some .document) : d'.Linked := by
  refine ⟨htop, ?_, ?_, ?_, ?_, ?_, ?_⟩
  · cases hp : d'.parent? top with
    | none => rfl
    | some p => rw [← hd.parent?_top, (hr.parent?_eq hp).1]
  · intro k c hc
    obtain ⟨-, hc', hwc⟩ := hr.mem_inside hd hroot hc
    rw [(lookups_congr (hr.kept c hwc)).2.2.1, hd.parent?_of_mem hc']
  · intro k c hp
    obtain ⟨hp', hwc⟩ := hr.parent?_eq hp
    have hwk : ¬ d.Within h k := fun hw => hwc (hw.step hp')
    have heq := lookups_congr (hr.kept k hwk)
    rw [inside, heq.2.2.2.1, heq.2.2.2.2]
    exact hd.mem_of_parent? hp'
  · intro k
    by_cases hw : d.Within h k
    · rw [(hr.bare k hw).1]
      exact List.nodup_nil
    · have heq := lookups_congr (hr.kept k hw)
      rw [inside, heq.2.2.2.1, heq.2.2.2.2]
      exact hd.nodup_inside k
  · intro k c hc
    obtain ⟨hwk, -, hwc⟩ := hr.mem_inside hd hroot (Document.mem_inside.mpr (Or.inl hc))
    have heq := lookups_congr (hr.kept k hwk)
    rw [isAttribute_congr (lookups_congr (hr.kept c hwc)).1, isElement_congr heq.1]
    rw [heq.2.2.2.1] at hc
    exact hd.kinds_of_attribute hc
  · intro k c hc
    obtain ⟨hwk, -, hwc⟩ := hr.mem_inside hd hroot (Document.mem_inside.mpr (Or.inr hc))
    have heq := lookups_congr (hr.kept k hwk)
    have heqc := (lookups_congr (hr.kept c hwc)).1
    rw [isElement_congr heqc, isText_congr heqc, isElement_congr heq.1, heq.1]
    rw [heq.2.2.2.2] at hc
    exact hd.kinds_of_child hc

end Cut

/-- The second document is the first one without the nodes at and below `h`. -/
structure Pruned (d d' : Document) (h : Handle) : Prop where
  size : d'.slots.size = d.slots.size
  gone : ∀ k, d.Within h k → d'.node? k = none
  kept : ∀ k, ¬ d.Within h k → d'.node? k = d.node? k

/-- Discarding drops exactly the nodes of the subtree of a node without parent. -/
theorem pruned_discard (hd : d.Forest) (hc : d.contains h = true) (hp : d.parent? h = none) :
    ∃ d', d.discard h = .ok d' ∧ Pruned d d' h := by
  obtain ⟨n, hn⟩ := contains_iff.mp hc
  have hpar : n.parent = none := by simpa [parent?, hn] using hp
  refine ⟨(d.subtree h).foldl drop d, ?_, size_foldl_drop _ _, ?_, ?_⟩
  · simp [discard, hn, hpar]
  · intro k hw
    rw [node?_foldl_drop, if_pos ((mem_subtree_iff hd).mpr hw)]
  · intro k hw
    rw [node?_foldl_drop, if_neg fun hk => hw ((mem_subtree_iff hd).mp hk)]

namespace Pruned

theorem cut (hr : Pruned d d' h) : Cut d d' h where
  bare := fun k hw => by simp [inside, attributes, children, parent?, hr.gone k hw]
  kept := hr.kept

theorem contains_iff (hr : Pruned d d' h) :
    d'.contains k = true ↔ d.contains k = true ∧ ¬ d.Within h k := by
  by_cases hw : d.Within h k
  · simp [Document.contains, hr.gone k hw, hw]
  · simp [Document.contains, hr.kept k hw, hw]

/-- A node that is left names the parent that it had. -/
theorem parent?_eq (hr : Pruned d d' h) (hp : d'.parent? k = some p) :
    d.parent? k = some p ∧ ¬ d.Within h k :=
  hr.cut.parent?_eq hp

theorem linked (hr : Pruned d d' h) (hd : d.Linked) (hroot : d.parent? h = none)
    (htop : ¬ d.Within h top) : d'.Linked := by
  refine hr.cut.linked hd hroot ?_
  rw [(lookups_congr (hr.kept top htop)).1, hd.kind?_top]

theorem orderly (hr : Pruned d d' h) (hd : d.Orderly) (hroot : d.parent? h = none)
    (htop : h ≠ top) : d'.Orderly where
  toLinked := by
    refine hr.linked hd.toLinked hroot ?_
    intro hw
    cases hw with
    | self _ => exact htop rfl
    | step _ hp => rw [hd.parent?_top] at hp; simp at hp
  parent_lt := fun hp => hd.parent_lt (hr.parent?_eq hp).1

end Pruned

end GuidedXml.Document
