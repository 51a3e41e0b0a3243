/-
# Attached nodes

A node is attached if it is the document itself or lies below it. A node that belongs to no parent
is the top of a tree of its own, so what is attached is settled by the nodes without a parent.

The main statements say what becomes attached and what ceases to be when the nodes of one parent
change, and that in a document whose only node without a parent is its top everything is attached.
-/
import GuidedXml.Proofs.Document.Growth

namespace GuidedXml.Document

variable {d d' : Document} {h k p c : Handle} {taken given : Option Handle}

/-! ## Paths from the top -/

theorem within_of_mem_ancestorsAux (hd : d.Linked) {fuel : Nat} (hk : k ∈ d.ancestorsAux fuel h) :
    d.Within k h := by
  induction fuel generalizing h with
  | zero => simp [ancestorsAux] at hk
  | succ fuel ih =>
    rw [ancestorsAux] at hk
    cases hp : d.parent? h with
    | none => rw [hp] at hk; simp at hk
    | some p =>
      rw [hp] at hk
      rcases List.mem_cons.mp hk with rfl | hk
      · exact Within.of_parent? hd hp
      · exact (ih hk).step hp

/-- What is in the document lies below its top. -/
theorem within_of_isAttached (hd : d.Linked) (hin : d.isAttached h = true) : d.Within top h := by
  rw [isAttached, List.contains_iff_mem] at hin
  rcases List.mem_cons.mp hin with rfl | hmem
  · exact Within.self hd.contains_top
  · exact within_of_mem_ancestorsAux hd hmem

/-- A path upwards is found by a walk of as many steps as nodes came before. -/
theorem mem_ancestorsAux_of_within (hd : d.Orderly) (hw : d.Within k h) {fuel : Nat}
    (hfuel : h.index ≤ fuel) : h = k ∨ k ∈ d.ancestorsAux fuel h := by
  induction hw generalizing fuel with
  | self _ => exact Or.inl rfl
  | @step p h hw hp ih =>
    have hlt := hd.parent_lt hp
    obtain ⟨fuel, rfl⟩ : ∃ n, fuel = n + 1 := ⟨fuel - 1, by omega⟩
    right
    rw [ancestorsAux, hp]
    have hfuel : p.index ≤ fuel := by omega
    rcases ih hfuel with rfl | hm
    · exact List.mem_cons_self ..
    · exact List.mem_cons_of_mem _ hm

/-- The attached nodes are those at and below the top. -/
theorem isAttached_iff (hd : d.Orderly) : d.isAttached h = true ↔ d.Within top h := by
  constructor
  · exact within_of_isAttached hd.toLinked
  · intro hw
    have hlt := index_lt_of_contains hw.contains
    rw [isAttached, List.contains_iff_mem, List.mem_cons]
    rcases mem_ancestorsAux_of_within hd hw (Nat.le_of_lt hlt) with rfl | hm
    · exact Or.inl rfl
    · exact Or.inr hm

/-- Below the top, only elements are above elements. -/
theorem Within.eq_top_or_isElement (hd : d.Linked) (hw : d.Within top p)
    (hk : d.parent? k = some p) : p = top ∨ d.isElement p = true := by
  rcases hd.kind_of_parent hk with he | hdoc
  · exact Or.inr he
  · cases hw with
    | self _ => exact Or.inl rfl
    | step _ hq => exact absurd (hd.mem_of_parent? hq) (hd.not_mem_inside hdoc)

/-- Below the top, what holds something is an element. -/
theorem Within.isElement_of_ne_top (hd : d.Linked) (hw : d.Within top p) (hne : p ≠ top)
    (hk : d.isElement p = true ∨ d.kind? p = some .document) : d.isElement p = true := by
  refine hk.resolve_right ?_
  intro hdoc
  cases hw with
  | self _ => exact hne rfl
  | step _ hq => exact hd.not_mem_inside hdoc (hd.mem_of_parent? hq)

/-! ## Nodes without parents -/

/-- Only the top of the document and the nodes with the property belong to no parent. -/
def Rooted (d : Document) (P : Handle → Prop) : Prop :=
  ∀ k, d.contains k = true → d.parent? k = none → k = top ∨ P k

/-- Every live node lies below one that belongs to no parent. -/
theorem Orderly.exists_outermost (hd : d.Orderly) (hc : d.contains k = true) :
    ∃ r, d.parent? r = none ∧ d.Within r k := by
  obtain ⟨n, hn⟩ : ∃ n, k.index < n := ⟨_, Nat.lt_succ_self _⟩
  induction n generalizing k with
  | zero => omega
  | succ n ih =>
    cases hp : d.parent? k with
    | none => exact ⟨k, hp, Within.self hc⟩
    | some p =>
      have hlt := hd.parent_lt hp
      obtain ⟨r, hr, hw⟩ := ih (hd.contains_parent hp) (by omega)
      exact ⟨r, hr, hw.step hp⟩

/-- Nothing lies below two nodes that belong to no parent. -/
theorem Within.eq_of_detached {a b : Handle} (ha : d.Within a k) (hb : d.Within b k)
    (hpa : d.parent? a = none) (hpb : d.parent? b = none) : a = b := by
  -- one of the two lies below the other, and nothing lies above a node without a parent
  have key : ∀ {a b : Handle}, d.parent? b = none → d.Within a b → a = b := by
    intro a b hpb hw
    cases hw with
    | self _ => rfl
    | step _ hp => rw [hpb] at hp; simp at hp
  rcases ha.total hb with hab | hba
  · exact key hpb hab
  · exact (key hpa hba).symm

/-- What is attached does not lie below another node without a parent. -/
theorem Linked.not_within_of_detached (hd : d.Linked) (hk : d.Within top k)
    (hp : d.parent? h = none) (hne : h ≠ top) : ¬ d.Within h k :=
  fun hw => hne (hw.eq_of_detached hk hp hd.parent?_top)

theorem Rooted.mono {P Q : Handle → Prop} (hr : d.Rooted P) (hPQ : ∀ k, P k → Q k) :
    d.Rooted Q := by
  intro k hc hp
  exact (hr k hc hp).imp_right (hPQ k)

/-- Where only the top belongs to no parent, everything is attached. -/
theorem Rooted.within_top (hr : d.Rooted fun _ => False) (hd : d.Orderly)
    (hc : d.contains k = true) : d.Within top k := by
  obtain ⟨r, hp, hw⟩ := hd.exists_outermost hc
  rcases hr r hw.contains_root hp with rfl | hfalse
  · exact hw
  · exact absurd hfalse not_false

/-- Below a node that is neither an element nor the document there is nothing. -/
theorem Within.eq_of_leaf (hd : d.Linked) (he : d.isElement h = false)
    (hk : d.kind? h ≠ some .document) (hw : d.Within h k) : k = h := by
  rcases hw.cases_head hd with rfl | ⟨c, hc, -⟩
  · rfl
  · rcases hd.kind_of_parent (hd.parent?_of_mem hc) with hhe | hhd
    · rw [he] at hhe
      simp at hhe
    · exact absurd hhd hk

/-- At or below a node there are the node itself, its attributes, what is at or below the elements
inside it, and texts. -/
theorem Within.cases_inside (hd : d.Forest) (hw : d.Within h k) : k = h ∨ k ≠ h ∧
    (k ∈ d.attributes h ∨ (∃ x ∈ d.elements h, d.Within x k) ∨ d.isText k = true) := by
  rcases hw.cases_head hd.toLinked with rfl | ⟨x, hx, hxk⟩
  · exact Or.inl rfl
  · have hleaf : d.isElement x = false → k = x := fun hxe =>
      hxk.eq_of_leaf hd.toLinked hxe fun hdoc => hd.not_mem_inside hdoc hx
    refine Or.inr ⟨?_, ?_⟩
    · rintro rfl
      exact Within.not_within_parent hd.acyclic (hd.parent?_of_mem hx) hxk
    · rcases mem_inside.mp hx with ha | hc
      · rw [hleaf (not_isElement_of_isAttribute (hd.kinds_of_attribute ha).1)]
        exact Or.inl ha
      · rcases (hd.kinds_of_child hc).1 with hxe | hxt
        · exact Or.inr (Or.inl ⟨x, mem_elements.mpr ⟨hc, hxe⟩, hxk⟩)
        · rw [hleaf (not_isElement_of_isText hxt)]
          exact Or.inr (Or.inr hxt)

/-- What lies below a node still does where no node has lost its parent. -/
theorem Within.carried (hc : d.contains h = true → d'.contains h = true)
    (hp : ∀ k p, d.parent? k = some p → d'.parent? k = some p) (hw : d.Within h k) :
    d'.Within h k := by
  induction hw with
  | self hl => exact Within.self (hc hl)
  | step _ hq ih => exact ih.step (hp _ _ hq)

/-! ## Growing documents -/

/-- Below a node that was there, an old node lies where it lay. -/
theorem Extends.within_iff (he : Extends d d') (hd : d.Linked) (hc : d.contains k = true) :
    d'.Within h k ↔ d.Within h k := by
  constructor
  · intro hw
    induction hw with
    | self _ => exact Within.self hc
    | @step p k _ hp ih =>
      rw [(he.lookups hc).2.2.1] at hp
      exact (ih (hd.contains_parent hp)).step hp
  · refine Within.carried (fun hl => ?_) fun k p hp => ?_
    · rwa [contains_congr (he.lookups hl).1]
    · rw [(he.lookups (contains_of_parent? hp)).2.2.1, hp]

/-- Below an old node there are old nodes alone. -/
theorem Extends.within_old_iff (he : Extends d d') (hd : d.Linked) (hd' : d'.Linked)
    (hh : d.contains h = true) : d'.Within h k ↔ d.Within h k := by
  constructor
  · intro hw
    induction hw with
    | self _ => exact Within.self hh
    | @step p k _ hp ih =>
      have heq := he.lookups ih.contains
      have hmem := hd'.mem_of_parent? hp
      rw [inside, heq.2.2.2.1, heq.2.2.2.2] at hmem
      exact ih.step (hd.parent?_of_mem hmem)
  · intro hw
    exact (he.within_iff hd hw.contains).mpr hw

/-- If only one of the nodes that came later has no parent, the others lie below it. -/
theorem Extends.within_of_new (he : Extends d d') (hd : d.Linked) (hd' : d'.Orderly)
    (hr : ∀ k, d.slots.size ≤ k.index → d'.contains k = true → d'.parent? k = none → k = h)
    (hk : d.slots.size ≤ k.index) (hc : d'.contains k = true) : d'.Within h k := by
  obtain ⟨r, hnone, hw⟩ := hd'.exists_outermost hc
  have hlive := hw.contains_root
  by_cases hold : d.slots.size ≤ r.index
  · rwa [← hr r hold hlive hnone]
  · -- below an old node there would be no new one
    rw [Document.contains, he.node? r (by omega), ← Document.contains] at hlive
    have hin := index_lt_of_contains (((he.within_old_iff hd hd'.toLinked hlive).mp hw).contains)
    omega

/-- Of a content that was written, only the outermost node belongs to no parent. -/
theorem rooted_write {P : Handle → Prop} (hr : d.Rooted P) {t : Tree} (ht : t.Proper) :
    (d.write t).1.Rooted fun k => P k ∨ k = d.next := by
  have hext := extends_write d t
  intro k hc hp
  by_cases hk : k.index < d.slots.size
  · have heq := lookups_congr (hext.node? k hk)
    rw [contains_congr heq.1] at hc
    rw [heq.2.2.1] at hp
    exact (hr k hc hp).imp_right Or.inl
  · have hlt := index_lt_of_contains hc
    rw [size_write] at hlt
    obtain ⟨-, ⟨rfl, -⟩ | ⟨q, hq, -⟩⟩ :=
      soundAt_of_holds_of_mem ht (holds_write d t) k (by omega) hlt
    · exact Or.inr (Or.inr rfl)
    · rw [hq] at hp
      simp at hp

/-- In the document of a content, everything is attached. -/
theorem rooted_ofTree {root : Tree} (ht : root.Proper) (hk : root.kind = .element) :
    (ofTree root).Rooted fun _ => False := by
  intro k hc hp
  obtain ⟨-, ⟨rfl, -⟩ | ⟨q, hq, -⟩⟩ := soundAt_ofTree ht hk hc
  · exact Or.inl rfl
  · rw [hq] at hp
    simp at hp

/-! ## Changes of one parent -/

namespace Relinked

/-- A node that was given to a parent has one, and a node that was taken has none. -/
theorem rooted (hr : Relinked d d' p taken given) {P : Handle → Prop}
    (hd : d.Rooted fun k => P k ∨ given = some k) : d'.Rooted fun k => P k ∨ taken = some k := by
  intro k hc hp
  rw [contains_congr (hr.kind? k)] at hc
  rw [hr.parent?] at hp
  split_ifs at hp with hg ht
  · exact Or.inr (Or.inr ht)
  · exact (hd k hc hp).imp_right fun h => Or.inl (h.resolve_right hg)

/-- What lies below a node without parent still does, if nothing was taken from there. -/
theorem within_given (hr : Relinked d d' p taken given) (hdet : d.parent? c = none)
    (hgiven : given = some c) (ht : ∀ x, taken = some x → ¬ d.Within c x) (hw : d.Within c k) :
    d'.Within c k := by
  induction hw with
  | self hc => exact Within.self (by rwa [contains_congr (hr.kind? c)])
  | @step q k hw hp ih =>
    refine ih.step ?_
    have hne : given ≠ some k := by
      intro hg
      obtain rfl := Option.some.inj (hgiven.symm.trans hg)
      rw [hdet] at hp
      simp at hp
    have hnt : taken ≠ some k := fun hx => ht k hx (hw.step hp)
    rw [hr.parent?, if_neg hne, if_neg hnt, hp]

/-- Nothing comes to lie below a node by giving it to a parent. -/
theorem within_of_given (hr : Relinked d d' p taken given) (hgiven : given = some c)
    (hw : d'.Within c k) : d.Within c k := by
  induction hw with
  | self hc => exact Within.self (by rwa [contains_congr (hr.kind? c)] at hc)
  | @step q k _ hq ih =>
    rw [hr.parent?] at hq
    split_ifs at hq with hg
    · obtain rfl := Option.some.inj (hgiven.symm.trans hg)
      exact Within.self ih.contains_root
    · exact ih.step hq

/-- What lies below a node still does, if it does not lie below what was taken. -/
theorem within_of_out (hr : Relinked d d' p taken given)
    (hgiven : ∀ c, given = some c → d.parent? c = none) (hw : d.Within h k)
    (hout : ∀ c, taken = some c → ¬ d.Within c k) : d'.Within h k := by
  induction hw with
  | self hc => exact Within.self (by rwa [contains_congr (hr.kind? h)])
  | @step q k hw hq ih =>
    refine (ih fun c hc hcq => hout c hc (hcq.step hq)).step ?_
    have hne : given ≠ some k := by
      intro hg
      rw [hgiven k hg] at hq
      simp at hq
    have hnt : taken ≠ some k := fun ht => hout k ht (Within.self (contains_of_parent? hq))
    rw [hr.parent?, if_neg hne, if_neg hnt, hq]

/-- What lies below the node that was taken still does. -/
theorem within_taken (hr : Relinked d d' p taken given) (hd : d.Acyclic)
    (hgiven : ∀ c, given = some c → d.parent? c = none) (htaken : taken = some c)
    (hw : d.Within c k) : d'.Within c k := by
  induction hw with
  | self hc => exact Within.self (by rwa [contains_congr (hr.kind? c)])
  | @step q k hw hq ih =>
    refine ih.step ?_
    have hne : given ≠ some k := by
      intro hg
      rw [hgiven k hg] at hq
      simp at hq
    have hnt : taken ≠ some k := by
      intro ht
      obtain rfl := Option.some.inj (htaken.symm.trans ht)
      exact Within.not_within_parent hd hq hw
    rw [hr.parent?, if_neg hne, if_neg hnt, hq]

/-- After a change of an attached parent, the nodes below the one that was taken are no longer
attached, and those below the one that was given are. -/
theorem within_top_iff (hr : Relinked d d' p taken given) (hd : d.Forest)
    (hp : d.Within top p)
    (hgiven : ∀ c, given = some c → d.CanHold p c)
    (htaken : ∀ c, taken = some c → d.parent? c = some p) :
    d'.Within top k ↔ (d.Within top k ∧ ∀ c, taken = some c → ¬ d.Within c k) ∨
      ∃ c, given = some c ∧ d.Within c k := by
  have hlive : ∀ x, d'.contains x = d.contains x := fun x => contains_congr (hr.kind? x)
  have hout : ∀ c, taken = some c → ¬ d.Within c p := fun c hc =>
    Within.not_within_parent hd.acyclic (htaken c hc)
  have hstays : ∀ {k}, d.Within top k → (∀ c, taken = some c → ¬ d.Within c k) →
      d'.Within top k := fun hw hk => hr.within_of_out (fun c hc => (hgiven c hc).detached) hw hk
  constructor
  · -- along the path in the new document: it keeps to the old one until it meets what was given
    intro hw
    induction hw with
    | self hc =>
      left
      refine ⟨Within.self (by rwa [← hlive]), ?_⟩
      intro c hc' hw
      cases hw with
      | self _ => have := htaken _ hc'; rw [hd.parent?_top] at this; simp at this
      | step _ hq => rw [hd.parent?_top] at hq; simp at hq
    | @step q k hw hq ih =>
      rw [hr.parent?] at hq
      split_ifs at hq with hg ht
      · exact Or.inr ⟨k, hg, Within.self (by
          rw [← hlive]; exact contains_of_parent? (by rw [hr.parent?, if_pos hg]))⟩
      · rcases ih with ⟨hw, hno⟩ | ⟨c, hc, hw⟩
        · refine Or.inl ⟨hw.step hq, ?_⟩
          intro c hc hck
          cases hck with
          | self _ => exact ht hc
          | step hcq hq' =>
            obtain rfl := Option.some.inj (hq.symm.trans hq')
            exact hno c hc hcq
        · exact Or.inr ⟨c, hc, hw.step hq⟩
  · rintro (⟨hw, hno⟩ | ⟨c, hc, hw⟩)
    · exact hstays hw hno
    · have hcan := hgiven c hc
      have hne := hcan.ne_top hd.toLinked
      have hpc : d'.parent? c = some p := by rw [hr.parent?, if_pos hc]
      refine ((hstays hp hout).step hpc).trans (hr.within_given hcan.detached hc ?_ hw)
      -- the node that was taken is attached, and so does not lie below the one that was given
      intro x hx
      exact hd.toLinked.not_within_of_detached (hp.step (htaken x hx)) hcan.detached hne

end Relinked

/-! ## Other changes -/

theorem SameParents.within_iff {d d' : Document} (hp : ∀ k, d'.parent? k = d.parent? k)
    (hc : ∀ k, d'.contains k = d.contains k) : d'.Within h k ↔ d.Within h k := by
  constructor
  · intro hw
    induction hw with
    | self hl => exact Within.self (by rwa [← hc])
    | step _ hq ih => exact ih.step (by rwa [← hp])
  · intro hw
    induction hw with
    | self hl => exact Within.self (by rwa [hc])
    | step _ hq ih => exact ih.step (by rwa [hp])

/-- Discarding a tree of its own leaves everything else attached that was. -/
theorem Pruned.within_top_iff (hr : Pruned d d' h) (hd : d.Linked) (hp : d.parent? h = none)
    (hne : h ≠ top) : d'.Within top k ↔ d.Within top k := by
  have hout : ∀ {k}, d.Within top k → ¬ d.Within h k := fun hk =>
    hd.not_within_of_detached hk hp hne
  constructor
  · intro hw
    induction hw with
    | self hc => exact Within.self (hr.contains_iff.mp hc).1
    | step _ hq ih => exact ih.step (hr.parent?_eq hq).1
  · intro hw
    induction hw with
    | self hc => exact Within.self (hr.contains_iff.mpr ⟨hc, hout (Within.self hc)⟩)
    | @step q k hw hq ih =>
      refine ih.step ?_
      rw [(lookups_congr (hr.kept k (hout (hw.step hq)))).2.2.1, hq]

end GuidedXml.Document
