/-
# Effects of edits

What edits come to when they succeed: an added element stands where it was asked for and is good, a
removed node is gone with all that is inside it, and a changed value touches no element.

The main statements say this for each edit, and that additions and removals inside elements are
always possible.
-/
import GuidedXml.Proofs.Conformance.Splicing

namespace GuidedXml.Session

open Document (Kept Relinked)
open Schema (ConstraintId ContentModel)
open Workspace (Grows Stage)

variable {s s' : Session} {t : Stage} {d : Document} {h k p new parent : Handle}
  {c i : ConstraintId} {after : Option Handle}

/-! ## Giving new nodes to an element -/

/-- Nodes that were created are no parents of old ones. -/
theorem contains_of_mem_elements (hs : s.Tidy) (hg : Grows (s.workspace, s.document) t)
    (hc : s.document.contains h = false) (hk : k ∈ t.2.elements h) :
    s.document.contains k = false := by
  by_contra hkc
  rw [Bool.not_eq_false] at hkc
  have hp := hg.sound.orderly.parent?_of_mem_elements hk
  rw [(hg.document.lookups hkc).2.2.1] at hp
  rw [hs.linked.contains_parent hp] at hc
  simp at hc

/-- Good elements were created, and one of the new nodes was given to an element. -/
theorem reshapes_of_given (hs : s.Tidy) (hg : Grows (s.workspace, s.document) t)
    (hgood : ∀ k, s.document.slots.size ≤ k.index → t.2.isElement k = true →
      t.1.IsGood .strict t.2 k)
    (hr : t.2.Relinked d p none (some new)) (hunknown : s.document.contains new = false)
    (hp : s.document.contains p = true) (hsame : SameSeats (s.withStage (t.1, d)) s') :
    Reshapes (· = p) s s' := by
  refine Reshapes.sameSeats ?_ hsame
  refine ⟨?_, ?_, ?_, ?_, ?_⟩
  · intro h hc _
    exact (hr.kind? h).trans (hg.document.lookups hc).1
  · intro h hc _
    exact (hr.name h).trans (hg.document.lookups hc).2.1
  · intro h hc _ hne
    exact (hg.document.kept hs.linked hc).trans (hr.kept hne)
  -- of the elements of the parent only the new one was not there before
  · rintro p rfl k hk hc
    obtain ⟨hmem, he⟩ := Document.mem_elements.mp hk
    rcases (hr.mem_children k).mp hmem with ⟨hgiven, -⟩ | ⟨hold, -⟩
    · obtain rfl := Option.some.inj hgiven
      rw [hc] at hunknown
      simp at hunknown
    · rw [(hg.document.lookups hp).2.2.2.2] at hold
      refine Document.mem_elements.mpr ⟨hold, ?_⟩
      rw [← Document.isElement_congr (hg.document.lookups hc).1,
        ← Document.isElement_congr (hr.kind? k)]
      exact he
  · -- an element that was not there before is one of those that were created
    intro h hc he
    replace he : d.isElement h = true := he
    rw [Document.isElement_congr (hr.kind? h)] at he
    have hne : h ≠ p := by
      rintro rfl
      rw [hp] at hc
      simp at hc
    have hnew : s.document.slots.size ≤ h.index := by
      by_contra hlt
      have hsame := Document.lookups_congr (hg.document.node? h (Nat.lt_of_not_le hlt))
      have hlive := Document.contains_of_isElement he
      rw [Document.contains_congr hsame.1] at hlive
      replace hlive : s.document.contains h = true := hlive
      rw [hlive] at hc
      simp at hc
    have hkept := hr.kept (h := h) hne
    refine ⟨(hgood h hnew he).kept hkept rfl rfl rfl fun _ _ => rfl, ?_⟩
    intro k hk
    replace hk : k ∈ d.elements h := hk
    rw [hkept.elements] at hk
    exact contains_of_mem_elements hs hg hc hk

/-! ## Additions -/

/-- Showing a new element takes nothing from its seat. -/
theorem sameSeats_adoptElement (s : Session) (t : Stage) (d : Document) (parent new : Handle) :
    SameSeats (s.withStage (t.1, d)) ((s.withStage t).adoptElement d parent new) := by
  have hshown : SameSeats (s.withStage (t.1, d)) (s.withStage
      ({ t.1 with outline := t.1.outline.attach d new }, d)) :=
    ⟨rfl, rfl, rfl, fun _ => rfl⟩
  exact hshown.trans (sameSeats_invalidate _ parent)

/-- Once a place is found for the new element, adding it succeeds. -/
theorem addNode_of_insertAfter (hk : s.workspace.model.kind? c = some .element)
    (hp : s.document.isElement parent = true)
    (hnew : (s.workspace.create s.document c).2 = some new)
    (hd : (s.workspace.create s.document c).1.2.insertAfter parent after new = .ok d) :
    ∃ s', s.addNode c parent after = (s', .ok new) ∧
      SameSeats (s.withStage ((s.workspace.create s.document c).1.1, d)) s' := by
  have hfault : s.elementFault? parent = none := by
    simp [elementFault?, Document.contains_of_isElement hp, hp]
  unfold addNode
  rw [hfault]
  simp only [hk, ne_eq, not_true, if_false, hnew]
  generalize s.workspace.create s.document c = created at hd ⊢
  have hd' : (s.withStage created.1).document.insertAfter parent after new = .ok d := hd
  rw [hd']
  refine ⟨_, rfl, (sameSeats_adoptElement s created.1 d parent new).trans ?_⟩
  exact ((alike_checkMissing _).trans (alike_validate _ new)).sameSeats

/-- There is a place for a new element after every child of an element, and before all. -/
theorem exists_addNode (hs : s.Tidy) (hk : s.workspace.model.kind? c = some .element)
    (hp : s.document.isElement parent = true)
    (hafter : ∀ x, after = some x → x ∈ s.document.children parent) : ∃ d s',
      (s.workspace.create s.document c).1.2.insertAfter parent after s.document.next = .ok d ∧
        s.addNode c parent after = (s', .ok s.document.next) ∧
        SameSeats (s.withStage ((s.workspace.create s.document c).1.1, d)) s' := by
  obtain ⟨e, he, hkind⟩ := exists_of_kind? hk
  obtain ⟨hsome, hraise, -⟩ := Workspace.create_of_element hs.sound he hkind
  have hparent := Document.contains_of_isElement hp
  have hold := hraise.document.lookups hparent
  have hpl : (s.workspace.create s.document c).1.2.Placeable parent s.document.next := by
    refine hraise.sound.orderly.placeable (Or.inl ?_) (Or.inl hraise.isElement) hraise.parent?
      (Document.index_lt_of_contains hparent)
    exact (Document.isElement_congr hold.1).trans hp
  obtain ⟨d, hd⟩ := Document.insertAfter_of_placeable (q := after) hpl (by
    intro x hx
    rw [hold.2.2.2.2]
    exact hafter x hx)
  obtain ⟨s', hadd, hsame⟩ := addNode_of_insertAfter hk hp hsome hd
  exact ⟨d, s', hd, hadd, hsame⟩

/-- An element of a constraint can be added after every child of an element, and before all. -/
theorem addNode_of_isElement (hs : s.Tidy) (htree : s.workspace.model.TreeShaped)
    (hflat : s.workspace.model.FlatUnambiguous)
    (hk : s.workspace.model.kind? c = some .element) (hp : s.document.isElement parent = true)
    (hafter : ∀ x, after = some x → x ∈ s.document.children parent) :
    ∃ new s' xs ys, s.addNode c parent after = (s', .ok new) ∧
      Placed s s' parent new c xs [] ys ∧ xs.getLast? = after := by
  obtain ⟨e, he, hkind⟩ := exists_of_kind? hk
  obtain ⟨-, hraise, hbind⟩ := Workspace.create_of_element hs.sound he hkind
  have hgood := fun k hn => Workspace.good_of_create htree hflat
    (ContentModel.covers_strict _) hs.sound c (k := k) hn
  have hdrift := drifts_addNode hs c parent after
  have hparent := Document.contains_of_isElement hp
  have hold := hraise.document.lookups hparent
  have hunknown : s.document.contains s.document.next = false :=
    Document.contains_eq_false_of_le (Nat.le_refl _)
  obtain ⟨d, s', hd, hadd, hsame⟩ := exists_addNode hs hk hp hafter
  obtain ⟨hr, -, hsplits⟩ := Document.relinked_insertAfter hraise.sound.orderly.toLinked hd
  obtain ⟨xs, ys, hbefore, hchildren, hlast⟩ := hsplits.split
  rw [hadd] at hdrift
  refine ⟨s.document.next, s', xs, ys, hadd, ⟨⟨hp, hdrift, ?_⟩, hunknown, ?_, ?_, ?_, ?_, ?_⟩,
    hlast⟩
  · exact reshapes_of_given hs hraise.toGrows hgood hr hunknown hparent hsame
  · rw [hsame.document]
    exact (Document.isElement_congr (hr.kind? _)).trans hraise.isElement
  · rw [hsame.binding?]
    exact hbind
  · exact hold.2.2.2.2.symm.trans hbefore
  · rw [hsame.document]
    exact hchildren
  · rw [hsame.document]
    intro a ha
    rcases (hr.mem_attributes a).mp ha with ⟨hgiven, hattr⟩ | ⟨hmem, -⟩
    · obtain rfl := Option.some.inj hgiven
      rw [Document.not_isAttribute_of_isElement hraise.isElement] at hattr
      simp at hattr
    · rwa [hold.2.2.2.1] at hmem

/-- Once a place is found for the new attribute, and no other one loses its place to it, adding it
succeeds. -/
theorem addAttribute_of_placeAttribute (hk : s.workspace.model.kind? c = some .attribute)
    (hp : s.document.isElement parent = true)
    (hnew : (s.workspace.create s.document c).2 = some new)
    (hd : (s.workspace.create s.document c).1.2.placeAttribute parent new = .ok (d, none)) :
    ∃ s', s.addAttribute c parent = (s', .ok new) ∧
      SameSeats (s.withStage ((s.workspace.create s.document c).1.1, d)) s' := by
  have hfault : s.elementFault? parent = none := by
    simp [elementFault?, Document.contains_of_isElement hp, hp]
  unfold addAttribute
  rw [hfault]
  simp only [hk, ne_eq, not_true, if_false, hnew]
  generalize s.workspace.create s.document c = created at hd ⊢
  have hd' : (s.withStage created.1).document.placeAttribute parent new = .ok (d, none) := hd
  rw [hd']
  refine ⟨_, rfl, ?_⟩
  have hgiven := sameSeats_invalidate (s.withStage (created.1.1, d)) parent
  exact hgiven.trans ((alike_checkMissing _).trans (alike_validate _ new)).sameSeats

/-- There is a place for a new attribute at every element that has none of its name. -/
theorem exists_addAttribute (hs : s.Tidy) (hk : s.workspace.model.kind? c = some .attribute)
    (hp : s.document.isElement parent = true)
    (hnone : s.document.attribute? parent (s.workspace.model.name c) = none) : ∃ d s',
      (s.workspace.create s.document c).1.2.placeAttribute parent s.document.next = .ok (d, none) ∧
        s.addAttribute c parent = (s', .ok s.document.next) ∧
        SameSeats (s.withStage ((s.workspace.create s.document c).1.1, d)) s' := by
  obtain ⟨e, he, hkind⟩ := exists_of_kind? hk
  have hname : s.workspace.model.name c = e.name := by rw [ContentModel.name, he]; rfl
  obtain ⟨hsome, hg, hl, hattr, hnamed⟩ := Workspace.create_of_attribute hs.sound he hkind
  have hold := hg.document.lookups (Document.contains_of_isElement hp)
  -- no attribute of the element has that name
  have hfree : (s.workspace.create s.document c).1.2.attribute? parent e.name = none := by
    rw [Document.attribute?, List.find?_eq_none]
    intro a ha
    rw [hold.2.2.2.1] at ha
    rw [hname, Document.attribute?, List.find?_eq_none] at hnone
    have hlive := hs.linked.contains_of_mem (Document.mem_inside.mpr (Or.inl ha))
    rw [(hg.document.lookups hlive).2.1]
    exact hnone a ha
  obtain ⟨⟨d, displaced⟩, hd⟩ := Document.placeAttribute_of_canHold
    ((Document.isElement_congr hold.1).trans hp) hattr hl.detached
  obtain ⟨-, -, -, hdisplaced⟩ := Document.relinked_placeAttribute hg.sound.orderly.toLinked hd
  rw [hnamed, hfree] at hdisplaced
  subst hdisplaced
  obtain ⟨s', hadd, hsame⟩ := addAttribute_of_placeAttribute hk hp hsome hd
  exact ⟨d, s', hd, hadd, hsame⟩

/-- An attribute of a constraint can be added to every element that has none of its name. -/
theorem addAttribute_of_isElement (hs : s.Tidy) (htree : s.workspace.model.TreeShaped)
    (hflat : s.workspace.model.FlatUnambiguous)
    (hk : s.workspace.model.kind? c = some .attribute) (hp : s.document.isElement parent = true)
    (hnone : s.document.attribute? parent (s.workspace.model.name c) = none) :
    ∃ new s', s.addAttribute c parent = (s', .ok new) ∧ Declared s s' parent c := by
  obtain ⟨e, he, hkind⟩ := exists_of_kind? hk
  have hname : s.workspace.model.name c = e.name := by rw [ContentModel.name, he]; rfl
  obtain ⟨-, hg, -, -, hnamed⟩ := Workspace.create_of_attribute hs.sound he hkind
  have hgood := fun k hn => Workspace.good_of_create htree hflat
    (ContentModel.covers_strict _) hs.sound c (k := k) hn
  have hdrift := drifts_addAttribute hs c parent
  have hparent := Document.contains_of_isElement hp
  have hold := hg.document.lookups hparent
  obtain ⟨d, s', hd, hadd, hsame⟩ := exists_addAttribute hs hk hp hnone
  obtain ⟨hr, -⟩ := Document.relinked_placeAttribute hg.sound.orderly.toLinked hd
  rw [hadd] at hdrift
  refine ⟨s.document.next, s', hadd, ⟨hp, hdrift, ?_⟩, ?_, ?_⟩
  · exact reshapes_of_given hs hg hgood hr (Document.contains_eq_false_of_le (Nat.le_refl _))
      hparent hsame
  · rw [hsame.document]
    exact (Document.children_placeAttribute hd parent).trans hold.2.2.2.2
  · rw [hsame.document]
    intro a ha
    rcases (hr.mem_attributes a).mp ha with ⟨hgiven, -⟩ | ⟨hmem, -⟩
    · obtain rfl := Option.some.inj hgiven
      exact Or.inr ((hr.name _).trans (hnamed.trans hname.symm))
    · rw [hold.2.2.2.1] at hmem
      exact Or.inl hmem

/-! ## Removals -/

/-- A node without parent was discarded after it was taken out of an element. -/
theorem reshapes_of_pruned (hr : s.document.Relinked d p (some h) none) (hd : d.Orderly)
    (hpruned : d.Pruned s'.document h) : Reshapes (· = p) s s' := by
  have hroot : d.parent? h = none := by rw [hr.parent?, if_neg (by simp), if_pos rfl]
  have hleft : ∀ k, s'.document.contains k = true → ¬ d.Within h k := fun k hk =>
    (hpruned.contains_iff.mp hk).2
  have hlookups := fun k hk => Document.lookups_congr (hpruned.kept k (hleft k hk))
  refine ⟨?_, ?_, ?_, ?_, ?_⟩
  · intro k _ hk
    exact (hlookups k hk).1.trans (hr.kind? k)
  · intro k _ hk
    exact (hlookups k hk).2.1.trans (hr.name k)
  · intro k _ hk hne
    exact (hr.kept hne).trans (hpruned.kept' hd.toLinked hroot (hleft k hk))
  · rintro p rfl k hk -
    obtain ⟨hmem, he⟩ := Document.mem_elements.mp hk
    have hp := Document.contains_of_mem_inside (Document.mem_inside.mpr (Or.inr hmem))
    rw [(hlookups p hp).2.2.2.2] at hmem
    rcases (hr.mem_children k).mp hmem with ⟨hgiven, -⟩ | ⟨hold, -⟩
    · simp at hgiven
    · refine Document.mem_elements.mpr ⟨hold, ?_⟩
      rw [← Document.isElement_congr (hr.kind? k),
        ← Document.isElement_congr (hlookups k (Document.contains_of_isElement he)).1]
      exact he
  · intro k hc he
    have hlive := (hpruned.contains_iff.mp (Document.contains_of_isElement he)).1
    rw [Document.contains_congr (hr.kind? k), hc] at hlive
    simp at hlive

/-- Every node inside an element can be removed. -/
theorem removed_of_parentElement (hs : s.Tidy) (hpe : s.parentElement? h = some parent) :
    ∃ s', s.removeNode h = (s', .ok ()) ∧ Removed s s' parent h := by
  obtain ⟨hp, he⟩ := parent?_of_parentElement? hpe
  obtain ⟨d, s', -, hr, hchildren, hrem, hpruned, hdrift⟩ := removeNode_of_parentElement hs hpe
  have horder : d.Orderly := by
    refine hr.orderly hs.orderly (by intro x hx; simp at hx) ?_
    intro x hx
    obtain rfl := Option.some.inj hx
    exact hp
  -- the parent came before the node, so it is not discarded with it
  have hout : ¬ d.Within h parent := by
    intro hw
    have := hw.rank_le fun _ _ hq => horder.parent_lt hq
    have := hs.orderly.parent_lt hp
    omega
  have hlookups := Document.lookups_congr (hpruned.kept parent hout)
  refine ⟨s', hrem, ⟨he, hdrift, reshapes_of_pruned hr horder hpruned⟩, ?_, ?_⟩
  · rw [hlookups.2.2.2.2, hchildren]
  · rw [hlookups.2.2.2.1]
    intro a ha
    rcases (hr.mem_attributes a).mp ha with ⟨hgiven, -⟩ | ⟨hold, -⟩
    · simp at hgiven
    · exact hold

/-! ## Alternatives -/

/-- A sibling is a child of the same parent. -/
theorem mem_children_of_previousSibling? {d : Document} (hp : d.parent? h = some p)
    (hk : d.previousSibling? h = some k) : k ∈ d.children p := by
  unfold Document.previousSibling? at hk
  rw [hp] at hk
  split at hk
  · simp at hk
  · simp only [Option.bind_eq_bind, Option.bind_some] at hk
    obtain ⟨i, -, hi⟩ := Option.bind_eq_some_iff.mp hk
    split at hi
    · simp at hi
    · exact List.mem_of_getElem? hi

/-- Once the other element was added, the one that it is chosen for can be removed. -/
theorem exists_chooseAlternative (hs : s.Tidy) (hk : s.workspace.model.kind? c = some .element)
    (he : s.document.isElement h = true) (hpe : s.parentElement? h = some parent) : ∃ s₁ s₂,
      s.addNode c parent (s.document.previousSibling? h) = (s₁, .ok s.document.next) ∧
        s₁.parentElement? h = some parent ∧ s₁.document.isElement h = true ∧
        s₁.removeNode h = (s₂, .ok ()) ∧
        s.chooseAlternative c parent (s.document.previousSibling? h) h =
          ({ s₂ with workspace := s₂.workspace.invalidate s₂.document parent },
            .ok s.document.next) := by
  obtain ⟨hp, hep⟩ := parent?_of_parentElement? hpe
  obtain ⟨e, hc, hkind⟩ := exists_of_kind? hk
  obtain ⟨-, hraise, -⟩ := Workspace.create_of_element hs.sound hc hkind
  have hdrift := drifts_addNode hs c parent (s.document.previousSibling? h)
  obtain ⟨d, s₁, hd, hadd, hsame⟩ := exists_addNode hs hk hep fun x hx =>
    mem_children_of_previousSibling? hp hx
  obtain ⟨hr, -⟩ := Document.relinked_insertAfter hraise.sound.orderly.toLinked hd
  have hdoc : s₁.document = d := hsame.document
  have hlive := Document.contains_of_isElement he
  have hold := hraise.document.lookups hlive
  have hne : some s.document.next ≠ some h := by
    intro heq
    have hlt := Document.index_lt_of_contains hlive
    rw [← Option.some.inj heq] at hlt
    exact Nat.lt_irrefl _ hlt
  -- the element to be replaced is still in its place after the new one was added
  have hpe₁ : s₁.parentElement? h = some parent := by
    rw [parentElement?, Option.filter_eq_some_iff, hdoc]
    refine ⟨?_, ?_⟩
    · rw [hr.parent?, if_neg hne, if_neg (by simp), hold.2.2.1]
      exact hp
    · rw [Document.isElement_congr (hr.kind? parent), Document.isElement_congr
        (hraise.document.lookups (Document.contains_of_isElement hep)).1]
      exact hep
  rw [hadd] at hdrift
  obtain ⟨s₂, hrem, -⟩ := removed_of_parentElement hdrift.tidy hpe₁
  refine ⟨s₁, s₂, hadd, hpe₁, ?_, hrem, ?_⟩
  · rw [hdoc, Document.isElement_congr (hr.kind? h), Document.isElement_congr hold.1]
    exact he
  · unfold chooseAlternative
    rw [hadd]
    dsimp only
    rw [hrem]

/-- For every element inside another one an element of another constraint can be chosen, which then
stands in its place. -/
theorem chooseAlternative_of_isElement (hs : s.Tidy) (htree : s.workspace.model.TreeShaped)
    (hflat : s.workspace.model.FlatUnambiguous)
    (hk : s.workspace.model.kind? c = some .element) (he : s.document.isElement h = true)
    (hpe : s.parentElement? h = some parent) :
    ∃ new s' xs ys, s.chooseAlternative c parent (s.document.previousSibling? h) h =
      (s', .ok new) ∧ Placed s s' parent new c xs [h] ys := by
  obtain ⟨hp, hep⟩ := parent?_of_parentElement? hpe
  have hmem := (Document.mem_elements.mp (hs.linked.mem_elements_of_parent? hp he)).1
  obtain ⟨as, bs, hsplit⟩ := List.append_of_mem hmem
  have hprev := Document.previousSibling?_of_split hs.linked hsplit
    (Document.not_isAttribute_of_isElement he)
  have hdrift := drifts_chooseAlternative hs c parent (s.document.previousSibling? h) h
  obtain ⟨new, s₁, xs, ys, hadd, hplaced, hlast⟩ := addNode_of_isElement hs htree hflat hk hep
    fun x hx => mem_children_of_previousSibling? hp hx
  -- the new element stands just before the old one
  have hnd := hs.linked.nodup_children parent
  rw [hsplit] at hnd
  have heq : xs ++ ys = as ++ h :: bs := hplaced.before.symm.trans hsplit
  obtain ⟨rfl, rfl⟩ := Document.eq_of_getLast?_eq hnd heq (hlast.trans hprev)
  obtain ⟨s₁', s₂, hadd', hpe₁, -, hrem, hchoose⟩ := exists_chooseAlternative hs hk he hpe
  obtain ⟨rfl, hnew⟩ := Prod.mk.inj (hadd.symm.trans hadd')
  obtain rfl := Except.ok.inj hnew
  obtain ⟨s₂', hrem', hremoved⟩ := removed_of_parentElement hplaced.drifts.tidy hpe₁
  obtain ⟨rfl, -⟩ := Prod.mk.inj (hrem.symm.trans hrem')
  rw [hchoose] at hdrift
  exact ⟨_, _, xs, bs, hchoose, (hplaced.remove hremoved).sameSeats (sameSeats_invalidate s₂ parent)
    hdrift⟩

/-! ## Values -/

/-- Setting a value changes no element. -/
theorem reshapes_setValue (hs : s.Tidy) (h : Handle) (value : String) :
    Reshapes (fun _ => False) s (s.setValue h value).1 := by
  have hrefl : Reshapes (fun _ => False) s s := by
    refine ⟨fun _ _ _ => rfl, fun _ _ _ => rfl, fun k _ _ _ => Kept.refl _ k, ?_, ?_⟩
    · intro p hp
      exact hp.elim
    · intro k hc he
      rw [Document.contains_of_isElement he] at hc
      simp at hc
  unfold setValue
  split
  · exact hrefl
  · split
    · exact hrefl
    · dsimp only
      generalize hrename : (s.workspace.isNaming _ && decide (s.document.value h ≠ value)) = renames
      -- names are given up before the value is set, and claimed after that
      obtain ⟨s₁, hs₁⟩ : ∃ s₁, s₁ = if renames then s.giveUpName h else s := ⟨_, rfl⟩
      have hgiven : Alike s s₁ := by
        rw [hs₁]
        cases renames with
        | false => exact Alike.refl s
        | true => exact alike_giveUpName s h
      rw [← hs₁]
      split
      · exact hrefl.sameSeats hgiven.sameSeats
      · rename_i d hd
        rw [hgiven.document] at hd
        have hkind := (Document.kind?_of_setValue hs.orderly hd).2
        obtain ⟨hkept, hold⟩ := Document.kept_of_setValue hs.orderly hd
        have hset : Reshapes (fun _ => False) s { s₁ with document := d } := by
          refine ⟨?_, fun k hk _ => (hkept k hk).name, fun k hk _ _ => hkept k hk, ?_, ?_⟩
          · exact fun k hk _ => hkind k (Document.index_lt_of_contains hk)
          · intro p hp
            exact hp.elim
          · intro k hc he
            rw [Document.contains_of_isElement (hold k he)] at hc
            simp at hc
        refine hset.sameSeats (Alike.sameSeats (Alike.trans ?_ ((alike_checkRules _ _).trans
          (alike_validate _ h))))
        cases renames with
        | false => exact Alike.refl _
        | true => exact alike_claimName _ h value

end GuidedXml.Session
