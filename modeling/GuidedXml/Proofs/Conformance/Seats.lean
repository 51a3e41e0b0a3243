/-
# Seats

A bound element sits where its constraint is: it has the name of the constraint, and the elements
inside it are bound to elements of the content. An element that also fills its content is a good one.

The main statements say that a seat does not change with what is elsewhere, and that an element
conforms if it and all elements below it are good.
-/
import GuidedXml.Proofs.Conformance.Filling
import GuidedXml.Proofs.Document.Region
import GuidedXml.Proofs.Document.Subtree
import GuidedXml.Proofs.Editing.Creation

namespace GuidedXml

open Schema (ConstraintId ContentModel)
open Schema.ContentModel (Excuse)

/-! ## Elements that are as they were -/

namespace Document

variable {d d' d'' : Document} {h k p : Handle}

/-- The node has the same name, the same elements inside it and no other attributes, and these have
the same names. -/
structure Kept (d d' : Document) (h : Handle) : Prop where
  name : d'.name h = d.name h
  elements : d'.elements h = d.elements h
  attributes : ∀ a ∈ d'.attributes h, a ∈ d.attributes h
  name_of_mem : ∀ k, k ∈ d'.elements h ∨ k ∈ d'.attributes h → d'.name k = d.name k

/-- The elements of a node are inside of it. -/
theorem elements_subset_inside (hk : k ∈ d.elements h) : k ∈ d.inside h :=
  mem_inside.mpr (Or.inr (mem_elements.mp hk).1)

theorem Kept.refl (d : Document) (h : Handle) : Kept d d h :=
  ⟨rfl, rfl, fun _ ha => ha, fun _ _ => rfl⟩

theorem Kept.trans (h₁ : Kept d d' h) (h₂ : Kept d' d'' h) : Kept d d'' h where
  name := h₂.name.trans h₁.name
  elements := h₂.elements.trans h₁.elements
  attributes := fun a ha => h₁.attributes a (h₂.attributes a ha)
  name_of_mem := by
    intro k hk
    rw [h₂.name_of_mem k hk]
    refine h₁.name_of_mem k (hk.imp ?_ (h₂.attributes k))
    rw [h₂.elements]
    exact id

/-- A node is kept where its name, its lists and what is in them are the same. -/
theorem kept_of_lists (hn : d'.name h = d.name h) (ha : d'.attributes h = d.attributes h)
    (hch : d'.children h = d.children h)
    (hsame : ∀ k ∈ d.inside h, d'.kind? k = d.kind? k ∧ d'.name k = d.name k) : Kept d d' h := by
  have helements := elements_congr hch fun k hk => (hsame k (mem_inside.mpr (Or.inr hk))).1
  refine ⟨hn, helements, fun a h => ha ▸ h, ?_⟩
  rintro k (hk | hk)
  · rw [helements] at hk
    exact (hsame k (elements_subset_inside hk)).2
  · rw [ha] at hk
    exact (hsame k (mem_inside.mpr (Or.inl hk))).2

/-- Extending a document keeps its nodes. -/
theorem Extends.kept (he : Extends d d') (hd : d.Linked) (hc : d.contains h = true) :
    Kept d d' h := by
  obtain ⟨-, hn, -, ha, hch⟩ := he.lookups hc
  have hsame : ∀ k ∈ d.inside h, d'.kind? k = d.kind? k ∧ d'.name k = d.name k := by
    intro k hk
    have := he.lookups (hd.contains_of_mem hk)
    exact ⟨this.1, this.2.1⟩
  exact kept_of_lists hn ha hch hsame

/-- Relinking keeps all nodes but the parent. -/
theorem Relinked.kept {taken given : Option Handle} (hr : Relinked d d' p taken given)
    (hh : h ≠ p) : Kept d d' h :=
  ⟨hr.name h, elements_congr (hr.children h hh) fun k _ => hr.kind? k,
    fun _ ha => hr.attributes h hh ▸ ha, fun k _ => hr.name k⟩

/-- A change of values keeps all nodes. -/
theorem SameShape.kept (hs : SameShape d d') (h : Handle) : Kept d d' h :=
  ⟨hs.name h, hs.elements h, fun _ ha => hs.attributes h ▸ ha, fun k _ => hs.name k⟩

/-- Pruning keeps the nodes outside. -/
theorem Pruned.kept' (hr : Pruned d d' p) (hd : d.Linked) (hroot : d.parent? p = none)
    (hh : ¬ d.Within p h) : Kept d d' h := by
  obtain ⟨-, hn, -, ha, hch⟩ := lookups_congr (hr.kept h hh)
  refine kept_of_lists hn ha hch ?_
  intro k hk
  have := lookups_congr (hr.kept k (Within.not_within_of_mem hd hroot hh hk))
  exact ⟨this.1, this.2.1⟩

/-- A text among the children makes no difference to an element. -/
theorem kept_of_text (hr : Relinked d d' p none (some k)) (ht : d.isText k = true)
    (hch : ∃ xs ys, d.children p = xs ++ ys ∧ d'.children p = xs ++ k :: ys) : Kept d d' p := by
  have hkinds : d'.isElement = d.isElement := by
    funext x
    exact isElement_congr (hr.kind? x)
  refine ⟨hr.name p, ?_, ?_, fun x _ => hr.name x⟩
  · obtain ⟨xs, ys, hold, hnew⟩ := hch
    rw [elements, elements, hkinds, hold, hnew, List.filter_append, List.filter_append,
      List.filter_cons, not_isElement_of_isText ht]
    rfl
  · intro a ha
    rcases (hr.mem_attributes a).mp ha with ⟨hg, hattr⟩ | ⟨hold, -⟩
    · obtain rfl := Option.some.inj hg
      rw [not_isAttribute_of_isText ht] at hattr
      simp at hattr
    · exact hold

/-- Setting a value leaves all elements as they were, and adds none. -/
theorem kept_of_setValue {value : String} (hd : d.Orderly) (hs : d.setValue h value = .ok d') :
    (∀ k, d.contains k = true → Kept d d' k) ∧
      ∀ k, d'.isElement k = true → d.isElement k = true := by
  rcases setValue_cases hs with ⟨y, -, rfl⟩ | ⟨he, ha⟩
  · have hshape := sameShape_revalue d y value
    refine ⟨fun k _ => hshape.kept k, ?_⟩
    intro k hk
    rwa [isElement_congr (hshape.kind? k)] at hk
  · have hext := extends_push d { kind := .text, value := value }
    obtain ⟨hr, -, hch⟩ := relinked_addText hd (contains_of_isElement he) ha
    have hkind : (d.createText value).1.kind? d.next = some .text := by
      simp [kind?, createText, node?_push]
    have htext : (d.createText value).1.isText d.next = true := decide_eq_true hkind
    have hgrown : ∀ k, d.contains k = true → Kept d (d.createText value).1 k := fun k hk =>
      hext.kept hd.toLinked hk
    refine ⟨?_, ?_⟩
    · intro k hk
      refine (hgrown k hk).trans ?_
      by_cases hkh : k = h
      · subst hkh
        refine kept_of_text hr htext ⟨(d.createText value).1.children k, [], by simp, ?_⟩
        rw [hch, ← (hext.lookups hk).2.2.2.2]
        rfl
      · exact hr.kept hkh
    · intro k hk
      rw [isElement_congr (hr.kind? k)] at hk
      by_cases hkn : k = d.next
      · rw [hkn, not_isElement_of_isText htext] at hk
        simp at hk
      · have hsame : (d.createText value).1.node? k = d.node? k :=
          (node?_push d _ k).trans (if_neg hkn)
        rwa [isElement_congr (lookups_congr hsame).1] at hk

/-- Documents that share a region have kept what is in it. -/
theorem SameRegion.kept {n : Nat} (hr : SameRegion n d d') (hh : n ≤ h.index) : Kept d d' h := by
  have hsame := hr.lookups hh
  refine kept_of_lists hsame.2.1 hsame.2.2.2.1 hsame.2.2.2.2 fun k hk => ?_
  have hsamek := hr.lookups (hr.inside_le hh hk)
  exact ⟨hsamek.1, hsamek.2.1⟩

/-- What conforms depends on the elements alone that are met on the way down. -/
theorem Suits.kept {x : Excuse} {m : ContentModel} {whitelist : List String} {i : ConstraintId}
    (hs : d.Suits x m whitelist h i) (hk : Kept d d' h) : d'.Suits x m whitelist h i where
  attributes := by
    intro a ha
    rw [hk.name_of_mem a (Or.inr ha)]
    exact hs.attributes a (hk.attributes a ha)
  content := by
    rw [List.map_congr_left fun k hk' => hk.name_of_mem k (Or.inl hk'), hk.elements]
    exact hs.content

/-- An element conforms as well in every document that shares its region. -/
theorem Conforms.region {x : Excuse} {m : ContentModel} {whitelist : List String}
    {c : ConstraintId} {n : Nat} (hc : d.Conforms x m whitelist h c) (hr : SameRegion n d d')
    (hh : n ≤ h.index) : d'.Conforms x m whitelist h c := by
  induction hc with
  | intro hsuits _ ih =>
    have hkept := hr.kept hh
    refine .intro (hsuits.kept hkept) ?_
    intro k hk i hi hn
    rw [hkept.name_of_mem k (Or.inl hk)] at hn
    rw [hkept.elements] at hk
    exact ih k hk i hi hn (hr.elements_le hh hk)

end Document

/-! ## Seats -/

namespace Workspace

variable {x : Excuse} {w w' : Workspace} {d d' : Document} {h k : Handle} {i j : ConstraintId}

/-- The element has the name of the constraint, and the elements inside it are bound to elements of
the content. -/
structure SeatedAt (w : Workspace) (d : Document) (h : Handle) (i : ConstraintId) : Prop where
  kind? : w.model.kind? i = some .element
  name : d.name h = w.model.name i
  inside : ∀ k ∈ d.elements h, ∃ j ∈ w.model.contentElements i, w.binding? k = some j

/-- Every bound element sits where its constraint is. -/
def Seated (w : Workspace) (d : Document) : Prop :=
  ∀ h i, w.binding? h = some i → d.isElement h = true → w.SeatedAt d h i

/-- The element is bound, sits where its constraint is, and is as the constraint says, apart from
choices that are excused. -/
def IsGood (w : Workspace) (x : Excuse) (d : Document) (h : Handle) : Prop :=
  ∃ i, w.binding? h = some i ∧ w.SeatedAt d h i ∧ d.Suits x w.model w.whitelist h i

/-- An element that is kept is still seated if its elements are bound as before. -/
theorem SeatedAt.kept (hs : w.SeatedAt d h i) (hk : d.Kept d' h) (hm : w'.model = w.model)
    (hb : ∀ k ∈ d.elements h, w'.binding? k = w.binding? k) : w'.SeatedAt d' h i where
  kind? := by rw [hm, hs.kind?]
  name := by rw [hm, hk.name, hs.name]
  inside := by
    intro k hk'
    rw [hk.elements] at hk'
    rw [hm, hb k hk']
    exact hs.inside k hk'

/-- An element that is kept is as good as before if it and its elements are bound as before. -/
theorem IsGood.kept (hg : w.IsGood x d h) (hk : d.Kept d' h) (hm : w'.model = w.model)
    (hwl : w'.whitelist = w.whitelist) (hself : w'.binding? h = w.binding? h)
    (hb : ∀ k ∈ d.elements h, w'.binding? k = w.binding? k) : w'.IsGood x d' h := by
  obtain ⟨i, hi, hseat, hsuits⟩ := hg
  refine ⟨i, hself.trans hi, hseat.kept hk hm hb, ?_⟩
  rw [hm, hwl]
  exact hsuits.kept hk

/-- A good element stays good while other nodes are added. -/
theorem IsGood.grows {s s' : Stage} (hg : s.1.IsGood x s.2 h) (hgrow : Grows s s')
    (hc : s.2.contains h = true) (hd : s.2.Linked) : s'.1.IsGood x s'.2 h := by
  have hold : ∀ k, s.2.contains k = true → s'.1.binding? k = s.1.binding? k := by
    intro k hk
    have := Document.index_lt_of_contains hk
    exact hgrow.workspace.binding? k (by omega)
  refine hg.kept (hgrow.document.kept hd hc) hgrow.workspace.model hgrow.workspace.whitelist
    (hold h hc) ?_
  intro k hk
  exact hold k (hd.contains_of_mem (Document.elements_subset_inside hk))

/-- Elements conform if they and all elements below them are good. -/
theorem conforms_of_good (hd : d.Forest) (htree : w.model.TreeShaped)
    (hflat : w.model.FlatUnambiguous) {P : Handle → Prop} (hgood : ∀ h, P h → w.IsGood x d h)
    (hdown : ∀ h, P h → ∀ k ∈ d.elements h, P k) (hP : P h) (hi : w.binding? h = some i) :
    d.Conforms x w.model w.whitelist h i := by
  obtain ⟨height, hlt, -⟩ := hd.exists_height
  suffices hn : ∀ (n : Nat) (h : Handle) (i : ConstraintId), height h < n → P h →
      w.binding? h = some i → d.Conforms x w.model w.whitelist h i by
    exact hn _ h i (Nat.lt_succ_self _) hP hi
  intro n
  induction n with
  | zero =>
    intro h i hn
    omega
  | succ n ih =>
    intro h i hn hP hi
    obtain ⟨i', hi', hseat, hsuits⟩ := hgood h hP
    obtain rfl := Option.some.inj (hi.symm.trans hi')
    refine ⟨hsuits, ?_⟩
    intro k hk j hj hname
    have hPk := hdown h hP k hk
    obtain ⟨j', hj', hseat', -⟩ := hgood k hPk
    obtain ⟨j'', hj'', hb⟩ := hseat.inside k hk
    obtain rfl := Option.some.inj (hj'.symm.trans hb)
    have hcontent := Schema.ContentModel.isContent_contentElements htree hflat hseat.kind?
    obtain rfl := hcontent.name_inj hj hj'' (hname.trans hseat'.name)
    have := hlt k h (hd.parent?_of_mem_elements hk)
    exact ih k j (by omega) hPk hj'

end Workspace

end GuidedXml
