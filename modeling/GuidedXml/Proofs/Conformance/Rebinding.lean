/-
# Creating and binding

An element whose nodes sit where their constraints are is bound in one way only, so that binding it
anew finds the constraints that it was created from. Where the first alternative of every choice has
to be there, what was created can be bound anew.

The main statements say that whatever is made in the course of creation lies in the subtree that is
handed out, and that this subtree can be bound, in whatever stage it was created, and each of its
nodes to the constraint that it was created from.
-/
import GuidedXml.Proofs.Conformance.Creation
import GuidedXml.Proofs.Conformance.Labels
import GuidedXml.Proofs.Editing.Building
import GuidedXml.Proofs.Editing.Region

namespace GuidedXml.Workspace

open Document (Within)
open Schema (ConstraintId ContentModel)

variable {v w : Workspace} {d : Document} {h k : Handle} {c i : ConstraintId}

/-! ## Binding anew -/

/-- The element is bound and sits where its constraint is, with attributes that the constraint
declares. -/
structure Sits (w : Workspace) (d : Document) (k : Handle) : Prop where
  seat : ∃ i, w.binding? k = some i ∧ w.SeatedAt d k i
  declares : w.Declares d k

/-- An attribute is bound to the only attribute of its name that is declared. -/
theorem binding?_bindAttributes (hnd : ((w.model.attributes c).map w.model.name).Nodup)
    (hi : i ∈ w.model.attributes c) {a : Handle} (hn : w.model.name i = d.name a) {as : List Handle}
    (ha : a ∈ as) (htrue : (w.bindAttributes d c as).2 = true) :
    (w.bindAttributes d c as).1.binding? a = some i := by
  induction as generalizing w with
  | nil => simp at ha
  | cons b as ih =>
    rw [bindAttributes] at htrue ⊢
    cases hj : w.model.attribute? c (d.name b) with
    | some j =>
      simp only [hj] at htrue ⊢
      by_cases has : a ∈ as
      · exact ih (w := w.bindNode d b j) hnd hi hn has htrue
      · obtain rfl : a = b := (List.mem_cons.mp ha).resolve_right has
        have hname : w.model.name j = d.name a := by simpa using List.find?_some hj
        obtain rfl : j = i := List.inj_on_of_nodup_map hnd (List.mem_of_find?_eq_some hj) hi
          (hname.trans hn.symm)
        rw [(rebinds_bindAttributes (w.bindNode d a j) d c as).binding? a has]
        exact (binding?_bindNode w d a a j).trans (if_pos rfl)
    | none =>
      simp only [hj] at htrue ⊢
      split_ifs at htrue ⊢
      refine ih hnd hi hn ((List.mem_cons.mp ha).resolve_left ?_) htrue
      rintro rfl
      exact List.find?_eq_none.mp hj i hi (decide_eq_true hn)

/-- Where elements sit, binding gives every element and attribute the constraint that it had. -/
theorem binding?_bindAux (hd : d.Forest) (htree : w.model.TreeShaped)
    (hflat : w.model.FlatUnambiguous) (hdist : w.model.AttributesDistinct) (fuel : Nat)
    (hm : v.model = w.model) (hsits : ∀ k, d.Within h k → d.isElement k = true → w.Sits d k)
    (hb : w.binding? h = some c) (htrue : (bindAux d fuel v h c).2 = true) (hk : d.Within h k)
    (hkind : d.isElement k = true ∨ d.isAttribute k = true) :
    (bindAux d fuel v h c).1.binding? k = w.binding? k := by
  induction fuel generalizing v h c with
  | zero => simp [bindAux] at htrue
  | succ fuel ih =>
    obtain ⟨done, hdone⟩ := bindsInside_of_bindAux hd htrue
    have hself : d.Within h h := Within.self (Document.contains_of_isElement hdone.fits.isElement)
    obtain ⟨⟨i, hi, hseat⟩, hdeclares⟩ := hsits h hself hdone.fits.isElement
    obtain rfl := Option.some.inj (hb.symm.trans hi)
    rw [hdone.eq, binding?_bindNode]
    -- a bound node is the element itself, one of its attributes or in one of its elements
    rcases hk.cases_inside hd with rfl | ⟨hne, ha | ⟨x, hx, hxk⟩ | ht⟩
    · rw [if_pos rfl, hb]
    · -- an attribute has its constraint from the element alone
      obtain ⟨i, hi, j, hj, hbj, hname⟩ := hdeclares k ha
      obtain rfl := Option.some.inj (hb.symm.trans hi)
      rw [← hm] at hdist hj hname
      rw [if_neg hne, hdone.matched.binding? k, hbj]
      · exact binding?_bindAttributes (hdist c hdone.fits.kind?) hj hname ha hdone.attributes
      · rintro ⟨y, hy, hyk⟩
        exact hd.not_within_attribute ha hy hyk
    · -- an element inside was bound to the only constraint of its name in the content
      obtain ⟨j, hj, hstill⟩ := hdone.inside x hx
      obtain ⟨w₀, hv₀, htrue₀, hsame⟩ := hstill.exists_before
      have hxw : d.Within h x := hself.step (hd.parent?_of_mem_elements hx)
      have hxe := (Document.mem_elements.mp hx).2
      obtain ⟨j', hj', hbj⟩ := hseat.inside x hx
      obtain ⟨⟨j'', hbj'', hseat'⟩, -⟩ := hsits x hxw hxe
      obtain rfl := Option.some.inj (hbj.symm.trans hbj'')
      have hname : w.model.name j = d.name x := by
        rw [← hm, ← hv₀.model]
        exact (fits_of_bindAux htrue₀).name.symm
      have hcontent := ContentModel.isContent_contentElements htree hflat hseat.kind?
      obtain rfl := hcontent.name_inj (hm ▸ hj) hj' (hname.trans hseat'.name)
      rw [if_neg hne, hsame k hxk]
      exact ih (hv₀.model.trans hm) (fun y hy => hsits y (hxw.trans hy)) hbj htrue₀ hxk
    · rcases hkind with he | ha
      · rw [Document.not_isElement_of_isText ht] at he
        simp at he
      · rw [Document.not_isAttribute_of_isText ht] at ha
        simp at ha

/-- Where elements sit, attributes are bound as well. -/
theorem exists_binding?_of_sits (hd : d.Forest)
    (hsits : ∀ k, d.Within h k → d.isElement k = true → w.Sits d k) (hh : d.isElement h = true)
    (hk : d.Within h k) (hkind : d.isElement k = true ∨ d.isAttribute k = true) :
    ∃ i, w.binding? k = some i := by
  rcases hkind with he | ha
  · obtain ⟨i, hi, -⟩ := (hsits k hk he).seat
    exact ⟨i, hi⟩
  · cases hk with
    | self _ =>
      rw [Document.not_isAttribute_of_isElement hh] at ha
      simp at ha
    | @step p k hp hpar =>
      have hmem : k ∈ d.attributes p :=
        (Document.mem_inside.mp (hd.mem_of_parent? hpar)).resolve_right fun hc => by
          rw [hd.not_isAttribute_of_mem_children hc] at ha
          simp at ha
      obtain ⟨i, -, j, -, hj, -⟩ := (hsits p hp (hd.kinds_of_attribute hmem).2).declares k hmem
      exact ⟨j, hj⟩

/-! ## Binding what was created -/

/-- What was created in a sound stage can be bound anew, and each of its nodes to the constraint that
it was created from. -/
theorem bind_of_sound (hs : Sound (w, d)) (htree : w.model.TreeShaped)
    (hflat : w.model.FlatUnambiguous) (hfirm : w.model.FirmChoices)
    (hdist : w.model.AttributesDistinct) (hc : w.model.kind? c = some .element)
    (ho : (w.model.occurs c).contains 1 = true) (hv : v.model = w.model)
    (hwhite : v.whitelist = w.whitelist) :
    (v.bind (w.create d c).1.2 d.next c).2 = true ∧
      ∀ k, (w.create d c).1.2.Within d.next k →
        (w.create d c).1.2.isElement k = true ∨ (w.create d c).1.2.isAttribute k = true →
        ∃ i, (w.create d c).1.1.binding? k = some i ∧
          (v.bind (w.create d c).1.2 d.next c).1.binding? k = some i := by
  obtain ⟨e, he, hkind⟩ := Option.map_eq_some_iff.mp hc
  obtain ⟨-, hraise, hbind⟩ := create_of_element hs he hkind
  have hgood := fun k hn => good_of_create htree hflat
    (ContentModel.covers_of_firmChoices hfirm .lenient) hs c (k := k) hn
  have hdeclares : ∀ k, d.slots.size ≤ k.index →
      (w.create d c).1.1.Declares (w.create d c).1.2 k :=
    (furnished_create htree (fun _ : True => hdist) hs c).declares
  -- from here on it only matters what was created, not how
  generalize w.create d c = r at hraise hbind hgood hdeclares ⊢
  have hd : r.1.2.Forest := hraise.sound.orderly.forest
  have hmodel : r.1.1.model = w.model := hraise.workspace.model
  have hself : r.1.2.Within d.next d.next := Within.self hraise.contains
  have hnew : ∀ k, r.1.2.Within d.next k → d.slots.size ≤ k.index := fun k hk =>
    le_index_of_within hraise.sound.orderly (Nat.le_refl _) hk
  have hsits : ∀ k, r.1.2.Within d.next k → r.1.2.isElement k = true → r.1.1.Sits r.1.2 k := by
    intro k hk hel
    obtain ⟨i, hi, hseat, -⟩ := hgood k (hnew k hk) hel
    exact ⟨⟨i, hi, hseat⟩, hdeclares k (hnew k hk)⟩
  have hconforms : r.1.2.Conforms .lenient r.1.1.model r.1.1.whitelist d.next c := by
    refine conforms_of_good hd (hmodel ▸ htree) (hmodel ▸ hflat)
      (P := fun k => r.1.2.Within d.next k ∧ r.1.2.isElement k = true)
      (fun k hk => hgood k (hnew k hk.1) hk.2) ?_ ⟨hself, hraise.isElement⟩ hbind
    rintro k ⟨hk, -⟩ x hx
    exact ⟨hk.step (hd.parent?_of_mem_elements hx), (Document.mem_elements.mp hx).2⟩
  -- what was created conforms, and what conforms is bound
  have hbound : (v.bind r.1.2 d.next c).2 = true := by
    rw [bind_iff hd (hv ▸ htree) (hv ▸ hflat)]
    refine ⟨⟨hv ▸ hc, hraise.isElement, ?_, ?_⟩, ?_⟩
    · rw [hraise.named, hv, ContentModel.name, he]
      rfl
    · rw [Document.runLength, hraise.parent?, hv]
      exact ho
    · rw [hv, hwhite, ← hmodel, ← hraise.workspace.whitelist]
      exact hconforms
  refine ⟨hbound, fun k hk hkind => ?_⟩
  obtain ⟨haux, heq⟩ := bind_eq_bindAux hbound
  obtain ⟨i, hi⟩ := exists_binding?_of_sits hd hsits hraise.isElement hk hkind
  refine ⟨i, hi, ?_⟩
  rw [heq, ← hi]
  exact binding?_bindAux hd (hmodel ▸ htree) (hmodel ▸ hflat) (hmodel ▸ hdist) _
    (hv.trans hmodel.symm) hsits hbind haux hk hkind

/-- All nodes that are made in a sound stage lie below the element that is handed out. -/
theorem within_of_sound (hs : Sound (w, d)) (htree : w.model.TreeShaped)
    (hdist : w.model.AttributesDistinct) (hc : w.model.kind? c = some .element)
    (hk : d.slots.size ≤ k.index) (hlive : (w.create d c).1.2.contains k = true) :
    (w.create d c).1.2.Within d.next k := by
  obtain ⟨e, he, hkind⟩ := Option.map_eq_some_iff.mp hc
  obtain ⟨hnext, hraise, -⟩ := create_of_element hs he hkind
  have hrooted := (furnished_create htree (fun _ : True => hdist) hs c).rooted
  refine hraise.document.within_of_new hs.orderly.toLinked hraise.sound.orderly ?_ hk hlive
  intro r hr hrc hrp
  rcases hrooted r hr hrc hrp with hmem | ⟨hnot, -⟩
  · simpa [hnext] using hmem
  · exact absurd trivial hnot

/-! ## Creation in any stage -/

/-- A new workspace and a document of so many slots with no node but its own. -/
def blank (m : ContentModel) (whitelist : List String) (size : Nat) : Stage :=
  ({ model := m, whitelist }, Document.vacant size)

theorem sound_blank (m : ContentModel) (whitelist : List String) (size : Nat) :
    Sound (blank m whitelist size) where
  orderly := Document.orderly_vacant size
  contains_of_bound := by
    intro k c hb
    have hnone : (blank m whitelist size).1.binding? k = none := rfl
    rw [hnone] at hb
    simp at hb

/-- In any stage, creation goes on as it would if nothing were there yet. -/
theorem echoes_blank (hd : 0 < d.slots.size) (whitelist : List String) :
    Echoes d.slots.size (blank w.model whitelist d.slots.size) (w, d) where
  model := rfl
  region := by
    have hsize : (Document.vacant d.slots.size).slots.size = d.slots.size :=
      Document.size_vacant hd
    have hregion := Document.sameRegion_of_size hsize.symm
    rwa [hsize] at hregion
  bound := by
    intro k c hb
    have hnone : (blank w.model whitelist d.slots.size).1.binding? k = none := rfl
    rw [hnone] at hb
    simp at hb

/-- Whatever the workspace and the document are, all nodes that are made lie in the subtree that is
handed out, where no element declares an attribute name twice. So none of the edits on the way was
refused. -/
theorem mem_subtree_of_create (hm : w.model.Built) (hdist : w.model.AttributesDistinct)
    (hd : 0 < d.slots.size) (hc : w.model.kind? c = some .element)
    (hh : (w.create d c).2 = some h) (hk : d.slots.size ≤ k.index)
    (hlive : (w.create d c).1.2.contains k = true) : k ∈ (w.create d c).1.2.subtree h := by
  have hblank := sound_blank w.model [] d.slots.size
  obtain ⟨hecho, hhandle⟩ := echoes_create (echoes_blank (w := w) hd []) c
  obtain ⟨e, he, hkind⟩ := Option.map_eq_some_iff.mp hc
  obtain ⟨hnext, hraise, -⟩ := create_of_element hblank he hkind
  have hsize := Document.size_vacant hd
  rw [hh, hnext] at hhandle
  obtain rfl := Option.some.inj hhandle
  have hle : d.slots.size ≤ (Document.vacant d.slots.size).next.index := Nat.le_of_eq hsize.symm
  rw [hecho.region.subtree hle, Document.mem_subtree_iff hraise.sound.orderly.forest]
  refine within_of_sound hblank hm.treeShaped hdist hc (hsize.symm ▸ hk) ?_
  rwa [Document.contains_congr (hecho.region.lookups hk).1] at hlive

/-- Under a content model in which the first alternative of every choice has to be there, whatever
the workspace and the document are (every document that can be made has slots): for an element that
may stand alone an element without a parent is created, with all that is made on the way below it, a
new workspace can bind it to the constraint again, and it binds every element and attribute of it to
the constraint that it was created from. -/
theorem bind_create (hm : w.model.Built) (hf : w.model.FlatUnambiguous)
    (hfirm : w.model.FirmChoices) (hdist : w.model.AttributesDistinct)
    (hd : 0 < d.slots.size) (hc : w.model.kind? c = some .element)
    (ho : (w.model.occurs c).contains 1 = true) (whitelist : List String) :
    ∃ h, (w.create d c).2 = some h ∧ (w.create d c).1.2.isElement h = true ∧
      (w.create d c).1.2.parent? h = none ∧
      (∀ k, d.slots.size ≤ k.index → (w.create d c).1.2.contains k = true →
        k ∈ (w.create d c).1.2.subtree h) ∧
      (w.create d c).1.1.binding? h = some c ∧
      (({ model := w.model, whitelist } : Workspace).bind (w.create d c).1.2 h c).2 = true ∧
      ∀ k ∈ (w.create d c).1.2.subtree h,
        (w.create d c).1.2.isElement k = true ∨ (w.create d c).1.2.isAttribute k = true →
        ∃ i, (w.create d c).1.1.binding? k = some i ∧
          (({ model := w.model, whitelist } : Workspace).bind
            (w.create d c).1.2 h c).1.binding? k = some i := by
  have hblank := sound_blank w.model whitelist d.slots.size
  obtain ⟨hecho, hhandle⟩ := echoes_create (echoes_blank (w := w) hd whitelist) c
  obtain ⟨e, he, hkind⟩ := Option.map_eq_some_iff.mp hc
  obtain ⟨hnext, hraise, hbind⟩ := create_of_element hblank he hkind
  obtain ⟨hbound, hall⟩ := bind_of_sound hblank hm.treeShaped hf hfirm hdist hc ho
    (v := { model := w.model, whitelist }) rfl rfl
  have hsize := Document.size_vacant hd
  have hle : d.slots.size ≤ (Document.vacant d.slots.size).next.index := Nat.le_of_eq hsize.symm
  -- what is seen of the element and what is below it is seen in the blank document as well
  have hsame := hecho.region.lookups hle
  have hmade := hhandle.trans hnext
  refine ⟨_, hmade, ?_, ?_, fun _ => mem_subtree_of_create hm hdist hd hc hmade,
    hecho.bound _ _ hbind, ?_, ?_⟩
  · rw [Document.isElement_congr hsame.1, hraise.isElement]
  · rw [hsame.2.2.1, hraise.parent?]
  · rw [bind_region hecho.region _ hle, hbound]
  · intro k hk hkinds
    rw [hecho.region.subtree hle] at hk
    have hsamek := hecho.region.lookups (hecho.region.subtree_le hle hk)
    rw [Document.isElement_congr hsamek.1, Document.isAttribute_congr hsamek.1] at hkinds
    obtain ⟨i, hi, hb⟩ :=
      hall k ((Document.mem_subtree_iff hraise.sound.orderly.forest).mp hk) hkinds
    refine ⟨i, hecho.bound k i hi, ?_⟩
    rw [bind_region hecho.region _ hle, hb]

/-- A content model for parcels with a weight, some items, and a choice between two ways to send
them. -/
def parcel : ContentModel :=
  let m := (ContentModel.ofRoot (.ofElement "parcel" .once)).add ContentModel.root
    (.ofAttribute "weight" .required)
  let m := m.1.add ContentModel.root { kind := .sequence }
  let m := m.1.add ⟨2⟩ (.ofElement "item" ⟨2, some 3⟩)
  let m := m.1.add ⟨2⟩ { kind := .choice }
  let m := m.1.add ⟨4⟩ (.ofElement "mail" .once)
  (m.1.add ⟨4⟩ (.ofElement "courier" .once)).1

theorem built_parcel : parcel.Built := by
  refine .add (.add (.add (.add (.add (.add (.ofRoot rfl) ?_) ?_) ?_) ?_) ?_) ?_ <;> decide

/-- A workspace for parcels that knows of a node which is not there yet. -/
def strayParcels : Workspace where
  model := parcel
  bindings := ({} : Table Handle ConstraintId).insert ⟨5⟩ ⟨6⟩

/-- A parcel that is created beside a basket can be bound, with its weight and both items. -/
theorem bind_create_parcel :
    (strayParcels.create notedBasket ContentModel.root).2 = some ⟨3⟩ ∧
    (({ model := parcel, whitelist := ["weight"] } : Workspace).bind
      (strayParcels.create notedBasket ContentModel.root).1.2 ⟨3⟩ ContentModel.root).2 = true ∧
    ∃ i, (strayParcels.create notedBasket ContentModel.root).1.1.binding? ⟨7⟩ = some i ∧
      (({ model := parcel, whitelist := ["weight"] } : Workspace).bind
        (strayParcels.create notedBasket ContentModel.root).1.2 ⟨3⟩
          ContentModel.root).1.binding? ⟨7⟩ = some i := by
  obtain ⟨h, hh, -, -, -, -, hbound, hall⟩ := bind_create (w := strayParcels) (d := notedBasket)
    built_parcel (by decide) (by decide) (by decide) (by decide) (c := ContentModel.root) rfl
    (by decide) ["weight"]
  have hthree : (strayParcels.create notedBasket ContentModel.root).2 = some ⟨3⟩ := by
    decide +kernel
  obtain rfl := Option.some.inj (hh.symm.trans hthree)
  exact ⟨hthree, hbound, hall ⟨7⟩ (by decide +kernel) (Or.inr (by decide +kernel))⟩

end GuidedXml.Workspace
