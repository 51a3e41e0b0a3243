/-
# Labels of nodes

The constraint that a node is bound to labels it: an element has the name of an element constraint,
and an attribute that is not whitelisted that of an attribute constraint.

The main statements say that creation labels all nodes that it makes, binds attributes to what the
constraint of their element declares, and leaves none of the nodes without a parent but those it
hands out, and that binding an element labels all nodes below it.
-/
import GuidedXml.Proofs.Conformance.Seating
import GuidedXml.Proofs.Document.Attachment
import GuidedXml.Proofs.Document.Replacement

namespace GuidedXml

open Schema (ConstraintId ContentModel)

namespace Workspace

open Document (Within)

variable {strict : Prop} {m : ContentModel} {s t t' : Stage} {w w' : Workspace} {d d' : Document}
  {h k x : Handle} {name : String} {c : ConstraintId} {hs : List Handle} {attrs : List ConstraintId}

/-! ## Labels -/

/-- An element is bound to an element constraint of its name, and an attribute is whitelisted or
bound to an attribute constraint of its name. -/
structure Labelled (w : Workspace) (d : Document) (k : Handle) : Prop where
  element : d.isElement k = true → ∃ c, w.binding? k = some c ∧
    w.model.kind? c = some .element ∧ w.model.name c = d.name k
  ofAttribute : d.isAttribute k = true → w.isWhitelisted (d.name k) = true ∨
    ∃ c, w.binding? k = some c ∧ w.model.kind? c = some .attribute ∧ w.model.name c = d.name k

theorem Labelled.congr (hl : Labelled w d k) (hm : w'.model = w.model)
    (hw : w'.whitelist = w.whitelist) (hk : d'.kind? k = d.kind? k) (hn : d'.name k = d.name k)
    (hb : w'.binding? k = w.binding? k) : Labelled w' d' k where
  element := by
    rw [Document.isElement_congr hk, hm, hn, hb]
    exact hl.element
  ofAttribute := by
    rw [Document.isAttribute_congr hk, isWhitelisted, hw, hm, hn, hb]
    exact hl.ofAttribute

/-- Nodes that are neither elements nor attributes need no label. -/
theorem labelled_of_kind (he : d.isElement k = false) (ha : d.isAttribute k = false) :
    Labelled w d k := by
  refine ⟨fun h => ?_, fun h => ?_⟩
  · rw [he] at h
    simp at h
  · rw [ha] at h
    simp at h

theorem labelled_of_not_contains (hc : d.contains k = false) : Labelled w d k := by
  have hnone : d.kind? k = none := by
    rw [Document.contains_eq_isSome_kind?] at hc
    simpa using hc
  exact labelled_of_kind (by simp [Document.isElement, hnone])
    (by simp [Document.isAttribute, hnone])

/-- What was labelled stays so while other nodes are made. -/
theorem Labelled.grows (hl : Labelled s.1 s.2 k) (hg : Grows s t)
    (hk : k.index < s.2.slots.size) : Labelled t.1 t.2 k := by
  have hsame := Document.lookups_congr (hg.document.node? k hk)
  exact hl.congr hg.workspace.model hg.workspace.whitelist hsame.1 hsame.2.1
    (hg.workspace.binding? k (by omega))

/-- The attributes of the element are bound to attributes of their names that its constraint
declares. -/
def Declares (w : Workspace) (d : Document) (k : Handle) : Prop :=
  ∀ a ∈ d.attributes k, ∃ i, w.binding? k = some i ∧
    ∃ j ∈ w.model.attributes i, w.binding? a = some j ∧ w.model.name j = d.name a

theorem Declares.congr (hd : Declares w d k) (hm : w'.model = w.model)
    (ha : ∀ a ∈ d'.attributes k, a ∈ d.attributes k ∧ d'.name a = d.name a)
    (hk : w'.binding? k = w.binding? k)
    (hb : ∀ a ∈ d.attributes k, w'.binding? a = w.binding? a) : Declares w' d' k := by
  intro a hmem
  obtain ⟨hold, hn⟩ := ha a hmem
  rw [hm, hk, hb a hold, hn]
  exact hd a hold

theorem declares_of_not_contains (hc : d.contains k = false) : Declares w d k := by
  intro a ha
  rw [Document.contains_of_mem_inside (Document.mem_inside.mpr (Or.inl ha))] at hc
  simp at hc

/-- What was declared stays so while other nodes are made. -/
theorem Declares.grows (hd : Declares s.1 s.2 k) (hg : Grows s t) (hs : s.2.Linked)
    (hk : k.index < s.2.slots.size) : Declares t.1 t.2 k := by
  have hsame := (Document.lookups_congr (hg.document.node? k hk)).2.2.2.1
  have hlive : ∀ a ∈ s.2.attributes k, s.2.contains a = true := fun a ha =>
    hs.contains_of_mem (Document.mem_inside.mpr (Or.inl ha))
  refine hd.congr hg.workspace.model (fun a ha => ?_) (hg.workspace.binding? k (by omega))
    fun a ha => ?_
  · rw [hsame] at ha
    exact ⟨ha, (hg.document.lookups (hlive a ha)).2.1⟩
  · have := Document.index_lt_of_contains (hlive a ha)
    exact hg.workspace.binding? a (by omega)

/-! ## Furnishing an element -/

/-- What was made since the stage `s`: the nodes handed out, and below them nodes that are labelled
and whose attributes are declared. Only attributes that lost their place belong to no parent beside
them, and if `strict` none do. -/
structure Furnished (strict : Prop) (s : Stage) (r : Stage × List Handle) : Prop where
  grows : Grows s r.1
  loose : ∀ h ∈ r.2, Loose s.2 r.1.2 h
  nodup : r.2.Nodup
  rooted : ∀ k, s.2.slots.size ≤ k.index → r.1.2.contains k = true → r.1.2.parent? k = none →
    k ∈ r.2 ∨ (¬ strict ∧ r.1.2.isAttribute k = true)
  labelled : ∀ k, s.2.slots.size ≤ k.index → Labelled r.1.1 r.1.2 k
  declares : ∀ k, s.2.slots.size ≤ k.index → Declares r.1.1 r.1.2 k

/-- The element `h` is being furnished and not bound yet. The nodes `hs` wait for their places, and
the attributes that it has so far are bound to `attrs` and have their names. -/
structure Furnishing (strict : Prop) (s : Stage) (h : Handle) (name : String) (hs : List Handle)
    (attrs : List ConstraintId) (t : Stage) : Prop extends Raises s h name t where
  rooted : ∀ k, s.2.slots.size ≤ k.index → t.2.contains k = true → t.2.parent? k = none →
    k = h ∨ k ∈ hs ∨ (¬ strict ∧ t.2.isAttribute k = true)
  labelled : ∀ k, s.2.slots.size ≤ k.index → k ≠ h → Labelled t.1 t.2 k
  declares : ∀ k, s.2.slots.size ≤ k.index → k ≠ h → Declares t.1 t.2 k
  declared : ∀ a ∈ t.2.attributes h,
    ∃ i ∈ attrs, t.1.binding? a = some i ∧ t.1.model.name i = t.2.name a

theorem furnished_nothing (hs : Sound s) : Furnished strict s (s, []) where
  grows := Grows.refl hs
  loose := by simp
  nodup := List.nodup_nil
  rooted := by
    intro k hn hc
    have := hn.trans_lt (Document.index_lt_of_contains hc)
    exact absurd this (Nat.lt_irrefl _)
  labelled := fun _ hn => labelled_of_not_contains (Document.contains_eq_false_of_le hn)
  declares := fun _ hn => declares_of_not_contains (Document.contains_eq_false_of_le hn)

/-- What is made later is handed out behind what was made before. -/
theorem Furnished.trans {r r' : Stage × List Handle} (h₁ : Furnished strict s r)
    (h₂ : Furnished strict r.1 r') : Furnished strict s (r'.1, r.2 ++ r'.2) where
  grows := h₁.grows.trans h₂.grows
  loose := by
    intro h hh
    rcases List.mem_append.mp hh with hh | hh
    · exact (h₁.loose h hh).grows h₂.grows
    · exact (h₂.loose h hh).of_grows h₁.grows
  nodup := by
    refine List.nodup_append.mpr ⟨h₁.nodup, h₂.nodup, ?_⟩
    rintro a ha _ hb rfl
    have hlt := Document.index_lt_of_contains (h₁.loose a ha).contains
    have hle := (h₂.loose a hb).new
    omega
  rooted := by
    intro k hn hc hp
    by_cases hnew : r.1.2.slots.size ≤ k.index
    · exact (h₂.rooted k hnew hc hp).imp_left fun hk => List.mem_append_right _ hk
    · have hsame := Document.lookups_congr (h₂.grows.document.node? k (by omega))
      rw [Document.contains_congr hsame.1] at hc
      rw [hsame.2.2.1] at hp
      rw [Document.isAttribute_congr hsame.1]
      exact (h₁.rooted k hn hc hp).imp_left fun hk => List.mem_append_left _ hk
  labelled := by
    intro k hn
    by_cases hnew : r.1.2.slots.size ≤ k.index
    · exact h₂.labelled k hnew
    · exact (h₁.labelled k hn).grows h₂.grows (by omega)
  declares := by
    intro k hn
    by_cases hnew : r.1.2.slots.size ≤ k.index
    · exact h₂.declares k hnew
    · exact (h₁.declares k hn).grows h₂.grows h₁.grows.sound.orderly.toLinked (by omega)

namespace Furnishing

/-- Nodes are made that wait for their places in the element. -/
theorem grow {r : Stage × List Handle} (hf : Furnishing strict s h name [] attrs t)
    (hr : Furnished strict t r) : Furnishing strict s h name r.2 attrs r.1 where
  toRaises := hf.toRaises.grow hr.grows
  rooted := by
    intro k hn hc hp
    by_cases hnew : t.2.slots.size ≤ k.index
    · exact Or.inr (hr.rooted k hnew hc hp)
    · have hsame := Document.lookups_congr (hr.grows.document.node? k (by omega))
      rw [Document.contains_congr hsame.1] at hc
      rw [hsame.2.2.1] at hp
      rw [Document.isAttribute_congr hsame.1]
      rcases hf.rooted k hn hc hp with hk | hk | hk
      · exact Or.inl hk
      · simp at hk
      · exact Or.inr (Or.inr hk)
  labelled := by
    intro k hn hk
    by_cases hnew : t.2.slots.size ≤ k.index
    · exact hr.labelled k hnew
    · exact (hf.labelled k hn hk).grows hr.grows (by omega)
  declares := by
    intro k hn hk
    by_cases hnew : t.2.slots.size ≤ k.index
    · exact hr.declares k hnew
    · exact (hf.declares k hn hk).grows hr.grows hf.sound.orderly.toLinked (by omega)
  declared := by
    have hlinked := hf.sound.orderly.toLinked
    have hkept := hr.grows.document.kept hlinked hf.contains
    intro a ha
    have hold := hkept.attributes a ha
    have := Document.index_lt_of_contains
      (hlinked.contains_of_mem (Document.mem_inside.mpr (Or.inl hold)))
    rw [hr.grows.workspace.model, hkept.name_of_mem a (Or.inr ha),
      hr.grows.workspace.binding? a (by omega)]
    exact hf.declared a hold

/-- One of the waiting nodes gets its place; what loses its place to it is an attribute, and is
nothing at all if `strict`. -/
theorem relink (hf : Furnishing strict s h name (x :: hs) attrs t) {taken : Option Handle}
    (hr : t.2.Relinked d h taken (some x)) (hraise : Raises s h name (t.1, d))
    (htaken : ∀ y, taken = some y → ¬ strict ∧ t.2.isAttribute y = true)
    {attrs' : List ConstraintId}
    (hdeclared : ∀ a ∈ d.attributes h,
      ∃ i ∈ attrs', t.1.binding? a = some i ∧ t.1.model.name i = t.2.name a) :
    Furnishing strict s h name hs attrs' (t.1, d) where
  toRaises := hraise
  rooted := by
    intro k hn hc hp
    replace hc : d.contains k = true := hc
    replace hp : d.parent? k = none := hp
    show k = h ∨ k ∈ hs ∨ (¬ strict ∧ d.isAttribute k = true)
    rw [Document.contains_congr (hr.kind? k)] at hc
    rw [Document.isAttribute_congr (hr.kind? k)]
    rw [hr.parent?] at hp
    split_ifs at hp with hg ht
    · exact Or.inr (Or.inr (htaken k ht))
    · rcases hf.rooted k hn hc hp with hk | hk | hk
      · exact Or.inl hk
      · rcases List.mem_cons.mp hk with rfl | hk
        · -- the node that got its place is no longer without a parent
          exact absurd rfl hg
        · exact Or.inr (Or.inl hk)
      · exact Or.inr (Or.inr hk)
  labelled := fun k hn hk => (hf.labelled k hn hk).congr rfl rfl (hr.kind? k) (hr.name k) rfl
  declares := fun k hn hk =>
    (hf.declares k hn hk).congr rfl (fun a ha => ⟨hr.attributes k hk ▸ ha, hr.name a⟩) rfl
      fun _ _ => rfl
  declared := by
    intro a ha
    obtain ⟨i, hi, hb, hn⟩ := hdeclared a ha
    exact ⟨i, hi, hb, hn.trans (hr.name a).symm⟩

theorem append (hf : Furnishing strict s h name (x :: hs) attrs t) (hx : t.2.isElement x = true)
    (hroot : t.2.parent? x = none) (hlt : h.index < x.index) :
    ∃ d, t.2.append h x = .ok d ∧ t.2.Relinked d h none (some x) ∧
      Furnishing strict s h name hs attrs (t.1, d) := by
  have hpl := hf.sound.orderly.placeable (Or.inl hf.isElement) (Or.inl hx) hroot hlt
  obtain ⟨d, hd⟩ := Document.append_of_placeable hpl
  obtain ⟨hr, -, -⟩ := Document.relinked_append hf.sound.orderly.toLinked hd
  have hraise := hf.toRaises.append hlt
  rw [hd] at hraise
  refine ⟨d, hd, hr, hf.relink hr hraise (by simp) ?_⟩
  intro a ha
  rcases (hr.mem_attributes a).mp ha with ⟨hg, hattr⟩ | ⟨hold, -⟩
  · obtain rfl := Option.some.inj hg
    rw [Document.not_isAttribute_of_isElement hx] at hattr
    simp at hattr
  · exact hf.declared a hold

/-- Elements get their places at the end one after the other. -/
theorem appendAll (hf : Furnishing strict s h name hs attrs t) (hnd : hs.Nodup)
    (hhs : ∀ x ∈ hs, t.2.isElement x = true ∧ t.2.parent? x = none ∧ h.index < x.index) :
    Furnishing strict s h name [] attrs (t.1, appendAll t.2 h hs) := by
  induction hs generalizing t with
  | nil => exact hf
  | cons x hs ih =>
    obtain ⟨hx, hroot, hlt⟩ := hhs x (List.mem_cons_self ..)
    obtain ⟨d, hd, hr, hplaced⟩ := hf.append hx hroot hlt
    rw [List.nodup_cons] at hnd
    rw [Workspace.appendAll, List.foldl_cons, hd]
    exact ih hplaced hnd.2 (hr.waiting hnd.1 fun y hy => hhs y (List.mem_cons_of_mem _ hy))

/-- An attribute of a name that the element has not got yet displaces none. -/
theorem place (hf : Furnishing strict s h name [x] attrs t) (hx : t.2.isAttribute x = true)
    (hroot : t.2.parent? x = none) (hlt : h.index < x.index) (hbound : t.1.binding? x = some c)
    (hname : t.2.name x = t.1.model.name c)
    (hdist : strict → ∀ i ∈ attrs, t.1.model.name i ≠ t.1.model.name c) :
    Furnishing strict s h name [] (attrs ++ [c]) (t.1, placeAll t.2 h [x]) := by
  obtain ⟨⟨d, displaced⟩, hp⟩ := Document.placeAttribute_of_canHold hf.isElement hx hroot
  obtain ⟨hr, -, -, hdisplaced⟩ := Document.relinked_placeAttribute hf.sound.orderly.toLinked hp
  have hraise := hf.toRaises.place hlt
  rw [hp] at hraise
  have hplaced : placeAll t.2 h [x] = d := by
    rw [placeAll, List.foldl_cons, hp]
    rfl
  rw [hplaced]
  refine hf.relink hr hraise ?_ ?_
  · intro y hy
    obtain ⟨hmem, hsame⟩ := Document.mem_of_attribute?_eq_some (hdisplaced.symm.trans hy)
    refine ⟨?_, (hf.sound.orderly.kinds_of_attribute hmem).1⟩
    -- a displaced attribute has the name of an earlier declaration, so the name is declared twice
    intro hst
    obtain ⟨i, hi, -, hn⟩ := hf.declared y hmem
    exact hdist hst i hi ((hn.trans hsame).trans hname)
  · intro a ha
    rcases (hr.mem_attributes a).mp ha with ⟨hg, -⟩ | ⟨hold, -⟩
    · obtain rfl := Option.some.inj hg
      exact ⟨c, by simp, hbound, hname.symm⟩
    · obtain ⟨i, hi, hb⟩ := hf.declared a hold
      exact ⟨i, List.mem_append_left _ hi, hb⟩

/-- The element may have fewer attributes than are declared. -/
theorem declare (hf : Furnishing strict s h name hs attrs t) (c : ConstraintId) :
    Furnishing strict s h name hs (attrs ++ [c]) t where
  toRaises := hf.toRaises
  rooted := hf.rooted
  labelled := hf.labelled
  declares := hf.declares
  declared := by
    intro a ha
    obtain ⟨i, hi, hb⟩ := hf.declared a ha
    exact ⟨i, List.mem_append_left _ hi, hb⟩

/-- Once the element is bound to a constraint of its name that declares the attributes, it can be
handed out. -/
theorem close (hf : Furnishing strict s h name [] (t.1.model.attributes c) t)
    (hk : t.1.model.kind? c = some .element) (hname : name = t.1.model.name c) :
    Furnished strict s ((t.1.bindNode t.2 h c, t.2), [h]) where
  grows := hf.toGrows.bindNode hf.loose c
  loose := by
    intro x hx
    rw [List.mem_singleton.mp hx]
    exact hf.loose
  nodup := List.nodup_singleton h
  rooted := by
    intro k hn hc hp
    rcases hf.rooted k hn hc hp with rfl | hk | hk
    · exact Or.inl (List.mem_singleton.mpr rfl)
    · simp at hk
    · exact Or.inr hk
  labelled := by
    intro k hn
    have hbinding := binding?_bindNode t.1 t.2 h k c
    by_cases hkh : k = h
    · subst hkh
      refine ⟨fun _ => ⟨c, hbinding.trans (if_pos rfl), hk, ?_⟩, fun ha => ?_⟩
      · exact hname.symm.trans hf.named.symm
      · rw [Document.not_isAttribute_of_isElement hf.isElement] at ha
        simp at ha
    · exact (hf.labelled k hn hkh).congr rfl rfl rfl rfl (hbinding.trans (if_neg hkh))
  declares := by
    intro k hn
    have hbinding := fun x => binding?_bindNode t.1 t.2 h x c
    -- the element is no attribute, so no other node looks at its binding
    have hne : ∀ a ∈ t.2.attributes k, a ≠ h := by
      rintro _ ha rfl
      have hp := hf.sound.orderly.parent?_of_mem (Document.mem_inside.mpr (Or.inl ha))
      rw [hf.parent?] at hp
      simp at hp
    by_cases hkh : k = h
    · subst hkh
      intro a ha
      obtain ⟨i, hi, hb, hname⟩ := hf.declared a ha
      refine ⟨c, (hbinding k).trans (if_pos rfl), i, hi, ?_, hname⟩
      rw [hbinding, if_neg (hne a ha), hb]
    · exact (hf.declares k hn hkh).congr rfl (fun _ ha => ⟨ha, rfl⟩)
        ((hbinding k).trans (if_neg hkh)) fun a ha => (hbinding a).trans (if_neg (hne a ha))

end Furnishing

/-! ## Creating subtrees -/

section Creating

variable {create : Stage → ConstraintId → Stage × List Handle} {cs : List ConstraintId}
  {e : ContentModel.Entry}

/-- Elements are made for each of the constraints. -/
def MakesElementsOf (strict : Prop) (m : ContentModel)
    (create : Stage → ConstraintId → Stage × List Handle) (cs : List ConstraintId) : Prop :=
  ∀ c ∈ cs, ∀ s, Sound s → s.1.model = m →
    Furnished strict s (create s c) ∧ ∀ h ∈ (create s c).2, (create s c).1.2.isElement h = true

/-- At most one attribute is made for each of the constraints. It is bound to the constraint and has
its name. -/
def MakesAttributesOf (strict : Prop) (m : ContentModel)
    (create : Stage → ConstraintId → Stage × List Handle) (cs : List ConstraintId) : Prop :=
  ∀ c ∈ cs, ∀ s, Sound s → s.1.model = m → Furnished strict s (create s c) ∧
    ((create s c).2 = [] ∨ ∃ a, (create s c).2 = [a] ∧
      (create s c).1.2.isAttribute a = true ∧ (create s c).1.1.binding? a = some c ∧
      (create s c).1.2.name a = m.name c)

theorem Furnishing.createChildren (hf : Furnishing strict s h name [] attrs t)
    (hm : t.1.model = m) (hmakes : MakesElementsOf strict m create cs) :
    Furnishing strict s h name [] attrs
      (createEach create (fun d hs => Workspace.appendAll d h hs) t cs) := by
  unfold createEach
  induction cs generalizing t with
  | nil => exact hf
  | cons c cs ih =>
    obtain ⟨hmade, helements⟩ := hmakes c (List.mem_cons_self ..) t hf.sound hm
    have hlt := Document.index_lt_of_contains hf.contains
    have hplaced := (hf.grow hmade).appendAll hmade.nodup fun x hx =>
      ⟨helements x hx, (hmade.loose x hx).detached, Nat.lt_of_lt_of_le hlt (hmade.loose x hx).new⟩
    rw [List.foldl_cons]
    exact ih hplaced (hmade.grows.workspace.model.trans hm)
      fun c' hc' => hmakes c' (List.mem_cons_of_mem _ hc')

theorem Furnishing.createAttributes (hf : Furnishing strict s h name [] attrs t)
    (hm : t.1.model = m) (hmakes : MakesAttributesOf strict m create cs)
    (hdist : strict → ((attrs ++ cs).map m.name).Nodup) :
    Furnishing strict s h name [] (attrs ++ cs)
      (createEach create (fun d hs => Workspace.placeAll d h hs) t cs) := by
  unfold createEach
  induction cs generalizing t attrs with
  | nil =>
    rw [List.append_nil]
    exact hf
  | cons c cs ih =>
    obtain ⟨hmade, hcases⟩ := hmakes c (List.mem_cons_self ..) t hf.sound hm
    have hm' : (create t c).1.1.model = m := hmade.grows.workspace.model.trans hm
    have hgrown := hf.grow hmade
    have hlt := Document.index_lt_of_contains hf.contains
    -- the names of the attributes so far move along with the induction
    have happ : attrs ++ c :: cs = (attrs ++ [c]) ++ cs := by simp
    have hplaced : Furnishing strict s h name [] (attrs ++ [c])
        ((create t c).1.1, Workspace.placeAll (create t c).1.2 h (create t c).2) := by
      rcases hcases with hnil | ⟨a, hone, hattr, hbound, hname⟩
      · -- an optional attribute is not made, but its name counts as taken all the same
        rw [hnil] at hgrown ⊢
        exact hgrown.declare c
      · have hloose := hmade.loose a (by simp [hone])
        rw [hone] at hgrown ⊢
        refine hgrown.place hattr hloose.detached (Nat.lt_of_lt_of_le hlt hloose.new) hbound ?_ ?_
        · rw [hname, hm']
        · intro hst i hi
          have hnd := hdist hst
          rw [List.map_append, List.map_cons, List.nodup_append] at hnd
          rw [hm']
          exact hnd.2.2 _ (List.mem_map_of_mem hi) _ (List.mem_cons_self ..)
    rw [List.foldl_cons, happ]
    exact ih hplaced hm' (fun c' hc' => hmakes c' (List.mem_cons_of_mem _ hc'))
      (happ ▸ hdist)

/-- A new element is furnished from the beginning. -/
theorem furnishing_push (hs : Sound s) (name : String) :
    Furnishing strict s s.2.next name [] [] (s.1, (s.2.createElement name).1) := by
  have hnode : (s.2.createElement name).1.node? s.2.next =
      some { kind := .element, name := name } :=
    (Document.node?_push s.2 _ _).trans (if_pos rfl)
  have hgone : ∀ k, s.2.slots.size ≤ k.index → k ≠ s.2.next →
      (s.2.createElement name).1.contains k = false := by
    intro k hn hk
    by_contra hc
    rw [Bool.not_eq_false] at hc
    exact hk (Document.eq_next_of_contains_push hn hc)
  refine ⟨raises_push hs name, ?_, ?_, ?_, ?_⟩
  · exact fun k hn hc _ => Or.inl (Document.eq_next_of_contains_push hn hc)
  · exact fun k hn hk => labelled_of_not_contains (hgone k hn hk)
  · exact fun k hn hk => declares_of_not_contains (hgone k hn hk)
  · intro a ha
    replace ha : a ∈ (s.2.createElement name).1.attributes s.2.next := ha
    simp [Document.attributes, hnode] at ha

/-- The element may show another text; a new one has its place at once. -/
theorem Furnishing.setValue (hf : Furnishing strict s h name [] attrs t) (value : String) :
    Furnishing strict s h name [] attrs (t.1, keepOr t.2 (t.2.setValue h value)) := by
  have hraise := hf.toRaises.setValue value
  cases hset : t.2.setValue h value with
  | error fault => exact hf
  | ok d =>
    rw [hset] at hraise
    have hstays := fun k => Document.stays_or_isText_of_setValue (k := k) hf.sound.orderly hset
    have hkept := (Document.kept_of_setValue hf.sound.orderly hset).1
    refine ⟨hraise, ?_, ?_, ?_, ?_⟩
    · intro k hn hc hp
      replace hc : d.contains k = true := hc
      replace hp : d.parent? k = none := hp
      show k = h ∨ k ∈ [] ∨ (¬ strict ∧ d.isAttribute k = true)
      rcases hstays k hc with ⟨hold, hkind, -, hpar⟩ | ⟨-, -, hpar⟩
      · rw [Document.isAttribute_congr hkind]
        exact hf.rooted k hn hold (hpar.symm.trans hp)
      · rw [hp] at hpar
        simp at hpar
    · intro k hn hk
      by_cases hc : d.contains k = true
      · rcases hstays k hc with ⟨-, hkind, hname, -⟩ | ⟨-, htext, -⟩
        · exact (hf.labelled k hn hk).congr rfl rfl hkind hname rfl
        · exact labelled_of_kind (Document.not_isElement_of_isText htext)
            (Document.not_isAttribute_of_isText htext)
      · exact labelled_of_not_contains (Bool.not_eq_true _ ▸ hc)
    · intro k hn hk
      refine (hf.declares k hn hk).congr rfl (fun a ha => ?_) rfl fun _ _ => rfl
      replace ha : a ∈ d.attributes k := ha
      rcases hstays k (Document.contains_of_mem_inside (Document.mem_inside.mpr (Or.inl ha))) with
        ⟨hold, -⟩ | ⟨-, htext, -⟩
      · exact ⟨(hkept k hold).attributes a ha, (hkept k hold).name_of_mem a (Or.inr ha)⟩
      · -- a text has no attributes
        have he : d.isElement k = true := (hraise.sound.orderly.kinds_of_attribute ha).2
        rw [Document.not_isElement_of_isText htext] at he
        simp at he
    · intro a ha
      have hke := hkept h hf.contains
      obtain ⟨i, hi, hb, hn⟩ := hf.declared a (hke.attributes a ha)
      exact ⟨i, hi, hb, hn.trans (hke.name_of_mem a (Or.inr ha)).symm⟩

theorem furnished_createElement (hs : Sound s) (hm : s.1.model = m)
    (he : m.get? c = some e) (hk : e.kind = .element)
    (hchildren : MakesElementsOf strict m create e.children)
    (hattributes : MakesAttributesOf strict m create e.attributes)
    (hdist : strict → m.AttributesDistinct) :
    Furnished strict s ((createElement create s c e).1, [(createElement create s c e).2]) := by
  obtain ⟨w, d⟩ := s
  obtain ⟨shown, hcases, heq⟩ := createElement_cases create w d c e
  have hbegun : Furnishing strict (w, d) d.next e.name [] [] (w, (d.createElement e.name).1) :=
    furnishing_push hs e.name
  have hshown : Furnishing strict (w, d) d.next e.name [] [] (w, shown) := by
    rcases hcases with rfl | ⟨value, rfl⟩
    · exact hbegun
    · exact hbegun.setValue value
  have hkind : m.kind? c = some .element := by rw [ContentModel.kind?, he, ← hk]; rfl
  have has : m.attributes c = e.attributes := by rw [ContentModel.attributes, he]; rfl
  have hfilled := hshown.createChildren hm hchildren
  have hfurnished := hfilled.createAttributes (hfilled.workspace.model.trans hm) hattributes
    fun hst => by
      rw [List.nil_append, ← has]
      exact hdist hst c hkind
  have hmodel : (furnish create d.next e (w, shown)).1.model = m :=
    hfurnished.workspace.model.trans hm
  have hattrs : [] ++ e.attributes = (furnish create d.next e (w, shown)).1.model.attributes c := by
    rw [hmodel, has, List.nil_append]
  rw [heq]
  refine (hattrs ▸ hfurnished).close ?_ ?_
  · rw [hmodel, hkind]
  · rw [hmodel, ContentModel.name, he]
    rfl

theorem furnished_createElements (hs : Sound s) (hm : s.1.model = m)
    (he : m.get? c = some e) (hk : e.kind = .element)
    (hchildren : MakesElementsOf strict m create e.children)
    (hattributes : MakesAttributesOf strict m create e.attributes)
    (hdist : strict → m.AttributesDistinct) (hloose : CreatesLoose create) (n : Nat) :
    Furnished strict s (createElements create c e n s) ∧
      ∀ h ∈ (createElements create c e n s).2,
        (createElements create c e n s).1.2.isElement h = true := by
  induction n generalizing s with
  | zero =>
    rw [createElements]
    exact ⟨furnished_nothing hs, by simp⟩
  | succ n ih =>
    have hfirst := furnished_createElement hs hm he hk hchildren hattributes hdist
    have hm' := hfirst.grows.workspace.model.trans hm
    obtain ⟨hrest, helements⟩ := ih hfirst.grows.sound hm'
    obtain ⟨hr, -⟩ := raises_createElement hloose hs c e
    rw [createElements]
    refine ⟨hfirst.trans hrest, ?_⟩
    intro h hh
    rcases List.mem_cons.mp hh with rfl | hh
    · have hsame := (hrest.grows.document.lookups hr.contains).1
      exact (Document.isElement_congr hsame).trans hr.isElement
    · exact helements h hh

theorem furnished_createAttribute (strict : Prop) (hs : Sound s) (hm : s.1.model = m)
    (he : m.get? c = some e) (hk : e.kind = .attribute) :
    Furnished strict s ((createAttribute s c e).1, [(createAttribute s c e).2]) ∧
      (createAttribute s c e).1.2.isAttribute (createAttribute s c e).2 = true ∧
      (createAttribute s c e).1.1.binding? (createAttribute s c e).2 = some c ∧
      (createAttribute s c e).1.2.name (createAttribute s c e).2 = m.name c := by
  obtain ⟨hg, hl⟩ := createAttribute_loose hs c e
  obtain ⟨w, d⟩ := s
  have hnode : (d.createAttribute e.name (e.preset?.getD "")).1.node? d.next = some
      { kind := .attribute, name := e.name, value := e.preset?.getD "" } :=
    (Document.node?_push d _ _).trans (if_pos rfl)
  have hattr : (d.createAttribute e.name (e.preset?.getD "")).1.isAttribute d.next = true := by
    rw [Document.isAttribute, Document.kind?, hnode]
    rfl
  have hname : (d.createAttribute e.name (e.preset?.getD "")).1.name d.next = m.name c := by
    rw [Document.name, hnode, ContentModel.name, he]
    rfl
  have hbound : (createAttribute (w, d) c e).1.1.binding? d.next = some c :=
    (binding?_bindNode w _ d.next d.next c).trans (if_pos rfl)
  refine ⟨⟨hg, ?_, List.nodup_singleton _, ?_, ?_, ?_⟩, hattr, hbound, hname⟩
  · intro h hh
    rw [List.mem_singleton.mp hh]
    exact hl
  · intro k hn hc _
    exact Or.inl (List.mem_singleton.mpr (Document.eq_next_of_contains_push hn hc))
  · intro k hn
    by_cases hc : (d.createAttribute e.name (e.preset?.getD "")).1.contains k = true
    · rw [Document.eq_next_of_contains_push hn hc]
      refine ⟨fun hel => ?_, fun _ => Or.inr ⟨c, ?_, ?_, ?_⟩⟩
      · have := Document.not_isAttribute_of_isElement hel
        rw [show (createAttribute (w, d) c e).1.2 =
          (d.createAttribute e.name (e.preset?.getD "")).1 from rfl, hattr] at this
        simp at this
      · exact hbound
      · show w.model.kind? c = some .attribute
        rw [show w.model = m from hm, ContentModel.kind?, he, ← hk]
        rfl
      · show w.model.name c = _
        rw [show w.model = m from hm]
        exact hname.symm
    · exact labelled_of_not_contains (Bool.not_eq_true _ ▸ hc)
  · intro k hn a ha
    -- the one new node is no element, and so has no attributes
    replace ha : a ∈ (d.createAttribute e.name (e.preset?.getD "")).1.attributes k := ha
    rw [Document.eq_next_of_contains_push hn (Document.contains_of_mem_inside
      (Document.mem_inside.mpr (Or.inl ha)))] at ha
    simp [Document.attributes, hnode] at ha

/-- What has to be there for constraints one after the other is made of elements. -/
theorem furnished_foldl (hmakes : MakesElementsOf strict m create cs) {r : Stage × List Handle}
    (hm : r.1.1.model = m) (hr : Furnished strict s r)
    (helements : ∀ h ∈ r.2, r.1.2.isElement h = true) :
    let r' := cs.foldl (fun acc c =>
      let r := create acc.1 c
      (r.1, acc.2 ++ r.2)) r
    Furnished strict s r' ∧ ∀ h ∈ r'.2, r'.1.2.isElement h = true := by
  induction cs generalizing r with
  | nil => exact ⟨hr, helements⟩
  | cons c cs ih =>
    obtain ⟨hone, hoe⟩ := hmakes c (List.mem_cons_self ..) r.1 hr.grows.sound hm
    refine ih (r := ((create r.1 c).1, r.2 ++ (create r.1 c).2))
      (fun c' hc' => hmakes c' (List.mem_cons_of_mem _ hc'))
      (hone.grows.workspace.model.trans hm) (hr.trans hone) ?_
    intro h hh
    rcases List.mem_append.mp hh with hh | hh
    · have hsame := (hone.grows.document.lookups (hr.loose h hh).contains).1
      exact (Document.isElement_congr hsame).trans (helements h hh)
    · exact hoe h hh

/-- What is created inside an element is furnished, whatever the fuel: elements, or at most one
attribute of the name. -/
theorem furnished_createInside (htree : m.TreeShaped) (hdist : strict → m.AttributesDistinct)
    (fuel : Nat) (cs : List ConstraintId) : MakesElementsOf strict m (createInside fuel)
        (cs.filter fun c => m.kind? c ≠ some .attribute) ∧
      MakesAttributesOf strict m (createInside fuel)
        (cs.filter fun c => m.kind? c = some .attribute) := by
  induction fuel generalizing cs with
  | zero =>
    refine ⟨fun c _ s hs _ => ?_, fun c _ s hs _ => ?_⟩ <;> rw [createInside]
    · exact ⟨furnished_nothing hs, by simp⟩
    · exact ⟨furnished_nothing hs, Or.inl rfl⟩
  | succ fuel ih =>
    -- what is inside a constraint, and what its attributes are
    have hchildren : ∀ c, MakesElementsOf strict m (createInside fuel) (m.children c) := by
      intro c c' hc'
      obtain ⟨kind, hkind, hne⟩ := htree.kind?_of_mem hc'
      refine (ih (m.children c)).1 c' (List.mem_filter.mpr ⟨hc', ?_⟩)
      simp [hkind, hne]
    have hattributes : ∀ c, MakesAttributesOf strict m (createInside fuel) (m.attributes c) := by
      intro c c' hc'
      refine (ih (m.attributes c)).2 c' (List.mem_filter.mpr ⟨hc', ?_⟩)
      simp [htree.kind?_of_mem_attributes hc']
    constructor
    · intro c hc s hs hm
      have hk : m.kind? c ≠ some .attribute := by simpa using (List.mem_filter.mp hc).2
      have hnothing : Furnished strict s (s, []) ∧ ∀ h ∈ (s, ([] : List Handle)).2,
          (s, ([] : List Handle)).1.2.isElement h = true := ⟨furnished_nothing hs, by simp⟩
      rw [createInside, hm]
      cases he : m.get? c with
      | none => exact hnothing
      | some e =>
        have hcs : m.children c = e.children := by rw [ContentModel.children, he]; rfl
        have has : m.attributes c = e.attributes := by rw [ContentModel.attributes, he]; rfl
        dsimp only
        cases hek : e.kind with
        | «attribute» =>
          rw [ContentModel.kind?, he] at hk
          exact absurd (congrArg some hek) hk
        | element =>
          exact furnished_createElements hs hm he hek (hcs ▸ hchildren c) (has ▸ hattributes c)
            hdist (createsLoose_createInside fuel) _
        | sequence =>
          exact furnished_foldl (hcs ▸ hchildren c) hm (furnished_nothing hs) (by simp)
        | choice =>
          cases hfirst : e.children with
          | nil => exact hnothing
          | cons first rest =>
            exact hchildren c first (by rw [hcs, hfirst]; exact List.mem_cons_self ..) s hs hm
        | group => exact hnothing
    · intro c hc s hs hm
      have hk : m.kind? c = some .attribute := by simpa using (List.mem_filter.mp hc).2
      rw [createInside, hm]
      cases he : m.get? c with
      | none => exact ⟨furnished_nothing hs, Or.inl rfl⟩
      | some e =>
        have hek : e.kind = .attribute := by
          rw [ContentModel.kind?, he] at hk
          exact Option.some.inj hk
        simp only [hek]
        split
        · obtain ⟨hmade, hattr, hbound, hname⟩ := furnished_createAttribute strict hs hm he hek
          exact ⟨hmade, Or.inr ⟨_, rfl, hattr, hbound, hname⟩⟩
        · exact ⟨furnished_nothing hs, Or.inl rfl⟩

theorem makesElementsOf_children (htree : m.TreeShaped) (hdist : strict → m.AttributesDistinct)
    (fuel : Nat) (c : ConstraintId) :
    MakesElementsOf strict m (createInside fuel) (m.children c) := by
  intro c' hc'
  obtain ⟨kind, hkind, hne⟩ := htree.kind?_of_mem hc'
  refine (furnished_createInside htree hdist fuel (m.children c)).1 c'
    (List.mem_filter.mpr ⟨hc', ?_⟩)
  simp [hkind, hne]

theorem makesAttributesOf_attributes (htree : m.TreeShaped)
    (hdist : strict → m.AttributesDistinct) (fuel : Nat) (c : ConstraintId) :
    MakesAttributesOf strict m (createInside fuel) (m.attributes c) := by
  intro c' hc'
  refine (furnished_createInside htree hdist fuel (m.attributes c)).2 c'
    (List.mem_filter.mpr ⟨hc', ?_⟩)
  simp [htree.kind?_of_mem_attributes hc']

end Creating

/-- What is created for a constraint is furnished. -/
theorem furnished_create (htree : w.model.TreeShaped)
    (hdist : strict → w.model.AttributesDistinct) (hs : Sound (w, d)) (c : ConstraintId) :
    Furnished strict (w, d) ((w.create d c).1, (w.create d c).2.toList) := by
  unfold create
  cases he : w.model.get? c with
  | none => exact furnished_nothing hs
  | some e =>
    have hcs : w.model.children c = e.children := by rw [ContentModel.children, he]; rfl
    have has : w.model.attributes c = e.attributes := by rw [ContentModel.attributes, he]; rfl
    dsimp only
    cases hek : e.kind with
    | element =>
      exact furnished_createElement hs rfl he hek
        (hcs ▸ makesElementsOf_children htree hdist _ c)
        (has ▸ makesAttributesOf_attributes htree hdist _ c) hdist
    | «attribute» => exact (furnished_createAttribute strict hs rfl he hek).1
    | sequence => exact furnished_nothing hs
    | choice => exact furnished_nothing hs
    | group => exact furnished_nothing hs

/-! ## Binding -/

/-- Attributes that were bound have a label, unless they are whitelisted. -/
theorem labelled_of_bindAttributes (htree : w.model.TreeShaped) {as : List Handle}
    (has : ∀ a ∈ as, d.isAttribute a = true) (htrue : (w.bindAttributes d c as).2 = true) :
    ∀ a ∈ as, Labelled (w.bindAttributes d c as).1 d a := by
  induction as generalizing w with
  | nil => simp
  | cons a as ih =>
    have hrest : ∀ x ∈ as, d.isAttribute x = true := fun x hx => has x (List.mem_cons_of_mem _ hx)
    have hnot : d.isElement a = true → False := by
      intro he
      have := has a (List.mem_cons_self ..)
      rw [Document.not_isAttribute_of_isElement he] at this
      simp at this
    rw [bindAttributes] at htrue ⊢
    cases hi : w.model.attribute? c (d.name a) with
    | some i =>
      simp only [hi] at htrue ⊢
      have hall := ih (w := w.bindNode d a i) htree hrest htrue
      intro x hx
      by_cases hxs : x ∈ as
      · exact hall x hxs
      · obtain rfl : x = a := (List.mem_cons.mp hx).resolve_right hxs
        -- the attribute that was bound first is not bound again by the rest
        have hkept := rebinds_bindAttributes (w.bindNode d x i) d c as
        have hmem := List.mem_of_find?_eq_some hi
        have hname : w.model.name i = d.name x := by simpa using List.find?_some hi
        refine ⟨fun he => (hnot he).elim, fun _ => Or.inr ⟨i, ?_, ?_, ?_⟩⟩
        · rw [hkept.binding? x hxs]
          exact (binding?_bindNode w d x x i).trans (if_pos rfl)
        · rw [hkept.model]
          exact htree.kind?_of_mem_attributes hmem
        · rw [hkept.model]
          exact hname
    | none =>
      simp only [hi] at htrue ⊢
      split_ifs at htrue ⊢ with hwhite
      have hkept := rebinds_bindAttributes w d c as
      intro x hx
      rcases List.mem_cons.mp hx with rfl | hx
      · refine ⟨fun he => (hnot he).elim, fun _ => Or.inl ?_⟩
        rw [isWhitelisted, hkept.whitelist]
        exact hwhite
      · exact ih htree hrest htrue x hx

/-- What is bound elsewhere makes no difference to labels. -/
theorem Labelled.rebinds {P : Handle → Prop} (hl : Labelled w d k) (hr : Rebinds P w w')
    (hk : ¬ P k) : Labelled w' d k :=
  hl.congr hr.model hr.whitelist rfl rfl (hr.binding? k hk)

/-- Where binding an element succeeded, all nodes below it are labelled. -/
theorem labelled_of_bindAux (hd : d.Forest) (fuel : Nat) (htree : w.model.TreeShaped)
    (htrue : (bindAux d fuel w h c).2 = true) (hw : d.Within h k) :
    Labelled (bindAux d fuel w h c).1 d k := by
  induction fuel generalizing w h c with
  | zero => simp [bindAux] at htrue
  | succ fuel ih =>
    obtain ⟨done, hdone⟩ := bindsInside_of_bindAux hd htrue
    have hmodel : done.model = w.model := hdone.model
    have hbind := rebinds_bindNode done d h c
    rw [hdone.eq]
    rcases hw.cases_inside hd with rfl | ⟨hne, ha | ⟨x, hx, hxk⟩ | ht⟩
    · refine ⟨fun _ => ⟨c, (binding?_bindNode done d k k c).trans (if_pos rfl), ?_, ?_⟩, ?_⟩
      · exact hmodel ▸ hdone.fits.kind?
      · exact hmodel ▸ hdone.fits.name.symm
      · intro ha
        rw [Document.not_isAttribute_of_isElement hdone.fits.isElement] at ha
        simp at ha
    · have hlabels := labelled_of_bindAttributes htree
        (fun a ha => (hd.kinds_of_attribute ha).1) hdone.attributes
      refine ((hlabels k ha).rebinds hdone.matched ?_).rebinds hbind hne
      rintro ⟨y, hy, hyk⟩
      exact hd.not_within_attribute ha hy hyk
    · -- binding the siblings that follow leaves what is below this one alone
      obtain ⟨i, -, hstill⟩ := hdone.inside x hx
      obtain ⟨w₀, hv₀, htrue₀, hsame⟩ := hstill.exists_before
      have hbelow := ih (w := w₀) (hv₀.model ▸ htree) htrue₀ hxk
      have hrest := isLocal_bindAux hd.toLinked fuel w₀ x i
      refine (hbelow.congr ?_ ?_ rfl rfl (hsame k hxk)).rebinds hbind hne
      · rw [hmodel, hrest.model, hv₀.model]
      · rw [hdone.whitelist, hrest.whitelist, hv₀.whitelist]
    · exact labelled_of_kind (Document.not_isElement_of_isText ht)
        (Document.not_isAttribute_of_isText ht)

/-- What was bound is an element. -/
theorem isElement_of_bind (htrue : (w.bind d h c).2 = true) : d.isElement h = true :=
  (fits_of_bindAux (bind_eq_bindAux htrue).1).isElement

/-- All nodes at and below an element that was bound are labelled. -/
theorem labelled_of_bind (hd : d.Forest) (htree : w.model.TreeShaped)
    (htrue : (w.bind d h c).2 = true) (hw : d.Within h k) : Labelled (w.bind d h c).1 d k := by
  obtain ⟨haux, heq⟩ := bind_eq_bindAux htrue
  rw [heq]
  exact labelled_of_bindAux hd d.slots.size htree haux hw

end Workspace

end GuidedXml
