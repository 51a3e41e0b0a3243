/-
# Complete elements

A new element is complete if it says all that its constraint asks for: its name, elements inside
whose names are a word of the content, and the attributes that come along, with their values and in
the order of their declaration.

The main statements say that every element made in the course of creation is complete, however the
compositors of the content are nested.
-/
import GuidedXml.Proofs.Conformance.Provision
import GuidedXml.Proofs.Schema.Language

namespace GuidedXml

open Schema (ConstraintId ContentModel)

/-! ## Attributes of a new element -/

namespace Schema.ContentModel

/-- Whether the attribute comes with its element. -/
def comesAlong (m : ContentModel) (j : ConstraintId) : Bool :=
  (m.get? j).any fun e => e.comesAlong

/-- The value of a new attribute: the fixed one, or else the default one, or else the empty one. -/
def startValue (m : ContentModel) (j : ConstraintId) : String :=
  ((m.get? j).bind fun e => e.preset?).getD ""

/-- A new attribute: its constraint, its name and its value. -/
def given (m : ContentModel) (j : ConstraintId) : Option ConstraintId × String × String :=
  (some j, m.name j, m.startValue j)

end Schema.ContentModel

namespace Workspace

variable {m : ContentModel} {s t u : Stage} {w w' : Workspace} {d d' : Document}
  {h k x : Handle} {name : String} {c i : ConstraintId} {hs hs' : List Handle}
  {attrs : List ConstraintId} {names names' : List String}

/-- An attribute of a document: its constraint, its name and its value. -/
def attributeAt (w : Workspace) (d : Document) (a : Handle) :
    Option ConstraintId × String × String :=
  (w.binding? a, d.name a, d.value a)

/-! ## Complete elements -/

/-- The element says all that its constraint asks for. -/
structure Complete (w : Workspace) (d : Document) (k : Handle) (i : ConstraintId) : Prop where
  binding? : w.binding? k = some i
  kind? : w.model.kind? i = some .element
  name : d.name k = w.model.name i
  content : w.model.Words (w.model.children i) ((d.elements k).map d.name)
  attributes : (d.attributes k).map (w.attributeAt d) =
    ((w.model.attributes i).filter w.model.comesAlong).map w.model.given

theorem Complete.congr (hk : w.Complete d k i) (hm : w'.model = w.model)
    (hb : w'.binding? k = w.binding? k) (hn : d'.name k = d.name k)
    (he : (d'.elements k).map d'.name = (d.elements k).map d.name)
    (ha : (d'.attributes k).map (w'.attributeAt d') = (d.attributes k).map (w.attributeAt d)) :
    w'.Complete d' k i where
  binding? := hb.trans hk.binding?
  kind? := hm ▸ hk.kind?
  name := by rw [hn, hm, hk.name]
  content := by
    rw [he, hm]
    exact hk.content
  attributes := by
    rw [ha, hm]
    exact hk.attributes

/-- The attributes of a complete element are bound. -/
theorem Complete.exists_binding? (hk : w.Complete d k i) {a : Handle} (ha : a ∈ d.attributes k) :
    ∃ j, w.binding? a = some j := by
  have hmem := List.mem_map_of_mem (f := w.attributeAt d) ha
  rw [hk.attributes] at hmem
  obtain ⟨j, -, hj⟩ := List.mem_map.mp hmem
  exact ⟨j, (congrArg Prod.fst hj).symm⟩

/-- What was there of an element is there when the document has grown. -/
theorem Grows.lists (hg : Grows s t) (hs : s.2.Linked) (hc : s.2.contains k = true) :
    (t.2.elements k).map t.2.name = (s.2.elements k).map s.2.name ∧
      (t.2.attributes k).map (t.1.attributeAt t.2) =
        (s.2.attributes k).map (s.1.attributeAt s.2) := by
  have hkept := hg.document.kept hs hc
  refine ⟨?_, ?_⟩
  · rw [hkept.elements]
    refine List.map_congr_left fun x hx => hkept.name_of_mem x (Or.inl ?_)
    rw [hkept.elements]
    exact hx
  · rw [(hg.document.lookups hc).2.2.2.1]
    refine List.map_congr_left fun a ha => ?_
    have hlive := hs.contains_of_mem (Document.mem_inside.mpr (Or.inl ha))
    have := Document.index_lt_of_contains hlive
    rw [attributeAt, attributeAt, hg.workspace.binding? a (by omega),
      (hg.document.lookups hlive).2.1, hg.document.value hs hlive]

/-- What is inside another element, and its attributes, do not change when an element gets another
text. -/
theorem lists_setValue {value : String} (hd : d.Orderly) (hset : d.setValue h value = .ok d')
    (hh : d.isElement h = true) (hk : d.contains k = true) :
    (d'.elements k).map d'.name = (d.elements k).map d.name ∧
      (d'.attributes k).map (w.attributeAt d') = (d.attributes k).map (w.attributeAt d) := by
  obtain ⟨hkept, -⟩ := Document.kept_of_setValue hd hset
  have hvalue := (Document.value_setValue hd hset (not_isText_of_kinds (Or.inl hh))).2
  have hsame := Document.attributes_setValue hset hk
  refine ⟨?_, ?_⟩
  · rw [(hkept k hk).elements]
    refine List.map_congr_left fun x hx => (hkept k hk).name_of_mem x (Or.inl ?_)
    rw [(hkept k hk).elements]
    exact hx
  · rw [hsame]
    refine List.map_congr_left fun a ha => ?_
    have hattr := (hd.kinds_of_attribute ha).1
    rw [attributeAt, attributeAt, (hkept k hk).name_of_mem a (Or.inr (hsame ▸ ha)),
      hvalue a (contains_of_kinds (Or.inr hattr)) (not_isText_of_kinds (Or.inr hattr)) ?_]
    rintro rfl
    rw [Document.not_isAttribute_of_isElement hh] at hattr
    simp at hattr

theorem Complete.grows (hk : s.1.Complete s.2 k i) (hg : Grows s t) (hs : s.2.Linked)
    (hc : s.2.contains k = true) : t.1.Complete t.2 k i := by
  obtain ⟨hel, hat⟩ := hg.lists hs hc
  have := Document.index_lt_of_contains hc
  exact hk.congr hg.workspace.model (hg.workspace.binding? k (by omega))
    (hg.document.lookups hc).2.1 hel hat

/-- Elements that were complete when they were there are complete when the document has grown. -/
theorem Grows.exists_complete (hg : Grows s t) (hs : s.2.Linked) (hlt : k.index < s.2.slots.size)
    (hk : t.2.isElement k = true)
    (hold : s.2.isElement k = true → ∃ i, s.1.Complete s.2 k i) : ∃ i, t.1.Complete t.2 k i := by
  have hsame := Document.lookups_congr (hg.document.node? k hlt)
  have hke : s.2.isElement k = true := (Document.isElement_congr hsame.1).symm.trans hk
  obtain ⟨i, hi⟩ := hold hke
  exact ⟨i, hi.grows hg hs (Document.contains_of_isElement hke)⟩

/-! ## Nodes that are made -/

/-- What was made since the stage `s`: complete elements, and among them those that are handed out,
which have the names. -/
structure Completed (s : Stage) (names : List String) (r : Stage × List Handle) : Prop
    extends Furnished True s r where
  elements : ∀ x ∈ r.2, r.1.2.isElement x = true
  complete : ∀ k, s.2.slots.size ≤ k.index → r.1.2.isElement k = true →
    ∃ i, r.1.1.Complete r.1.2 k i
  named : r.2.map r.1.2.name = names

/-- The one attribute of the constraint was made if it comes along, and nothing otherwise. -/
structure Gives (m : ContentModel) (c : ConstraintId) (s : Stage) (r : Stage × List Handle) : Prop
    extends Furnished True s r where
  isAttribute : ∀ x ∈ r.2, r.1.2.isAttribute x = true
  bare : ∀ k, s.2.slots.size ≤ k.index → r.1.2.isElement k = false
  given : r.2.map (r.1.1.attributeAt r.1.2) = ([c].filter m.comesAlong).map m.given

theorem completed_nothing (hs : Sound s) : Completed s [] (s, []) where
  toFurnished := furnished_nothing hs
  elements := by simp
  complete := fun _ hn hk => absurd (Document.index_lt_of_contains
    (Document.contains_of_isElement hk)) (Nat.not_lt.mpr hn)
  named := rfl

theorem Completed.trans {r r' : Stage × List Handle} (h₁ : Completed s names r)
    (h₂ : Completed r.1 names' r') : Completed s (names ++ names') (r'.1, r.2 ++ r'.2) where
  toFurnished := h₁.toFurnished.trans h₂.toFurnished
  elements := by
    intro x hx
    rcases List.mem_append.mp hx with hx | hx
    · have hsame := h₂.grows.document.lookups (h₁.loose x hx).contains
      exact (Document.isElement_congr hsame.1).trans (h₁.elements x hx)
    · exact h₂.elements x hx
  complete := by
    intro k hn hk
    by_cases hlt : k.index < r.1.2.slots.size
    · exact h₂.grows.exists_complete h₁.grows.sound.orderly.toLinked hlt hk (h₁.complete k hn)
    · exact h₂.complete k (Nat.not_lt.mp hlt) hk
  named := by
    have hold : r.2.map r'.1.2.name = r.2.map r.1.2.name := List.map_congr_left fun x hx =>
      (h₂.grows.document.lookups (h₁.loose x hx).contains).2.1
    rw [List.map_append, hold, h₁.named, h₂.named]

/-! ## Completing an element -/

/-- The element `h` is being completed and not bound yet. The elements inside it have the names, and
it has the attributes among `attrs` that come along; the nodes `hs` wait for their places. -/
structure Completing (s : Stage) (h : Handle) (name : String) (hs : List Handle)
    (names : List String) (attrs : List ConstraintId) (t : Stage) : Prop
    extends Furnishing True s h name hs attrs t where
  complete : ∀ k, s.2.slots.size ≤ k.index → k ≠ h → t.2.isElement k = true →
    ∃ i, t.1.Complete t.2 k i
  inside : (t.2.elements h).map t.2.name = names
  given : (t.2.attributes h).map (t.1.attributeAt t.2) =
    (attrs.filter t.1.model.comesAlong).map t.1.model.given

namespace Completing

/-- Nodes are made that wait for their places in the element. -/
theorem grow {r : Stage × List Handle} (hp : Completing s h name [] names attrs t)
    (hr : Furnished True t r) (hmade : ∀ k, t.2.slots.size ≤ k.index →
      r.1.2.isElement k = true → ∃ i, r.1.1.Complete r.1.2 k i) :
    Completing s h name r.2 names attrs r.1 where
  toFurnishing := hp.toFurnishing.grow hr
  complete := by
    intro k hn hne hk
    by_cases hlt : k.index < t.2.slots.size
    · exact hr.grows.exists_complete hp.sound.orderly.toLinked hlt hk (hp.complete k hn hne)
    · exact hmade k (Nat.not_lt.mp hlt) hk
  inside := (hr.grows.lists hp.sound.orderly.toLinked hp.contains).1.trans hp.inside
  given := by
    rw [(hr.grows.lists hp.sound.orderly.toLinked hp.contains).2, hr.grows.workspace.model]
    exact hp.given

/-- An element gets its place behind those that are there. -/
theorem append (hp : Completing s h name (x :: hs) names attrs t) (hx : t.2.isElement x = true)
    (hroot : t.2.parent? x = none) (hlt : h.index < x.index) :
    ∃ d, t.2.append h x = .ok d ∧ t.2.Relinked d h none (some x) ∧
      Completing s h name hs (names ++ [t.2.name x]) attrs (t.1, d) := by
  obtain ⟨d, hd, hr, hf⟩ := hp.toFurnishing.append hx hroot hlt
  have hlinked := hp.sound.orderly.toLinked
  have hvalue := Document.value_append hlinked hd (not_isText_of_kinds (Or.inl hx))
  have hlists : ∀ k, (d.attributes k).map (t.1.attributeAt d) =
      (t.2.attributes k).map (t.1.attributeAt t.2) := by
    intro k
    rw [Document.attributes_append hd]
    refine List.map_congr_left fun a _ => ?_
    rw [attributeAt, attributeAt, hr.name, hvalue]
  refine ⟨d, hd, hr, hf, ?_, ?_, (hlists h).trans hp.given⟩
  · intro k hn hne hk
    obtain ⟨i, hi⟩ := hp.complete k hn hne ((Document.isElement_congr (hr.kind? k)).symm.trans hk)
    refine ⟨i, hi.congr rfl rfl (hr.name k) ?_ (hlists k)⟩
    rw [(hr.kept hne).elements]
    exact List.map_congr_left fun y _ => hr.name y
  · obtain ⟨-, -, hchildren⟩ := Document.relinked_append hlinked hd
    have hkinds : d.isElement = t.2.isElement := by
      funext y
      exact Document.isElement_congr (hr.kind? y)
    have hnames : d.name = t.2.name := by
      funext y
      exact hr.name y
    show (d.elements h).map d.name = _
    rw [Document.elements, hchildren, hkinds, hnames, List.filter_append, List.map_append,
      List.filter_cons_of_pos hx, ← hp.inside]
    rfl

/-- Elements get their places one after the other. -/
theorem appendAll (hp : Completing s h name hs names attrs t) (hnd : hs.Nodup)
    (hhs : ∀ x ∈ hs, t.2.isElement x = true ∧ t.2.parent? x = none ∧ h.index < x.index) :
    Completing s h name [] (names ++ hs.map t.2.name) attrs (t.1, appendAll t.2 h hs) := by
  induction hs generalizing t names with
  | nil =>
    rw [List.map_nil, List.append_nil]
    exact hp
  | cons x hs ih =>
    obtain ⟨hx, hroot, hlt⟩ := hhs x (List.mem_cons_self ..)
    obtain ⟨d, hd, hr, hplaced⟩ := hp.append hx hroot hlt
    rw [List.nodup_cons] at hnd
    have hnames : hs.map d.name = hs.map t.2.name := List.map_congr_left fun y _ => hr.name y
    have hrest := ih hplaced hnd.2
      (hr.waiting hnd.1 fun y hy => hhs y (List.mem_cons_of_mem _ hy))
    rw [List.append_assoc] at hrest
    rw [Workspace.appendAll, List.foldl_cons, hd, List.map_cons, ← hnames]
    exact hrest

/-- The element may show another text. -/
theorem setValue (hp : Completing s h name [] names attrs t) (value : String) :
    Completing s h name [] names attrs (t.1, keepOr t.2 (t.2.setValue h value)) := by
  have hf := hp.toFurnishing.setValue value
  cases hset : t.2.setValue h value with
  | error fault => exact hp
  | ok d =>
    rw [hset] at hf
    have horder := hp.sound.orderly
    obtain ⟨hkept, hold⟩ := Document.kept_of_setValue horder hset
    obtain ⟨hel, hat⟩ := lists_setValue horder hset hp.isElement (w := t.1) hp.contains
    refine ⟨hf, fun k hn hne hk => ?_, hel.trans hp.inside, hat.trans hp.given⟩
    have hc := Document.contains_of_isElement (hold k hk)
    obtain ⟨hel, hat⟩ := lists_setValue horder hset hp.isElement (w := t.1) hc
    obtain ⟨i, hi⟩ := hp.complete k hn hne (hold k hk)
    exact ⟨i, hi.congr rfl rfl (hkept k hc).name hel hat⟩

/-- An attribute of another name than those that are there gets its place behind them. -/
theorem place (hp : Completing s h name [x] names attrs t) (hx : t.2.isAttribute x = true)
    (hroot : t.2.parent? x = none) (hlt : h.index < x.index)
    (hgiven : t.1.attributeAt t.2 x = t.1.model.given c) (hcomes : t.1.model.comesAlong c = true)
    (hdist : ∀ i ∈ attrs, t.1.model.name i ≠ t.1.model.name c) :
    Completing s h name [] names (attrs ++ [c]) (t.1, placeAll t.2 h [x]) := by
  have hbound : t.1.binding? x = some c := congrArg Prod.fst hgiven
  have hname : t.2.name x = t.1.model.name c := congrArg (fun a => a.2.1) hgiven
  have hf := hp.toFurnishing.place hx hroot hlt hbound hname fun _ => hdist
  have hlinked := hp.sound.orderly.toLinked
  obtain ⟨⟨d, displaced⟩, hd⟩ := Document.placeAttribute_of_canHold hp.isElement hx hroot
  obtain ⟨hr, -, -, hdisplaced⟩ := Document.relinked_placeAttribute hlinked hd
  have hplaced : placeAll t.2 h [x] = d := by
    rw [placeAll, List.foldl_cons, hd]
    rfl
  -- no attribute that is there has the name, so none loses its place
  obtain rfl : displaced = none := by
    rw [hdisplaced, ← Option.not_isSome_iff_eq_none]
    intro hsome
    obtain ⟨y, hy⟩ := Option.isSome_iff_exists.mp hsome
    obtain ⟨hmem, hsame⟩ := Document.mem_of_attribute?_eq_some hy
    obtain ⟨i, hi, -, hn⟩ := hp.declared y hmem
    exact hdist i hi ((hn.trans hsame).trans hname)
  have hvalue := Document.value_placeAttribute hlinked hd
  have hshow : t.1.attributeAt d = t.1.attributeAt t.2 := by
    funext a
    rw [attributeAt, attributeAt, hr.name, hvalue]
  have helements : ∀ k, (d.elements k).map d.name = (t.2.elements k).map t.2.name := by
    intro k
    rw [Document.elements_congr (Document.children_placeAttribute hd k) fun y _ => hr.kind? y]
    exact List.map_congr_left fun y _ => hr.name y
  rw [hplaced] at hf ⊢
  refine ⟨hf, fun k hn hne hk => ?_, (helements h).trans hp.inside, ?_⟩
  · obtain ⟨i, hi⟩ := hp.complete k hn hne ((Document.isElement_congr (hr.kind? k)).symm.trans hk)
    refine ⟨i, hi.congr rfl rfl (hr.name k) (helements k) ?_⟩
    rw [hshow, hr.attributes k hne]
  · show (d.attributes h).map (t.1.attributeAt d) = _
    rw [hshow, Document.attributes_placeAttribute hd, List.map_append, hp.given,
      List.filter_append, List.map_append, List.filter_cons_of_pos hcomes]
    exact congrArg _ (congrArg (fun a => [a]) hgiven)

/-- An attribute that does not come along is not asked for. -/
theorem skip (hp : Completing s h name [] names attrs t)
    (hcomes : t.1.model.comesAlong c = false) :
    Completing s h name [] names (attrs ++ [c]) t where
  toFurnishing := hp.toFurnishing.declare c
  complete := hp.complete
  inside := hp.inside
  given := by
    rw [List.filter_append, List.filter_cons_of_neg (by simp [hcomes]), List.filter_nil,
      List.append_nil]
    exact hp.given

/-- Once the element is bound to a constraint of its name, whose content has the names as a word and
which declares the attributes, it is complete. -/
theorem close (hp : Completing s h name [] names (t.1.model.attributes c) t)
    (hk : t.1.model.kind? c = some .element) (hname : name = t.1.model.name c)
    (hwords : t.1.model.Words (t.1.model.children c) names) :
    Completed s [name] ((t.1.bindNode t.2 h c, t.2), [h]) where
  toFurnished := hp.toFurnishing.close hk hname
  elements := fun x hx => List.mem_singleton.mp hx ▸ hp.isElement
  complete := by
    intro k hn hel
    -- the element belongs to no parent, so it is no attribute of another one
    have hlists : (t.2.attributes k).map ((t.1.bindNode t.2 h c).attributeAt t.2) =
        (t.2.attributes k).map (t.1.attributeAt t.2) := by
      refine List.map_congr_left fun a ha => ?_
      have hne : a ≠ h := by
        rintro rfl
        have hpar := hp.sound.orderly.parent?_of_mem (Document.mem_inside.mpr (Or.inl ha))
        rw [hp.parent?] at hpar
        simp at hpar
      rw [attributeAt, attributeAt, binding?_bindNode, if_neg hne]
    by_cases hkh : k = h
    · subst hkh
      refine ⟨c, (binding?_bindNode ..).trans (if_pos rfl), hk, hp.named.trans hname, ?_, ?_⟩
      · show t.1.model.Words _ ((t.2.elements k).map t.2.name)
        rw [hp.inside]
        exact hwords
      · exact hlists.trans hp.given
    · obtain ⟨i, hi⟩ := hp.complete k hn hkh hel
      exact ⟨i, hi.congr rfl ((binding?_bindNode ..).trans (if_neg hkh)) rfl rfl hlists⟩
  named := congrArg (fun n => [n]) hp.named

end Completing

/-! ## Creating subtrees -/

section Creating

variable {create : Stage → ConstraintId → Stage × List Handle} {cs : List ConstraintId}
  {e : ContentModel.Entry}

/-- For each of the constraints complete elements are made whose names are a word of it. -/
def MakesComplete (m : ContentModel)
    (create : Stage → ConstraintId → Stage × List Handle) (cs : List ConstraintId) : Prop :=
  ∀ c ∈ cs, ∀ s, Sound s → s.1.model = m →
    ∃ names, m.Word c names ∧ Completed s names (create s c)

/-- For each of the constraints the attribute is made if it comes along. -/
def MakesGiven (m : ContentModel)
    (create : Stage → ConstraintId → Stage × List Handle) (cs : List ConstraintId) : Prop :=
  ∀ c ∈ cs, ∀ s, Sound s → s.1.model = m → Gives m c s (create s c)

/-- The elements for the content are made and get their places. -/
theorem Completing.createChildren (hp : Completing s h name [] names attrs t) (hm : t.1.model = m)
    (hmakes : MakesComplete m create cs) :
    ∃ made, m.Words cs made ∧ Completing s h name [] (names ++ made) attrs
      (createEach create (fun d hs => Workspace.appendAll d h hs) t cs) := by
  unfold createEach
  induction cs generalizing t names with
  | nil =>
    refine ⟨[], .nil, ?_⟩
    rw [List.append_nil]
    exact hp
  | cons c cs ih =>
    obtain ⟨made, hword, hmade⟩ := hmakes c (List.mem_cons_self ..) t hp.sound hm
    have hlt := Document.index_lt_of_contains hp.contains
    have hplaced := (hp.grow hmade.toFurnished hmade.complete).appendAll hmade.nodup fun x hx =>
      ⟨hmade.elements x hx, (hmade.loose x hx).detached,
        Nat.lt_of_lt_of_le hlt (hmade.loose x hx).new⟩
    rw [hmade.named] at hplaced
    obtain ⟨others, hwords, hdone⟩ := ih hplaced (hmade.grows.workspace.model.trans hm)
      fun c' hc' => hmakes c' (List.mem_cons_of_mem _ hc')
    refine ⟨made ++ others, .cons hword hwords, ?_⟩
    rw [List.foldl_cons, ← List.append_assoc]
    exact hdone

/-- An attribute gets its place behind those that are there, if it comes along. -/
theorem Completing.give {r : Stage × List Handle} (hp : Completing s h name [] names attrs t)
    (hmade : Gives t.1.model c t r) (hdist : ∀ i ∈ attrs, t.1.model.name i ≠ t.1.model.name c) :
    Completing s h name [] names (attrs ++ [c]) (r.1.1, Workspace.placeAll r.1.2 h r.2) := by
  have hm : r.1.1.model = t.1.model := hmade.grows.workspace.model
  have hlt := Document.index_lt_of_contains hp.contains
  have hgiven := hmade.given
  have hgrown := hp.grow hmade.toFurnished fun k hn hk => by
    rw [hmade.bare k hn] at hk
    simp at hk
  rw [← hm] at hgiven hdist
  cases hcomes : r.1.1.model.comesAlong c with
  | false =>
    rw [List.filter_cons_of_neg (by simp [hcomes]), List.filter_nil, List.map_nil,
      List.map_eq_nil_iff] at hgiven
    rw [hgiven] at hgrown ⊢
    exact hgrown.skip hcomes
  | true =>
    rw [List.filter_cons_of_pos hcomes, List.filter_nil, List.map_singleton,
      List.map_eq_singleton_iff] at hgiven
    obtain ⟨a, hone, hshow⟩ := hgiven
    have hmem : a ∈ r.2 := by simp [hone]
    have hloose := hmade.loose a hmem
    have hattr := hmade.isAttribute a hmem
    rw [hone] at hgrown ⊢
    exact hgrown.place hattr hloose.detached (Nat.lt_of_lt_of_le hlt hloose.new) hshow hcomes hdist

/-- The attributes that come along are made and get their places, in the order of their
declaration. -/
theorem Completing.createAttributes (hp : Completing s h name [] names attrs t)
    (hm : t.1.model = m) (hmakes : MakesGiven m create cs)
    (hdist : ((attrs ++ cs).map m.name).Nodup) :
    Completing s h name [] names (attrs ++ cs)
      (createEach create (fun d hs => Workspace.placeAll d h hs) t cs) := by
  unfold createEach
  induction cs generalizing t attrs with
  | nil =>
    rw [List.append_nil]
    exact hp
  | cons c cs ih =>
    have hmade := hmakes c (List.mem_cons_self ..) t hp.sound hm
    have happ : attrs ++ c :: cs = (attrs ++ [c]) ++ cs := by simp
    have hplaced := hp.give (hm ▸ hmade) fun i hi => by
      rw [List.map_append, List.map_cons, List.nodup_append] at hdist
      rw [hm]
      exact hdist.2.2 _ (List.mem_map_of_mem hi) _ (List.mem_cons_self ..)
    rw [List.foldl_cons, happ]
    exact ih hplaced (hmade.grows.workspace.model.trans hm)
      (fun c' hc' => hmakes c' (List.mem_cons_of_mem _ hc')) (happ ▸ hdist)

/-- A new element has neither elements inside it nor attributes. -/
theorem completing_push (hs : Sound s) (name : String) :
    Completing s s.2.next name [] [] [] (s.1, (s.2.createElement name).1) := by
  have hnode : (s.2.createElement name).1.node? s.2.next =
      some { kind := .element, name := name } :=
    (Document.node?_push s.2 _ _).trans (if_pos rfl)
  refine ⟨furnishing_push hs name, fun k hn hne hk => ?_, ?_, ?_⟩
  · exact absurd (Document.eq_next_of_contains_push hn (Document.contains_of_isElement hk)) hne
  · have hnil : (s.2.createElement name).1.elements s.2.next = [] := by
      rw [Document.elements, Document.children, hnode]
      rfl
    rw [hnil]
    rfl
  · have hnil : (s.2.createElement name).1.attributes s.2.next = [] := by
      rw [Document.attributes, hnode]
      rfl
    rw [hnil]
    rfl

theorem completed_createElement (hs : Sound s) (hm : s.1.model = m) (he : m.get? c = some e)
    (hk : e.kind = .element) (hchildren : MakesComplete m create e.children)
    (hattributes : MakesGiven m create e.attributes) (hdist : m.AttributesDistinct) :
    Completed s [m.name c]
      ((createElement create s c e).1, [(createElement create s c e).2]) := by
  obtain ⟨w, d⟩ := s
  obtain ⟨shown, hcases, heq⟩ := createElement_cases create w d c e
  have hbegun : Completing (w, d) d.next e.name [] [] [] (w, (d.createElement e.name).1) :=
    completing_push hs e.name
  have hshown : Completing (w, d) d.next e.name [] [] [] (w, shown) := by
    rcases hcases with rfl | ⟨value, rfl⟩
    · exact hbegun
    · exact hbegun.setValue value
  have hkind : m.kind? c = some .element := by rw [ContentModel.kind?, he, ← hk]; rfl
  have hname : m.name c = e.name := by rw [ContentModel.name, he]; rfl
  have hcs : m.children c = e.children := by rw [ContentModel.children, he]; rfl
  have has : m.attributes c = e.attributes := by rw [ContentModel.attributes, he]; rfl
  obtain ⟨names, hwords, hfilled⟩ := hshown.createChildren hm hchildren
  have hdone := hfilled.createAttributes (hfilled.workspace.model.trans hm) hattributes (by
    rw [List.nil_append, ← has]
    exact hdist c hkind)
  have hmodel : (furnish create d.next e (w, shown)).1.model = m :=
    hdone.workspace.model.trans hm
  have hattrs : [] ++ e.attributes = (furnish create d.next e (w, shown)).1.model.attributes c := by
    rw [hmodel, has, List.nil_append]
  rw [heq, hname]
  refine (hattrs ▸ hdone).close ?_ ?_ ?_
  · rw [hmodel, hkind]
  · rw [hmodel, hname]
  · rw [hmodel, hcs, List.nil_append]
    exact hwords

theorem completed_createElements (hs : Sound s) (hm : s.1.model = m)
    (hone : ∀ s, Sound s → s.1.model = m → Completed s [m.name c]
      ((createElement create s c e).1, [(createElement create s c e).2])) (n : Nat) :
    Completed s (List.replicate n (m.name c)) (createElements create c e n s) := by
  induction n generalizing s with
  | zero => exact completed_nothing hs
  | succ n ih =>
    have hfirst := hone s hs hm
    exact hfirst.trans (ih hfirst.grows.sound (hfirst.grows.workspace.model.trans hm))

/-- What has to be there for constraints one after the other has a word of them as names. -/
theorem completed_foldl (hmakes : MakesComplete m create cs) {r : Stage × List Handle}
    (hm : r.1.1.model = m) (hr : Completed s names r) :
    ∃ made, m.Words cs made ∧ Completed s (names ++ made) (cs.foldl (fun acc c =>
      let r := create acc.1 c
      (r.1, acc.2 ++ r.2)) r) := by
  induction cs generalizing r names with
  | nil =>
    refine ⟨[], .nil, ?_⟩
    rw [List.append_nil]
    exact hr
  | cons c cs ih =>
    obtain ⟨made, hword, hmade⟩ := hmakes c (List.mem_cons_self ..) r.1 hr.grows.sound hm
    obtain ⟨others, hwords, hdone⟩ := ih (r := ((create r.1 c).1, r.2 ++ (create r.1 c).2))
      (fun c' hc' => hmakes c' (List.mem_cons_of_mem _ hc'))
      (hmade.grows.workspace.model.trans hm) (hr.trans hmade)
    refine ⟨made ++ others, .cons hword hwords, ?_⟩
    rw [List.foldl_cons, ← List.append_assoc]
    exact hdone

theorem gives_createAttribute (hs : Sound s) (hm : s.1.model = m) (he : m.get? c = some e)
    (hk : e.kind = .attribute) (hcomes : m.comesAlong c = true) :
    Gives m c s ((createAttribute s c e).1, [(createAttribute s c e).2]) := by
  obtain ⟨hmade, hattr, hbound, hname⟩ := furnished_createAttribute True hs hm he hk
  refine ⟨hmade, fun x hx => List.mem_singleton.mp hx ▸ hattr, fun k hn => ?_, ?_⟩
  · by_contra hel
    rw [Bool.not_eq_false] at hel
    have hno := (eq_next_of_createAttribute he hm hn (Document.contains_of_isElement hel)).2.2
    rw [hel] at hno
    simp at hno
  · obtain ⟨w, d⟩ := s
    have hnode : (d.createAttribute e.name (e.preset?.getD "")).1.node? d.next = some
        { kind := .attribute, name := e.name, value := e.preset?.getD "" } :=
      (Document.node?_push d _ _).trans (if_pos rfl)
    have hvalue : (d.createAttribute e.name (e.preset?.getD "")).1.value d.next =
        m.startValue c := by
      rw [Document.value, hnode, ContentModel.startValue, he]
      rfl
    rw [List.filter_cons_of_pos hcomes, List.filter_nil, List.map_singleton, List.map_singleton,
      attributeAt, ContentModel.given, hbound, hname]
    exact congrArg (fun v => [(some c, m.name c, v)]) hvalue

/-- For an attribute that comes along it is made, while there is fuel, and for others nothing. -/
theorem gives_createInside {fuel : Nat} (hk : m.kind? c = some .attribute) (hs : Sound s)
    (hm : s.1.model = m) : Gives m c s (createInside (fuel + 1) s c) := by
  obtain ⟨e, he, hkind⟩ := Option.map_eq_some_iff.mp hk
  have hcomes : m.comesAlong c = (e.use = some .required || e.hasPreset) := by
    rw [ContentModel.comesAlong, he]
    rfl
  rw [createInside, hm, he]
  simp only [hkind]
  split_ifs with hmade
  · exact gives_createAttribute hs hm he hkind (hcomes.trans hmade)
  · refine ⟨furnished_nothing hs, by simp, fun k hn => ?_, ?_⟩
    · by_contra hel
      rw [Bool.not_eq_false] at hel
      exact absurd (Document.index_lt_of_contains (Document.contains_of_isElement hel))
        (Nat.not_lt.mpr hn)
    · rw [List.filter_cons_of_neg (by rwa [hcomes])]
      rfl

/-- What is made for what is inside an element constraint makes the element complete. -/
theorem completed_createElement_of_createInside (hm : m.Built) (hdist : m.AttributesDistinct)
    {fuel : Nat} (hfuel : m.entries.size - c.index ≤ fuel + 1) (he : m.get? c = some e)
    (hk : e.kind = .element) (hinside : MakesComplete m (createInside fuel) (m.children c))
    (hs : Sound s) (hsm : s.1.model = m) :
    Completed s [m.name c] ((createElement (createInside fuel) s c e).1,
      [(createElement (createInside fuel) s c e).2]) := by
  have hcs : m.children c = e.children := by rw [ContentModel.children, he]; rfl
  have has : m.attributes c = e.attributes := by rw [ContentModel.attributes, he]; rfl
  refine completed_createElement hs hsm he hk (hcs ▸ hinside) ?_ hdist
  intro j hj s' hs' hsm'
  -- the attribute came later than its element, so there is fuel left for it
  have hkind := hm.treeShaped.kind?_of_mem_attributes (has ▸ hj)
  have hlater := hm.index_lt_of_mem_attributes (has ▸ hj)
  have hlast := ContentModel.index_lt_of_kind? hkind
  obtain ⟨n, rfl⟩ : ∃ n, fuel = n + 1 := ⟨fuel - 1, by omega⟩
  exact gives_createInside hkind hs' hsm'

/-- With enough fuel, complete elements are made for a constraint whose names are a word of it. -/
theorem makesComplete_createInside (hm : m.Built) (hprod : m.Productive)
    (hdist : m.AttributesDistinct) (fuel : Nat) (hfuel : m.entries.size - c.index ≤ fuel)
    (hk : ∃ kind, m.kind? c = some kind ∧ kind ≠ .attribute) (hs : Sound s) (hsm : s.1.model = m) :
    ∃ names, m.Word c names ∧ Completed s names (createInside fuel s c) := by
  induction fuel generalizing c s with
  | zero =>
    obtain ⟨kind, hkind, -⟩ := hk
    have := ContentModel.index_lt_of_kind? hkind
    omega
  | succ fuel ih =>
    -- what is inside came later, so there is fuel enough for it
    have hinside : MakesComplete m (createInside fuel) (m.children c) := by
      intro c' hc' s' hs' hsm'
      have := hm.treeShaped.index_lt_of_mem hc'
      exact ih (by omega) (hm.treeShaped.kind?_of_mem hc') hs' hsm'
    obtain ⟨kind, hkind, hne⟩ := hk
    obtain ⟨e, he, rfl⟩ := Option.map_eq_some_iff.mp hkind
    have hcs : m.children c = e.children := by rw [ContentModel.children, he]; rfl
    have hoccurs : m.occurs c = e.occurs := by rw [ContentModel.occurs, he]; rfl
    rw [createInside, hsm, he]
    dsimp only
    cases hek : e.kind with
    | «attribute» => exact absurd hek hne
    | element =>
      rw [hek] at hkind
      refine ⟨_, hprod.word_min hkind, ?_⟩
      rw [hoccurs]
      exact completed_createElements hs hsm (fun s' hs' hsm' =>
        completed_createElement_of_createInside hm hdist hfuel he hek hinside hs' hsm') _
    | sequence =>
      rw [hek] at hkind
      rw [hcs] at hinside
      obtain ⟨names, hwords, hdone⟩ := completed_foldl hinside hsm (completed_nothing hs)
      exact ⟨names, .sequence hkind (hcs ▸ hwords), hdone⟩
    | choice =>
      rw [hek] at hkind
      cases hfirst : e.children with
      | nil => exact absurd (hcs.trans hfirst) (hprod.choice_nonempty c hkind)
      | cons first rest =>
        have hmem : first ∈ m.children c := by
          rw [hcs, hfirst]
          exact List.mem_cons_self ..
        obtain ⟨names, hword, hdone⟩ := hinside first hmem s hs hsm
        exact ⟨names, .choice hkind hmem hword, hdone⟩
    | group =>
      rw [hek] at hkind
      exact absurd hkind (hprod.no_group c)

end Creating

/-- An element is created with all elements below it complete. -/
theorem completed_create (hm : w.model.Built) (hprod : w.model.Productive)
    (hdist : w.model.AttributesDistinct) (hs : Sound (w, d))
    (hk : w.model.kind? c = some .element) :
    Completed (w, d) [w.model.name c] ((w.create d c).1, (w.create d c).2.toList) := by
  obtain ⟨e, he, hkind⟩ := Option.map_eq_some_iff.mp hk
  rw [create, he]
  simp only [hkind]
  refine completed_createElement_of_createInside hm hdist (by omega) he hkind ?_ hs rfl
  exact fun c' hc' s' hs' hsm' => makesComplete_createInside hm hprod hdist _ (by omega)
    (hm.treeShaped.kind?_of_mem hc') hs' hsm'

end Workspace

end GuidedXml
