/-
# Attributes that come with their elements

An attribute that is required or has a value given in advance comes with its element; any other one
is added later or not at all.

The main statement says that creation makes attributes that come with their elements and no others,
apart from one that is asked for by itself; and that, where no element declares an attribute twice,
it leaves none of them out.
-/
import GuidedXml.Proofs.Conformance.Labels
import GuidedXml.Proofs.Editing.Building

namespace GuidedXml

open Schema (Constraint ConstraintId ContentModel)

/-- Whether an attribute of the constraint comes with its element. -/
def Schema.Constraint.comesAlong (c : Constraint) : Bool :=
  c.use = some .required || c.hasPreset

/-- What comes along does not come and go freely. -/
theorem Schema.Constraint.isFreeOptional_of_comesAlong {c : Constraint}
    (hc : c.comesAlong = true) : c.isFreeOptional = false := by
  rcases (Bool.or_eq_true _ _).mp hc with huse | hpreset
  · simp [isFreeOptional, of_decide_eq_true huse]
  · simp [isFreeOptional, hpreset]

/-- The attributes of a constraint came later than itself. -/
theorem Schema.ContentModel.Built.index_lt_of_mem_attributes {m : ContentModel} {p j : ConstraintId}
    (hm : m.Built) (hj : j ∈ m.attributes p) : p.index < j.index := by
  induction hm with
  | @ofRoot c _ =>
    obtain ⟨p⟩ := p
    cases p <;> simp [ContentModel.attributes, ContentModel.get?, ContentModel.ofRoot] at hj
  | @add m q c _ hq ih =>
    rw [ContentModel.attributes_add c hq] at hj
    split_ifs at hj with hp
    · rcases List.mem_append.mp hj with hj | hj
      · exact ih hj
      · rw [List.mem_singleton.mp hj, hp.1]
        exact hq
    · exact ih hj
  | @modify m i f _ _ ih =>
    rw [(ContentModel.places_modify f i p).2.2] at hj
    exact ih hj

namespace Workspace

variable {strict : Prop} {m : ContentModel} {s t u : Stage} {w w' : Workspace} {d d' : Document}
  {h k x : Handle} {name : String} {c : ConstraintId} {hs hs' : List Handle}
  {attrs : List ConstraintId}

/-! ## What there is at a node -/

/-- The node is bound as an attribute that comes with its element. -/
def ComesAlong (w : Workspace) (k : Handle) : Prop :=
  ∃ e, w.constraint? k = some e ∧ e.kind = .attribute ∧ e.comesAlong = true

/-- The element has all attributes that come with it. -/
def Carries (w : Workspace) (d : Document) (k : Handle) : Prop :=
  ∀ c i e, w.binding? k = some c → i ∈ w.model.attributes c → w.model.get? i = some e →
    e.comesAlong = true → ∃ a ∈ d.attributes k, w.binding? a = some i

theorem ComesAlong.congr (hk : ComesAlong w k) (hm : w'.model = w.model)
    (hb : w'.binding? k = w.binding? k) : ComesAlong w' k := by
  obtain ⟨e, he, hkind, hcomes⟩ := hk
  refine ⟨e, ?_, hkind, hcomes⟩
  rw [constraint?, hm, hb]
  exact he

theorem Carries.congr (hk : Carries w d k) (hm : w'.model = w.model)
    (hb : w'.binding? k = w.binding? k)
    (ha : ∀ a ∈ d.attributes k, a ∈ d'.attributes k ∧ w'.binding? a = w.binding? a) :
    Carries w' d' k := by
  intro c i e hc hi he hcomes
  rw [hm] at hi he
  obtain ⟨a, hmem, hbound⟩ := hk c i e (hb.symm.trans hc) hi he hcomes
  exact ⟨a, (ha a hmem).1, (ha a hmem).2.trans hbound⟩

/-- What was made from the stage `s` to the stage `t` is provided with attributes: those that come
along, and all of them if `strict`. -/
structure Provided (strict : Prop) (s t : Stage) : Prop where
  grows : Grows s t
  comesAlong : ∀ k, s.2.slots.size ≤ k.index → t.2.isAttribute k = true → ComesAlong t.1 k
  carries : strict → ∀ k, s.2.slots.size ≤ k.index → t.2.isElement k = true → Carries t.1 t.2 k

theorem ComesAlong.grows (hk : ComesAlong s.1 k) (hg : Grows s t)
    (hlt : k.index < s.2.slots.size) : ComesAlong t.1 k :=
  hk.congr hg.workspace.model (hg.workspace.binding? k (by omega))

theorem Carries.grows (hk : Carries s.1 s.2 k) (hg : Grows s t) (hs : s.2.Linked)
    (hlt : k.index < s.2.slots.size) : Carries t.1 t.2 k := by
  have hsame := (Document.lookups_congr (hg.document.node? k hlt)).2.2.2.1
  refine hk.congr hg.workspace.model (hg.workspace.binding? k (by omega)) fun a ha => ?_
  have := Document.index_lt_of_contains
    (hs.contains_of_mem (Document.mem_inside.mpr (Or.inl ha)))
  exact ⟨hsame ▸ ha, hg.workspace.binding? a (by omega)⟩

theorem provided_nothing (hs : Sound s) : Provided strict s s where
  grows := Grows.refl hs
  comesAlong := fun _ hn hk => absurd (Document.index_lt_of_contains
    (contains_of_kinds (Or.inr hk))) (Nat.not_lt.mpr hn)
  carries := fun _ _ hn hk => absurd (Document.index_lt_of_contains
    (Document.contains_of_isElement hk)) (Nat.not_lt.mpr hn)

theorem Provided.trans (h₁ : Provided strict s t) (h₂ : Provided strict t u) :
    Provided strict s u where
  grows := h₁.grows.trans h₂.grows
  comesAlong := by
    intro k hn hk
    by_cases hlt : k.index < t.2.slots.size
    · rw [Document.isAttribute_congr
        (Document.lookups_congr (h₂.grows.document.node? k hlt)).1] at hk
      exact (h₁.comesAlong k hn hk).grows h₂.grows hlt
    · exact h₂.comesAlong k (Nat.not_lt.mp hlt) hk
  carries := by
    intro hst k hn hk
    by_cases hlt : k.index < t.2.slots.size
    · rw [Document.isElement_congr
        (Document.lookups_congr (h₂.grows.document.node? k hlt)).1] at hk
      exact (h₁.carries hst k hn hk).grows h₂.grows h₁.grows.sound.orderly.toLinked hlt
    · exact h₂.carries hst k (Nat.not_lt.mp hlt) hk

/-! ## Providing for an element -/

/-- The element `h` is being provided for and not bound yet, and the nodes `hs` wait for their places
in it. It has attributes for those of `attrs` that come along. -/
structure Providing (strict : Prop) (s : Stage) (h : Handle) (name : String) (hs : List Handle)
    (attrs : List ConstraintId) (t : Stage) : Prop
    extends Furnishing strict s h name hs attrs t where
  comesAlong : ∀ k, s.2.slots.size ≤ k.index → t.2.isAttribute k = true → ComesAlong t.1 k
  carries : strict → ∀ k, s.2.slots.size ≤ k.index → k ≠ h → t.2.isElement k = true →
    Carries t.1 t.2 k
  carried : strict → ∀ i ∈ attrs, ∀ e, t.1.model.get? i = some e → e.comesAlong = true →
    ∃ a ∈ t.2.attributes h, t.1.binding? a = some i

namespace Providing

/-- The document may change where no attribute is concerned. -/
theorem congr (hp : Providing strict s h name hs attrs t)
    (hf : Furnishing strict s h name hs' attrs (t.1, d))
    (hattr : ∀ k, d.isAttribute k = true → t.2.isAttribute k = true)
    (helem : ∀ k, d.isElement k = true → t.2.isElement k = true)
    (hlist : ∀ k, t.2.contains k = true → d.attributes k = t.2.attributes k) :
    Providing strict s h name hs' attrs (t.1, d) where
  toFurnishing := hf
  comesAlong := fun k hn hk => hp.comesAlong k hn (hattr k hk)
  carries := by
    intro hst k hn hne hk
    refine (hp.carries hst k hn hne (helem k hk)).congr rfl rfl fun a ha => ⟨?_, rfl⟩
    rwa [hlist k (Document.contains_of_isElement (helem k hk))]
  carried := by
    intro hst i hi e he hcomes
    obtain ⟨a, ha, hb⟩ := hp.carried hst i hi e he hcomes
    exact ⟨a, (hlist h hp.contains).symm ▸ ha, hb⟩

/-- Nodes are made that wait for their places in the element, provided with attributes
themselves. -/
theorem grow {r : Stage × List Handle} (hp : Providing strict s h name [] attrs t)
    (hr : Furnished strict t r) (hu : Provided strict t r.1) :
    Providing strict s h name r.2 attrs r.1 where
  toFurnishing := hp.toFurnishing.grow hr
  comesAlong := by
    intro k hn hk
    by_cases hlt : k.index < t.2.slots.size
    · rw [Document.isAttribute_congr
        (Document.lookups_congr (hu.grows.document.node? k hlt)).1] at hk
      exact (hp.comesAlong k hn hk).grows hu.grows hlt
    · exact hu.comesAlong k (Nat.not_lt.mp hlt) hk
  carries := by
    intro hst k hn hne hk
    by_cases hlt : k.index < t.2.slots.size
    · rw [Document.isElement_congr
        (Document.lookups_congr (hu.grows.document.node? k hlt)).1] at hk
      exact (hp.carries hst k hn hne hk).grows hu.grows hp.sound.orderly.toLinked hlt
    · exact hu.carries hst k (Nat.not_lt.mp hlt) hk
  carried := by
    intro hst i hi e he hcomes
    rw [hu.grows.workspace.model] at he
    obtain ⟨a, ha, hb⟩ := hp.carried hst i hi e he hcomes
    have := Document.index_lt_of_contains
      (hp.sound.orderly.contains_of_mem (Document.mem_inside.mpr (Or.inl ha)))
    refine ⟨a, ?_, (hu.grows.workspace.binding? a (by omega)).trans hb⟩
    rw [(hu.grows.document.lookups hp.contains).2.2.2.1]
    exact ha

theorem appendAll (hp : Providing strict s h name hs attrs t) (hnd : hs.Nodup)
    (hhs : ∀ x ∈ hs, t.2.isElement x = true ∧ t.2.parent? x = none ∧ h.index < x.index) :
    Providing strict s h name [] attrs (t.1, appendAll t.2 h hs) := by
  have hkeep : ∀ (d : Document) k, (Workspace.appendAll d h hs).kind? k = d.kind? k ∧
      (Workspace.appendAll d h hs).attributes k = d.attributes k := by
    intro d k
    unfold Workspace.appendAll
    clear hnd hhs hp
    induction hs generalizing d with
    | nil => exact ⟨rfl, rfl⟩
    | cons x hs ih =>
      rw [List.foldl_cons]
      obtain ⟨hkind, hattr⟩ := ih (keepOr d (d.append h x))
      cases ha : d.append h x with
      | error fault =>
        rw [ha] at hkind hattr
        exact ⟨hkind, hattr⟩
      | ok d' =>
        rw [ha] at hkind hattr
        exact ⟨hkind.trans (Document.kind?_append ha k),
          hattr.trans (Document.attributes_append ha k)⟩
  exact hp.congr (hp.toFurnishing.appendAll hnd hhs)
    (fun k hk => (Document.isAttribute_congr (hkeep t.2 k).1).symm.trans hk)
    (fun k hk => (Document.isElement_congr (hkeep t.2 k).1).symm.trans hk)
    fun k _ => (hkeep t.2 k).2

/-- The element may show another text. -/
theorem setValue (hp : Providing strict s h name [] attrs t) (value : String) :
    Providing strict s h name [] attrs (t.1, keepOr t.2 (t.2.setValue h value)) := by
  have hf := hp.toFurnishing.setValue value
  cases hset : t.2.setValue h value with
  | error fault => exact hp
  | ok d =>
    rw [hset] at hf
    have hstays : ∀ k, d.isText k = false → d.contains k = true →
        d.kind? k = t.2.kind? k := by
      intro k hk hc
      rcases Document.stays_or_isText_of_setValue hp.sound.orderly hset hc with
        ⟨-, hkind, -⟩ | ⟨-, htext, -⟩
      · exact hkind
      · rw [hk] at htext
        simp at htext
    refine hp.congr hf (fun k hk => ?_) (fun k hk => ?_)
      fun k hk => Document.attributes_setValue hset hk
    · refine (Document.isAttribute_congr (hstays k ?_ ?_)).symm.trans hk
      · exact not_isText_of_kinds (Or.inr hk)
      · exact contains_of_kinds (Or.inr hk)
    · refine (Document.isElement_congr (hstays k ?_ ?_)).symm.trans hk
      · exact not_isText_of_kinds (Or.inl hk)
      · exact Document.contains_of_isElement hk

/-- An attribute gets its place. -/
theorem place (hp : Providing strict s h name [x] attrs t) (hx : t.2.isAttribute x = true)
    (hroot : t.2.parent? x = none) (hlt : h.index < x.index) (hbound : t.1.binding? x = some c)
    (hname : t.2.name x = t.1.model.name c)
    (hdist : strict → ∀ i ∈ attrs, t.1.model.name i ≠ t.1.model.name c) :
    Providing strict s h name [] (attrs ++ [c]) (t.1, placeAll t.2 h [x]) := by
  have hf := hp.toFurnishing.place hx hroot hlt hbound hname hdist
  obtain ⟨⟨d, displaced⟩, hd⟩ := Document.placeAttribute_of_canHold hp.isElement hx hroot
  obtain ⟨hr, -, -, hdisplaced⟩ := Document.relinked_placeAttribute hp.sound.orderly.toLinked hd
  have hplaced : placeAll t.2 h [x] = d := by
    rw [placeAll, List.foldl_cons, hd]
    rfl
  -- attributes of other names lose no place
  have hkept : strict → displaced = none := by
    intro hst
    rw [hdisplaced, ← Option.not_isSome_iff_eq_none]
    intro hsome
    obtain ⟨y, hy⟩ := Option.isSome_iff_exists.mp hsome
    obtain ⟨hmem, hsame⟩ := Document.mem_of_attribute?_eq_some hy
    obtain ⟨i, hi, -, hn⟩ := hp.declared y hmem
    exact hdist hst i hi ((hn.trans hsame).trans hname)
  rw [hplaced] at hf ⊢
  refine ⟨hf, fun k hn hk => ?_, fun hst k hn hne hk => ?_, fun hst i hi e he hcomes => ?_⟩
  · exact hp.comesAlong k hn ((Document.isAttribute_congr (hr.kind? k)).symm.trans hk)
  · refine (hp.carries hst k hn hne
      ((Document.isElement_congr (hr.kind? k)).symm.trans hk)).congr rfl rfl fun a ha => ⟨?_, rfl⟩
    rwa [hr.attributes k hne]
  · show ∃ a ∈ d.attributes h, t.1.binding? a = some i
    rcases List.mem_append.mp hi with hi | hi
    · obtain ⟨a, ha, hb⟩ := hp.carried hst i hi e he hcomes
      refine ⟨a, (hr.mem_attributes a).mpr (Or.inr ⟨ha, ?_⟩), hb⟩
      simp [hkept hst]
    · rw [List.mem_singleton.mp hi]
      exact ⟨x, (hr.mem_attributes x).mpr (Or.inl ⟨rfl, hx⟩), hbound⟩

/-- Once it is bound to a constraint that declares the attributes, the element is provided for. -/
theorem close (hp : Providing strict s h name [] (t.1.model.attributes c) t) :
    Provided strict s (t.1.bindNode t.2 h c, t.2) where
  grows := hp.toGrows.bindNode hp.loose c
  comesAlong := by
    intro k hn hk
    refine (hp.comesAlong k hn hk).congr rfl ((binding?_bindNode t.1 t.2 h k c).trans (if_neg ?_))
    rintro rfl
    replace hk : t.2.isAttribute k = true := hk
    rw [Document.not_isAttribute_of_isElement hp.isElement] at hk
    simp at hk
  carries := by
    intro hst k hn hk
    -- the element belongs to no parent, so it is no attribute of another one
    have hbind : ∀ a p, a ∈ t.2.attributes p →
        (t.1.bindNode t.2 h c).binding? a = t.1.binding? a := by
      intro a p ha
      refine (binding?_bindNode t.1 t.2 h a c).trans (if_neg ?_)
      rintro rfl
      have hpar := hp.sound.orderly.parent?_of_mem (Document.mem_inside.mpr (Or.inl ha))
      rw [hp.parent?] at hpar
      simp at hpar
    by_cases hkh : k = h
    · subst hkh
      intro c' i e hc' hi he hcomes
      obtain rfl : c = c' :=
        Option.some.inj (((binding?_bindNode t.1 t.2 k k c).trans (if_pos rfl)).symm.trans hc')
      obtain ⟨a, ha, hb⟩ := hp.carried hst i hi e he hcomes
      exact ⟨a, ha, (hbind a k ha).trans hb⟩
    · exact (hp.carries hst k hn hkh hk).congr rfl
        ((binding?_bindNode t.1 t.2 h k c).trans (if_neg hkh)) fun a ha => ⟨ha, hbind a k ha⟩

end Providing

/-! ## Creating subtrees -/

section Creating

variable {create : Stage → ConstraintId → Stage × List Handle} {cs : List ConstraintId}
  {e : ContentModel.Entry}

/-- What is made for each of the constraints is provided with attributes. -/
def MakesProvided (strict : Prop) (m : ContentModel)
    (create : Stage → ConstraintId → Stage × List Handle) (cs : List ConstraintId) : Prop :=
  ∀ c ∈ cs, ∀ s, Sound s → s.1.model = m → Provided strict s (create s c).1

/-- For each of the constraints that come along something is made. -/
def MakesAlong (m : ContentModel)
    (create : Stage → ConstraintId → Stage × List Handle) (cs : List ConstraintId) : Prop :=
  ∀ c ∈ cs, ∀ s, s.1.model = m → ∀ e, m.get? c = some e → e.comesAlong = true →
    (create s c).2 ≠ []

theorem Providing.createChildren (hp : Providing strict s h name [] attrs t) (hm : t.1.model = m)
    (hmakes : MakesElementsOf strict m create cs) (hprovides : MakesProvided strict m create cs) :
    Providing strict s h name [] attrs
      (createEach create (fun d hs => Workspace.appendAll d h hs) t cs) := by
  unfold createEach
  induction cs generalizing t with
  | nil => exact hp
  | cons c cs ih =>
    obtain ⟨hmade, helements⟩ := hmakes c (List.mem_cons_self ..) t hp.sound hm
    have hprovided := hprovides c (List.mem_cons_self ..) t hp.sound hm
    have hlt := Document.index_lt_of_contains hp.contains
    have hplaced := (hp.grow hmade hprovided).appendAll hmade.nodup fun x hx =>
      ⟨helements x hx, (hmade.loose x hx).detached, Nat.lt_of_lt_of_le hlt (hmade.loose x hx).new⟩
    rw [List.foldl_cons]
    exact ih hplaced (hmade.grows.workspace.model.trans hm)
      (fun c' hc' => hmakes c' (List.mem_cons_of_mem _ hc'))
      fun c' hc' => hprovides c' (List.mem_cons_of_mem _ hc')

theorem Providing.createAttributes (hp : Providing strict s h name [] attrs t)
    (hm : t.1.model = m) (hmakes : MakesAttributesOf strict m create cs)
    (hprovides : MakesProvided strict m create cs) (halong : strict → MakesAlong m create cs)
    (hdist : strict → ((attrs ++ cs).map m.name).Nodup) :
    Providing strict s h name [] (attrs ++ cs)
      (createEach create (fun d hs => Workspace.placeAll d h hs) t cs) := by
  unfold createEach
  induction cs generalizing t attrs with
  | nil =>
    rw [List.append_nil]
    exact hp
  | cons c cs ih =>
    obtain ⟨hmade, hcases⟩ := hmakes c (List.mem_cons_self ..) t hp.sound hm
    have hm' : (create t c).1.1.model = m := hmade.grows.workspace.model.trans hm
    have hgrown := hp.grow hmade (hprovides c (List.mem_cons_self ..) t hp.sound hm)
    have hlt := Document.index_lt_of_contains hp.contains
    have happ : attrs ++ c :: cs = (attrs ++ [c]) ++ cs := by simp
    -- what is made for one constraint is placed before the next one is created
    have hplaced : Providing strict s h name [] (attrs ++ [c])
        ((create t c).1.1, Workspace.placeAll (create t c).1.2 h (create t c).2) := by
      rcases hcases with hnil | ⟨a, hone, hattr, hbound, hname⟩
      · -- nothing was made, so the attribute does not come along
        rw [hnil] at hgrown ⊢
        refine ⟨⟨hgrown.toRaises, hgrown.rooted, hgrown.labelled, hgrown.declares, ?_⟩,
          hgrown.comesAlong, hgrown.carries, fun hst i hi e he hcomes => ?_⟩
        · intro a ha
          obtain ⟨i, hi, hb⟩ := hgrown.declared a ha
          exact ⟨i, List.mem_append_left _ hi, hb⟩
        · rcases List.mem_append.mp hi with hi | hi
          · exact hgrown.carried hst i hi e he hcomes
          · obtain rfl := List.mem_singleton.mp hi
            exact absurd hnil (halong hst i (List.mem_cons_self ..) t hm e (hm' ▸ he) hcomes)
      · have hloose := hmade.loose a (by simp [hone])
        rw [hone] at hgrown ⊢
        refine hgrown.place hattr hloose.detached (Nat.lt_of_lt_of_le hlt hloose.new) hbound ?_ ?_
        · rw [hname, hm']
        · intro hst i hi
          have hnd := hdist hst
          rw [List.map_append, List.map_cons, List.nodup_append] at hnd
          rw [hm']
          exact hnd.2.2 _ (List.mem_map_of_mem hi) _ (List.mem_cons_self ..)
    rw [List.foldl_cons, happ]
    exact ih hplaced hm' (fun c' hc' => hmakes c' (List.mem_cons_of_mem _ hc'))
      (fun c' hc' => hprovides c' (List.mem_cons_of_mem _ hc'))
      (fun hst c' hc' => halong hst c' (List.mem_cons_of_mem _ hc')) (happ ▸ hdist)

theorem providing_push (hs : Sound s) (name : String) :
    Providing strict s s.2.next name [] [] (s.1, (s.2.createElement name).1) := by
  have hnew : ∀ k, s.2.slots.size ≤ k.index → (s.2.createElement name).1.contains k = true →
      k = s.2.next := fun k hn hc => Document.eq_next_of_contains_push hn hc
  have hraise := raises_push hs name
  refine ⟨furnishing_push hs name, fun k hn hk => ?_, fun _ k hn hne hk => ?_, nofun⟩
  · have hk' : (s.2.createElement name).1.isAttribute s.2.next = true :=
      hnew k hn (contains_of_kinds (Or.inr hk)) ▸ hk
    rw [Document.not_isAttribute_of_isElement hraise.isElement] at hk'
    simp at hk'
  · exact absurd (hnew k hn (Document.contains_of_isElement hk)) hne

theorem provided_createElement (hs : Sound s) (hm : s.1.model = m) (he : m.get? c = some e)
    (hk : e.kind = .element) (hchildren : MakesElementsOf strict m create e.children)
    (hattributes : MakesAttributesOf strict m create e.attributes)
    (hprovides : MakesProvided strict m create (e.children ++ e.attributes))
    (halong : strict → MakesAlong m create e.attributes)
    (hdist : strict → m.AttributesDistinct) :
    Provided strict s (createElement create s c e).1 := by
  obtain ⟨w, d⟩ := s
  obtain ⟨shown, hcases, heq⟩ := createElement_cases create w d c e
  have hbegun : Providing strict (w, d) d.next e.name [] [] (w, (d.createElement e.name).1) :=
    providing_push hs e.name
  have hshown : Providing strict (w, d) d.next e.name [] [] (w, shown) := by
    rcases hcases with rfl | ⟨value, rfl⟩
    · exact hbegun
    · exact hbegun.setValue value
  have hkind : m.kind? c = some .element := by rw [ContentModel.kind?, he, ← hk]; rfl
  have has : m.attributes c = e.attributes := by rw [ContentModel.attributes, he]; rfl
  have hfilled := hshown.createChildren hm hchildren
    fun c' hc' => hprovides c' (List.mem_append_left _ hc')
  have hfurnished := hfilled.createAttributes (hfilled.workspace.model.trans hm) hattributes
    (fun c' hc' => hprovides c' (List.mem_append_right _ hc')) halong fun hst => by
      rw [List.nil_append, ← has]
      exact hdist hst c hkind
  have hmodel : (furnish create d.next e (w, shown)).1.model = m :=
    hfurnished.workspace.model.trans hm
  have hattrs : [] ++ e.attributes = (furnish create d.next e (w, shown)).1.model.attributes c := by
    rw [hmodel, has, List.nil_append]
  rw [heq]
  exact (hattrs ▸ hfurnished).close

theorem provided_createElements (hs : Sound s) (hm : s.1.model = m)
    (hone : ∀ s, Sound s → s.1.model = m → Provided strict s (createElement create s c e).1)
    (n : Nat) : Provided strict s (createElements create c e n s).1 := by
  induction n generalizing s with
  | zero => exact provided_nothing hs
  | succ n ih =>
    have hfirst := hone s hs hm
    rw [createElements]
    exact hfirst.trans (ih hfirst.grows.sound (hfirst.grows.workspace.model.trans hm))

/-- An attribute that is created is the only new node. -/
theorem eq_next_of_createAttribute (he : m.get? c = some e) (hm : s.1.model = m)
    (hn : s.2.slots.size ≤ k.index) (hk : (createAttribute s c e).1.2.contains k = true) :
    k = s.2.next ∧ (createAttribute s c e).1.1.constraint? k = some e ∧
      (createAttribute s c e).1.2.isElement k = false := by
  obtain ⟨w, d⟩ := s
  obtain rfl : k = d.next := Document.eq_next_of_contains_push hn hk
  refine ⟨rfl, ?_, ?_⟩
  · have hb : (createAttribute (w, d) c e).1.1.binding? d.next = some c :=
      (binding?_bindNode w _ d.next d.next c).trans (if_pos rfl)
    rw [constraint?, hb, ← he, ← hm]
    rfl
  · have hnode : (d.createAttribute e.name (e.preset?.getD "")).1.node? d.next = some
        { kind := .attribute, name := e.name, value := e.preset?.getD "" } :=
      (Document.node?_push d _ _).trans (if_pos rfl)
    show (d.createAttribute e.name (e.preset?.getD "")).1.isElement d.next = false
    rw [Document.isElement, Document.kind?, hnode]
    rfl

theorem provided_createAttribute (hs : Sound s) (he : m.get? c = some e) (hm : s.1.model = m)
    (hk : e.kind = .attribute) (hcomes : e.comesAlong = true) :
    Provided strict s (createAttribute s c e).1 where
  grows := (createAttribute_loose hs c e).1
  comesAlong := by
    intro k hn hattr
    obtain ⟨-, hc, -⟩ := eq_next_of_createAttribute he hm hn (contains_of_kinds (Or.inr hattr))
    exact ⟨e, hc, hk, hcomes⟩
  carries := by
    intro _ k hn hel
    obtain ⟨-, -, hno⟩ := eq_next_of_createAttribute he hm hn (contains_of_kinds (Or.inl hel))
    rw [hno] at hel
    simp at hel

theorem provided_foldl (hprovides : MakesProvided strict m create cs) {r : Stage × List Handle}
    (hm : r.1.1.model = m) (hr : Provided strict s r.1) :
    Provided strict s (cs.foldl (fun acc c =>
      let r := create acc.1 c
      (r.1, acc.2 ++ r.2)) r).1 := by
  induction cs generalizing r with
  | nil => exact hr
  | cons c cs ih =>
    have hone := hprovides c (List.mem_cons_self ..) r.1 hr.grows.sound hm
    exact ih (r := ((create r.1 c).1, r.2 ++ (create r.1 c).2))
      (fun c' hc' => hprovides c' (List.mem_cons_of_mem _ hc'))
      (hone.grows.workspace.model.trans hm) (hr.trans hone)

/-- While there is fuel, what comes along is made. -/
theorem makesAlong_createInside {fuel : Nat} (hfuel : 0 < fuel)
    (hk : ∀ c ∈ cs, m.kind? c = some .attribute) : MakesAlong m (createInside fuel) cs := by
  intro c hc s hm e he hcomes
  have hkind : e.kind = .attribute := by
    have hkind := hk c hc
    rw [ContentModel.kind?, he] at hkind
    exact Option.some.inj hkind
  obtain ⟨fuel, rfl⟩ : ∃ n, fuel = n + 1 := ⟨fuel - 1, by omega⟩
  rw [createInside, hm, he]
  simp only [hkind]
  rw [if_pos (show (decide (e.use = some .required) || e.hasPreset) = true from hcomes)]
  exact List.cons_ne_nil _ _

/-- What is made for what is inside an element constraint, and for its attributes, makes the
element. -/
theorem provided_createElement_of_createInside (hm : m.Built)
    (hdist : strict → m.AttributesDistinct) {fuel : Nat}
    (hfuel : strict → m.entries.size - c.index ≤ fuel + 1) (he : m.get? c = some e)
    (hk : e.kind = .element)
    (hinside : MakesProvided strict m (createInside fuel) (m.children c ++ m.attributes c))
    (hs : Sound s) (hsm : s.1.model = m) :
    Provided strict s (createElement (createInside fuel) s c e).1 := by
  have htree := hm.treeShaped
  have hcs : m.children c = e.children := by rw [ContentModel.children, he]; rfl
  have has : m.attributes c = e.attributes := by rw [ContentModel.attributes, he]; rfl
  rw [hcs, has] at hinside
  refine provided_createElement hs hsm he hk
    (hcs ▸ makesElementsOf_children htree hdist fuel c)
    (has ▸ makesAttributesOf_attributes htree hdist fuel c) hinside ?_ hdist
  intro hst i hi s' hm' e' he' hcomes
  -- the attribute came later than its element, so there is fuel left for it
  have hlater := hm.index_lt_of_mem_attributes (has ▸ hi)
  have hlast := ContentModel.index_lt_of_kind? (htree.kind?_of_mem_attributes (has ▸ hi))
  have hsome := hfuel hst
  refine makesAlong_createInside (by omega) (fun c' hc' => ?_) i hi s' hm' e' he' hcomes
  exact htree.kind?_of_mem_attributes (has ▸ hc')

theorem provided_createInside (hm : m.Built) (hdist : strict → m.AttributesDistinct) (fuel : Nat)
    (hfuel : strict → m.entries.size - c.index ≤ fuel) (hs : Sound s) (hsm : s.1.model = m) :
    Provided strict s (createInside fuel s c).1 := by
  induction fuel generalizing c s with
  | zero => exact provided_nothing hs
  | succ fuel ih =>
    have htree := hm.treeShaped
    have hinside : MakesProvided strict m (createInside fuel) (m.children c ++ m.attributes c) := by
      intro c' hc' s' hs' hsm'
      refine ih (fun hst => ?_) hs' hsm'
      have := hfuel hst
      rcases List.mem_append.mp hc' with hc' | hc'
      · have := htree.index_lt_of_mem hc'
        omega
      · have := hm.index_lt_of_mem_attributes hc'
        omega
    rw [createInside, hsm]
    cases he : m.get? c with
    | none => exact provided_nothing hs
    | some e =>
      have hcs : m.children c = e.children := by rw [ContentModel.children, he]; rfl
      dsimp only
      cases hek : e.kind with
      | «attribute» =>
        dsimp only
        split_ifs with hcomes
        · exact provided_createAttribute hs he hsm hek hcomes
        · exact provided_nothing hs
      | element =>
        exact provided_createElements hs hsm (fun s' hs' hsm' =>
          provided_createElement_of_createInside hm hdist hfuel he hek hinside hs' hsm') _
      | sequence =>
        rw [hcs] at hinside
        exact provided_foldl (fun c' hc' => hinside c' (List.mem_append_left _ hc')) hsm
          (provided_nothing hs)
      | choice =>
        cases hfirst : e.children with
        | nil => exact provided_nothing hs
        | cons first rest =>
          refine hinside first (List.mem_append_left _ ?_) s hs hsm
          rw [hcs, hfirst]
          exact List.mem_cons_self ..
      | group => exact provided_nothing hs

end Creating

/-! ## Created subtrees -/

/-- An element is created with the attributes that come along, at itself and at all elements below
it. -/
theorem provided_create (hm : w.model.Built) (hdist : strict → w.model.AttributesDistinct)
    (hs : Sound (w, d)) (hk : w.model.kind? c ≠ some .attribute) :
    Provided strict (w, d) (w.create d c).1 := by
  unfold create
  cases he : w.model.get? c with
  | none => exact provided_nothing hs
  | some e =>
    rw [ContentModel.kind?, he] at hk
    dsimp only
    cases hek : e.kind with
    | element =>
      refine provided_createElement_of_createInside hm hdist (fun _ => by omega) he hek ?_ hs rfl
      exact fun c' _ s' hs' hsm' =>
        provided_createInside hm hdist _ (fun _ => by omega) hs' hsm'
    | «attribute» => exact absurd (congrArg some hek) hk
    | sequence => exact provided_nothing hs
    | choice => exact provided_nothing hs
    | group => exact provided_nothing hs

/-- An attribute that is created by itself is the only new node. -/
theorem eq_next_of_create_attribute (hk : w.model.kind? c = some .attribute)
    (hn : d.slots.size ≤ k.index) (hc : (w.create d c).1.2.contains k = true) :
    k = d.next ∧ (w.create d c).1.1.constraint? k = w.model.get? c ∧
      (w.create d c).1.2.isElement k = false := by
  unfold create at hc ⊢
  cases he : w.model.get? c with
  | none =>
    rw [ContentModel.kind?, he] at hk
    simp at hk
  | some e =>
    rw [ContentModel.kind?, he] at hk
    have hek : e.kind = .attribute := Option.some.inj hk
    rw [he] at hc
    simp only [hek] at hc ⊢
    exact eq_next_of_createAttribute (m := w.model) he rfl hn hc

end Workspace

end GuidedXml
