/-
# Conforming creation

A new element is filled with what is created for the constraints inside its own, and then bound. In
a flat and unambiguous content model all of it conforms, as long as the choices are excused of which
the first alternative need not be there.

The main statements say what filling keeps, and that every element created is a good one.
-/
import GuidedXml.Proofs.Conformance.Demand
import GuidedXml.Proofs.Conformance.Seats
import GuidedXml.Proofs.Document.Replacement

namespace GuidedXml

open Schema (ConstraintId ContentModel)
open Schema.ContentModel (Excuse)

/-! ## Filling an element -/

namespace Workspace

variable {excuse : Excuse} {s t t' : Stage} {h k x : Handle} {name : String}
  {js : List ConstraintId} {attrs : List ConstraintId} {c j : ConstraintId} {hs : List Handle}

/-- All elements that came after the first `n` nodes are good, `h` aside. -/
def GoodFrom (excuse : Excuse) (n : Nat) (h : Handle) (t : Stage) : Prop :=
  ∀ k, n ≤ k.index → k ≠ h → t.2.isElement k = true → t.1.IsGood excuse t.2 k

/-- The element `h` is being filled: the elements inside it are bound to `js` so far, and its
attributes have names of `attrs`. -/
structure Filling (excuse : Excuse) (s : Stage) (h : Handle) (name : String)
    (js attrs : List ConstraintId) (t : Stage) : Prop extends Raises s h name t where
  good : GoodFrom excuse s.2.slots.size h t
  elements : (t.2.elements h).map t.1.binding? = js.map some
  attributes : ∀ a ∈ t.2.attributes h, ∃ i ∈ attrs, t.1.model.name i = t.2.name a

/-- Moving nodes into the element or out of it leaves the other elements good. -/
theorem GoodFrom.relinked {n : Nat} (hg : GoodFrom excuse n h t) {d : Document}
    {taken given : Option Handle} (hr : t.2.Relinked d h taken given) :
    GoodFrom excuse n h (t.1, d) := by
  intro k hn hk he
  replace he : d.isElement k = true := he
  rw [Document.isElement_congr (hr.kind? k)] at he
  exact (hg k hn hk he).kept (hr.kept hk) rfl rfl rfl fun _ _ => rfl

/-- Names show in bindings if every node has the name of its constraint. -/
theorem map_name_of_binding {w : Workspace} {d : Document}
    (hb : hs.map w.binding? = js.map some)
    (hname : ∀ x ∈ hs, ∃ j, w.binding? x = some j ∧ d.name x = w.model.name j) :
    hs.map d.name = js.map w.model.name := by
  induction hs generalizing js with
  | nil =>
    obtain rfl : js = [] := by simpa using hb.symm
    rfl
  | cons x hs ih =>
    cases js with
    | nil => simp at hb
    | cons j js =>
      rw [List.map_cons, List.map_cons, List.cons.injEq] at hb
      obtain ⟨i, hi, hn⟩ := hname x (List.mem_cons_self ..)
      obtain rfl := Option.some.inj (hb.1.symm.trans hi)
      rw [List.map_cons, List.map_cons, hn,
        ih hb.2 fun y hy => hname y (List.mem_cons_of_mem _ hy)]

namespace Filling

/-- Other nodes may be added, if they are good. -/
theorem grow (hf : Filling excuse s h name js attrs t) (hg : Grows t t')
    (hgood : ∀ k, t.2.slots.size ≤ k.index → t'.2.isElement k = true → t'.1.IsGood excuse t'.2 k) :
    Filling excuse s h name js attrs t' where
  toRaises := hf.toRaises.grow hg
  good := by
    intro k hn hk he
    by_cases hnew : t.2.slots.size ≤ k.index
    · exact hgood k hnew he
    · have hsame := Document.lookups_congr (hg.document.node? k (by omega))
      rw [Document.isElement_congr hsame.1] at he
      exact (hf.good k hn hk he).grows hg (Document.contains_of_isElement he)
        hf.sound.orderly.toLinked
  elements := by
    have hkept := hg.document.kept hf.sound.orderly.toLinked hf.contains
    rw [hkept.elements, ← hf.elements]
    apply List.map_congr_left
    intro k hk
    have hlt := Document.index_lt_of_contains
      (Document.contains_of_isElement (Document.mem_elements.mp hk).2)
    exact hg.workspace.binding? k (by omega)
  attributes := by
    have hkept := hg.document.kept hf.sound.orderly.toLinked hf.contains
    intro a ha
    rw [hg.workspace.model, hkept.name_of_mem a (Or.inr ha)]
    exact hf.attributes a (hkept.attributes a ha)

/-- A loose element can be placed at the end. -/
theorem append (hf : Filling excuse s h name js attrs t) (hx : t.2.isElement x = true)
    (hroot : t.2.parent? x = none) (hlt : h.index < x.index) (hb : t.1.binding? x = some j) :
    ∃ d, t.2.append h x = .ok d ∧ t.2.Relinked d h none (some x) ∧
      Filling excuse s h name (js ++ [j]) attrs (t.1, d) := by
  have hpl := hf.sound.orderly.placeable (Or.inl hf.isElement) (Or.inl hx) hroot hlt
  obtain ⟨d, hd⟩ := Document.append_of_placeable hpl
  obtain ⟨hr, -, hchildren⟩ := Document.relinked_append hf.sound.orderly.toLinked hd
  have hraise := hf.toRaises.append hlt
  rw [hd] at hraise
  refine ⟨d, hd, hr, hraise, hf.good.relinked hr, ?_, ?_⟩
  · have hkinds : d.isElement = t.2.isElement := by
      funext k
      exact Document.isElement_congr (hr.kind? k)
    show (d.elements h).map t.1.binding? = _
    rw [Document.elements, hchildren, hkinds, List.filter_append, List.map_append, List.map_append]
    congr 1
    · exact hf.elements
    · simp [hx, hb]
  · intro a ha
    have hmem := (hr.mem_attributes a).mp ha
    rcases hmem with ⟨hg, hattr⟩ | ⟨hold, -⟩
    · obtain rfl := Option.some.inj hg
      rw [Document.not_isAttribute_of_isElement hx] at hattr
      simp at hattr
    · obtain ⟨i, hi, hn⟩ := hf.attributes a hold
      exact ⟨i, hi, by rw [hn, hr.name]⟩

/-- Loose elements can be placed at the end one after the other. -/
theorem appendAll (hf : Filling excuse s h name js attrs t) {js' : List ConstraintId} (hnd : hs.Nodup)
    (hhs : ∀ x ∈ hs, t.2.isElement x = true ∧ t.2.parent? x = none ∧ h.index < x.index)
    (hb : hs.map t.1.binding? = js'.map some) :
    Filling excuse s h name (js ++ js') attrs (t.1, appendAll t.2 h hs) := by
  induction hs generalizing t js js' with
  | nil =>
    obtain rfl : js' = [] := by simpa using hb.symm
    rw [List.append_nil]
    exact hf
  | cons x hs ih =>
    cases js' with
    | nil => simp at hb
    | cons j js' =>
      rw [List.map_cons, List.map_cons, List.cons.injEq] at hb
      obtain ⟨hx, hroot, hlt⟩ := hhs x (List.mem_cons_self ..)
      obtain ⟨d, hd, hr, hplaced⟩ := hf.append hx hroot hlt hb.1
      rw [List.nodup_cons] at hnd
      have hrest := ih hplaced hnd.2
        (hr.waiting hnd.1 fun y hy => hhs y (List.mem_cons_of_mem _ hy)) hb.2
      rw [List.append_assoc] at hrest
      rw [Workspace.appendAll, List.foldl_cons, hd]
      exact hrest

/-- An attribute of one of the names may be placed, if that is possible. -/
theorem place (hf : Filling excuse s h name js attrs t) (hlt : h.index < x.index)
    (hx : ∃ i ∈ attrs, t.1.model.name i = t.2.name x) :
    Filling excuse s h name js attrs (t.1, keepOr t.2 ((t.2.placeAttribute h x).map Prod.fst)) ∧
      ∀ k, (keepOr t.2 ((t.2.placeAttribute h x).map Prod.fst)).name k = t.2.name k := by
  have hraise := hf.toRaises.place hlt
  cases hp : t.2.placeAttribute h x with
  | error fault => exact ⟨hf, fun _ => rfl⟩
  | ok r =>
    obtain ⟨d, displaced⟩ := r
    rw [hp] at hraise
    obtain ⟨hr, -, -, -⟩ := Document.relinked_placeAttribute hf.sound.orderly.toLinked hp
    refine ⟨⟨hraise, hf.good.relinked hr, ?_, ?_⟩, hr.name⟩
    · have hsame : d.elements h = t.2.elements h :=
        Document.elements_congr (Document.children_placeAttribute hp h) fun k _ => hr.kind? k
      exact (congrArg _ hsame).trans hf.elements
    · intro a ha
      have hname : d.name a = t.2.name a := hr.name a
      show ∃ i ∈ attrs, t.1.model.name i = d.name a
      rw [hname]
      rcases (hr.mem_attributes a).mp ha with ⟨hg, -⟩ | ⟨hold, -⟩
      · rwa [← Option.some.inj hg]
      · exact hf.attributes a hold

theorem placeAll (hf : Filling excuse s h name js attrs t)
    (hhs : ∀ x ∈ hs, h.index < x.index ∧ ∃ i ∈ attrs, t.1.model.name i = t.2.name x) :
    Filling excuse s h name js attrs (t.1, placeAll t.2 h hs) := by
  induction hs generalizing t with
  | nil => exact hf
  | cons x hs ih =>
    obtain ⟨hlt, hx⟩ := hhs x (List.mem_cons_self ..)
    obtain ⟨hplaced, hname⟩ := hf.place hlt hx
    refine ih hplaced ?_
    intro y hy
    obtain ⟨hylt, i, hi, hn⟩ := hhs y (List.mem_cons_of_mem _ hy)
    exact ⟨hylt, i, hi, hn.trans (hname y).symm⟩

/-- The element may show another text. -/
theorem setValue (hf : Filling excuse s h name js attrs t) (value : String) :
    Filling excuse s h name js attrs (t.1, keepOr t.2 (t.2.setValue h value)) := by
  have hraise := hf.toRaises.setValue value
  cases hs : t.2.setValue h value with
  | error fault => exact hf
  | ok d =>
    rw [hs] at hraise
    obtain ⟨hkept, hold⟩ := Document.kept_of_setValue hf.sound.orderly hs
    refine ⟨hraise, ?_, ?_, ?_⟩
    · intro k hn hk he
      have he' := hold k he
      exact (hf.good k hn hk he').kept (hkept k (Document.contains_of_isElement he')) rfl rfl rfl
        fun _ _ => rfl
    · exact (congrArg _ (hkept h hf.contains).elements).trans hf.elements
    · intro a ha
      have hke := hkept h hf.contains
      have hname : d.name a = t.2.name a := hke.name_of_mem a (Or.inr ha)
      show ∃ i ∈ attrs, t.1.model.name i = d.name a
      rw [hname]
      exact hf.attributes a (hke.attributes a ha)

/-- The elements inside are bound to what was given so far, and have the names of it. -/
theorem bound_of_mem (hf : Filling excuse s h name js attrs t) (hx : x ∈ t.2.elements h) :
    ∃ j ∈ js, t.1.binding? x = some j ∧ t.2.name x = t.1.model.name j := by
  have hmem : t.1.binding? x ∈ (t.2.elements h).map t.1.binding? := List.mem_map_of_mem hx
  rw [hf.elements] at hmem
  obtain ⟨j, hj, hb⟩ := List.mem_map.mp hmem
  have hlt := hf.sound.orderly.parent_lt (hf.sound.orderly.parent?_of_mem_elements hx)
  have hnew := hf.new
  have hne : x ≠ h := by
    rintro rfl
    exact Nat.lt_irrefl _ hlt
  obtain ⟨i, hi, hseat, -⟩ := hf.good x (by omega) hne (Document.mem_elements.mp hx).2
  obtain rfl := Option.some.inj (hb.trans hi)
  exact ⟨j, hj, hb.symm, hseat.name⟩

/-- The names of the elements inside are those of what was given so far. -/
theorem names (hf : Filling excuse s h name js attrs t) :
    (t.2.elements h).map t.2.name = js.map t.1.model.name := by
  refine map_name_of_binding hf.elements ?_
  intro x hx
  obtain ⟨j, -, hb, hn⟩ := hf.bound_of_mem hx
  exact ⟨j, hb, hn⟩

/-- An element that got what its content demands is good once it is bound. -/
theorem close {m : ContentModel} (htree : m.TreeShaped) (hflat : m.FlatUnambiguous)
    (hx : excuse.Covers m) (hm : t.1.model = m) (hk : m.kind? c = some .element)
    (hname : name = m.name c)
    (hf : Filling excuse s h name (m.demanded (m.contentElements c)) (m.attributes c) t) :
    ∀ k, s.2.slots.size ≤ k.index → t.2.isElement k = true →
      (t.1.bindNode t.2 h c).IsGood excuse t.2 k := by
  subst hm
  have hbinding := binding?_bindNode t.1 t.2 h
  -- the element is inside no other one, so nobody else looks at its binding
  have houtside : ∀ k, ∀ x ∈ t.2.elements k, (t.1.bindNode t.2 h c).binding? x = t.1.binding? x := by
    intro k x hx
    rw [hbinding, if_neg]
    rintro rfl
    have hp := hf.sound.orderly.parent?_of_mem_elements hx
    rw [hf.parent?] at hp
    simp at hp
  intro k hn he
  by_cases hkh : k = h
  · subst hkh
    refine ⟨c, (hbinding k c).trans (if_pos rfl), ⟨hk, hf.named.trans hname, ?_⟩, ?_, ?_⟩
    · intro x hx
      obtain ⟨j, hj, hb, -⟩ := hf.bound_of_mem hx
      obtain ⟨i, hi, hji⟩ := List.mem_flatMap.mp hj
      obtain rfl := List.eq_of_mem_replicate hji
      exact ⟨j, hi, (houtside k x hx).trans hb⟩
    · exact fun a ha => Or.inl (hf.attributes a ha)
    · show t.1.model.Fills excuse _ _
      rw [hf.names]
      exact Schema.ContentModel.fills_demanded htree hflat hx hk
  · exact (hf.good k hn hkh he).kept (Document.Kept.refl t.2 k) rfl rfl
      ((hbinding k c).trans (if_neg hkh)) (houtside k)

end Filling

/-! ## Creating subtrees -/

/-- What was created for a constraint: the document grew by nodes of which the elements are good,
and the outermost ones are loose. -/
structure Made (excuse : Excuse) (s : Stage) (r : Stage × List Handle) : Prop where
  grows : Grows s r.1
  loose : ∀ h ∈ r.2, Loose s.2 r.1.2 h
  good : ∀ k, s.2.slots.size ≤ k.index → r.1.2.isElement k = true → r.1.1.IsGood excuse r.1.2 k

/-- The outermost nodes are elements bound to these constraints. -/
structure MadeElements (excuse : Excuse) (js : List ConstraintId) (s : Stage)
    (r : Stage × List Handle) : Prop extends Made excuse s r where
  nodup : r.2.Nodup
  bound : r.2.map r.1.1.binding? = js.map some
  elements : ∀ h ∈ r.2, r.1.2.isElement h = true

/-- The outermost nodes have the name. -/
structure MadeNamed (excuse : Excuse) (name : String) (s : Stage) (r : Stage × List Handle) :
    Prop extends Made excuse s r where
  named : ∀ h ∈ r.2, r.1.2.name h = name

section Creating

variable {m : ContentModel} {create : Stage → ConstraintId → Stage × List Handle}
  {cs : List ConstraintId}

/-- What is wanted can be created for each of the constraints, from any stage on. -/
def MakesElements (excuse : Excuse) (m : ContentModel)
    (create : Stage → ConstraintId → Stage × List Handle) (cs : List ConstraintId) : Prop :=
  ∀ c ∈ cs, ∀ s, Sound s → s.1.model = m → MadeElements excuse (m.wanted c) s (create s c)

/-- Only attributes of its name are created for each of the constraints. -/
def MakesAttributes (excuse : Excuse) (m : ContentModel)
    (create : Stage → ConstraintId → Stage × List Handle) (cs : List ConstraintId) : Prop :=
  ∀ c ∈ cs, ∀ s, Sound s → s.1.model = m → MadeNamed excuse (m.name c) s (create s c)

theorem made_nothing (hs : Sound s) : Made excuse s (s, []) where
  grows := Grows.refl hs
  loose := by simp
  good := by
    intro k hn he
    have hlt : k.index < s.2.slots.size :=
      Document.index_lt_of_contains (Document.contains_of_isElement he)
    omega

theorem madeElements_nothing (hs : Sound s) : MadeElements excuse [] s (s, []) :=
  ⟨made_nothing hs, List.nodup_nil, rfl, by simp⟩

/-- Good elements stay good while more of them are made. -/
theorem Made.trans {r r' : Stage × List Handle} (h₁ : Made excuse s r) (h₂ : Made excuse r.1 r') :
    Made excuse s (r'.1, r.2 ++ r'.2) where
  grows := h₁.grows.trans h₂.grows
  loose := by
    intro h hh
    rcases List.mem_append.mp hh with hh | hh
    · exact (h₁.loose h hh).grows h₂.grows
    · exact (h₂.loose h hh).of_grows h₁.grows
  good := by
    intro k hn he
    by_cases hnew : r.1.2.slots.size ≤ k.index
    · exact h₂.good k hnew he
    · replace he : r'.1.2.isElement k = true := he
      have hsame := Document.lookups_congr (h₂.grows.document.node? k (by omega))
      rw [Document.isElement_congr hsame.1] at he
      exact (h₁.good k hn he).grows h₂.grows (Document.contains_of_isElement he)
        h₁.grows.sound.orderly.toLinked

theorem MadeElements.trans {r r' : Stage × List Handle} {js' : List ConstraintId}
    (h₁ : MadeElements excuse js s r) (h₂ : MadeElements excuse js' r.1 r') :
    MadeElements excuse (js ++ js') s (r'.1, r.2 ++ r'.2) where
  toMade := h₁.toMade.trans h₂.toMade
  nodup := by
    refine List.nodup_append.mpr ⟨h₁.nodup, h₂.nodup, ?_⟩
    rintro a ha _ hb rfl
    have hold := Document.index_lt_of_contains (h₁.loose a ha).contains
    have hnew := (h₂.loose a hb).new
    omega
  bound := by
    have hold : r.2.map r'.1.1.binding? = r.2.map r.1.1.binding? := by
      apply List.map_congr_left
      intro h hh
      have hlt := Document.index_lt_of_contains (h₁.loose h hh).contains
      exact h₂.grows.workspace.binding? h (by omega)
    show (r.2 ++ r'.2).map r'.1.1.binding? = _
    rw [List.map_append, List.map_append, hold, h₁.bound, h₂.bound]
  elements := by
    intro h hh
    rcases List.mem_append.mp hh with hh | hh
    · have hsame := h₂.grows.document.lookups (h₁.loose h hh).contains
      exact (Document.isElement_congr hsame.1).trans (h₁.elements h hh)
    · exact h₂.elements h hh

/-- What is wanted for constraints one after the other. -/
theorem madeElements_foldl (hmakes : MakesElements excuse m create cs) {r : Stage × List Handle}
    (hm : r.1.1.model = m) (hr : MadeElements excuse js s r) :
    MadeElements excuse (js ++ cs.flatMap m.wanted) s (cs.foldl (fun acc c =>
      let r := create acc.1 c
      (r.1, acc.2 ++ r.2)) r) := by
  induction cs generalizing r js with
  | nil => simpa using hr
  | cons c cs ih =>
    have hmade := hmakes c (List.mem_cons_self ..) r.1 hr.grows.sound hm
    have hmodel : (create r.1 c).1.1.model = m := hmade.grows.workspace.model.trans hm
    have hrest := ih (r := ((create r.1 c).1, r.2 ++ (create r.1 c).2))
      (fun c' hc' => hmakes c' (List.mem_cons_of_mem _ hc')) hmodel (hr.trans hmade)
    rw [List.append_assoc] at hrest
    exact hrest

/-- An element can be filled with what is created for its constraints. -/
theorem Filling.createChildren (hf : Filling excuse s h name js attrs t) (hm : t.1.model = m)
    (hmakes : MakesElements excuse m create cs) :
    Filling excuse s h name (js ++ cs.flatMap m.wanted) attrs
      (createEach create (fun d hs => Workspace.appendAll d h hs) t cs) := by
  unfold createEach
  induction cs generalizing t js with
  | nil => simpa using hf
  | cons c cs ih =>
    have hmade := hmakes c (List.mem_cons_self ..) t hf.sound hm
    have hgrown := hf.grow hmade.grows hmade.good
    have hfilled := hgrown.appendAll hmade.nodup (fun x hx => ⟨hmade.elements x hx,
      (hmade.loose x hx).detached, Nat.lt_of_lt_of_le
        (Document.index_lt_of_contains hf.contains) (hmade.loose x hx).new⟩) hmade.bound
    have hmodel : (create t c).1.1.model = m := hmade.grows.workspace.model.trans hm
    have hrest := ih hfilled hmodel fun c' hc' => hmakes c' (List.mem_cons_of_mem _ hc')
    rw [List.flatMap_cons, ← List.append_assoc]
    exact hrest

theorem Filling.createAttributes (hf : Filling excuse s h name js attrs t) (hm : t.1.model = m)
    (hmakes : MakesAttributes excuse m create cs) (hattrs : ∀ c ∈ cs, c ∈ attrs) :
    Filling excuse s h name js attrs
      (createEach create (fun d hs => Workspace.placeAll d h hs) t cs) := by
  unfold createEach
  induction cs generalizing t with
  | nil => exact hf
  | cons c cs ih =>
    have hmade := hmakes c (List.mem_cons_self ..) t hf.sound hm
    have hmodel : (create t c).1.1.model = m := hmade.grows.workspace.model.trans hm
    have hgrown := hf.grow hmade.grows hmade.good
    have hplaced := hgrown.placeAll fun x hx => ⟨Nat.lt_of_lt_of_le
      (Document.index_lt_of_contains hf.contains) (hmade.loose x hx).new, c,
      hattrs c (List.mem_cons_self ..), by rw [hmodel, hmade.named x hx]⟩
    exact ih hplaced hmodel (fun c' hc' => hmakes c' (List.mem_cons_of_mem _ hc'))
      fun c' hc' => hattrs c' (List.mem_cons_of_mem _ hc')

/-- A new element is being filled from the beginning. -/
theorem filling_push (hs : Sound s) (name : String) (attrs : List ConstraintId) :
    Filling excuse s s.2.next name [] attrs (s.1, (s.2.createElement name).1) := by
  have hnode : (s.2.createElement name).1.node? s.2.next = some { kind := .element, name := name } :=
    (Document.node?_push s.2 _ _).trans (if_pos rfl)
  refine ⟨raises_push hs name, ?_, ?_, ?_⟩
  · intro k hn hk he
    exact absurd (Document.eq_next_of_contains_push hn (Document.contains_of_isElement he)) hk
  · have hnil : (s.2.createElement name).1.elements s.2.next = [] := by
      rw [Document.elements, Document.children, hnode]
      rfl
    rw [hnil]
    rfl
  · intro a ha
    have hnil : (s.2.createElement name).1.attributes s.2.next = [] := by
      rw [Document.attributes, hnode]
      rfl
    rw [hnil] at ha
    simp at ha

/-- An element that is created is good, with all that is inside it. -/
theorem madeElements_createElement (htree : m.TreeShaped) (hflat : m.FlatUnambiguous)
    (hx : excuse.Covers m) (hs : Sound s) (hm : s.1.model = m) (hcreate : CreatesLoose create)
    {e : ContentModel.Entry} (he : m.get? c = some e) (hk : e.kind = .element)
    (hchildren : MakesElements excuse m create e.children)
    (hattributes : MakesAttributes excuse m create e.attributes) :
    MadeElements excuse [c] s ((createElement create s c e).1, [(createElement create s c e).2]) := by
  obtain ⟨hr, hnext, hb⟩ := raises_createElement hcreate hs c e
  refine ⟨⟨hr.toGrows, ?_, ?_⟩, by simp, by simp [hnext, hb], ?_⟩
  · intro h hh
    rw [List.mem_singleton.mp hh]
    exact hr.loose
  · obtain ⟨w, d⟩ := s
    replace hm : w.model = m := hm
    have hkind : m.kind? c = some .element := by rw [ContentModel.kind?, he, ← hk]; rfl
    have hname : e.name = m.name c := by rw [ContentModel.name, he]; rfl
    have hcs : e.children = m.children c := by rw [ContentModel.children, he]; rfl
    have has : e.attributes = m.attributes c := by rw [ContentModel.attributes, he]; rfl
    obtain ⟨shown, hcases, heq⟩ := createElement_cases create w d c e
    have hshown : Filling excuse (w, d) d.next e.name [] (m.attributes c) (w, shown) := by
      have hbegun : Filling excuse (w, d) d.next e.name [] (m.attributes c)
          (w, (d.createElement e.name).1) := filling_push hs e.name (m.attributes c)
      rcases hcases with rfl | ⟨value, rfl⟩
      · exact hbegun
      · exact hbegun.setValue value
    have hfilled := hshown.createChildren hm hchildren
    have hwanted : e.children.flatMap m.wanted = m.demanded (m.contentElements c) := by
      rw [hcs, ContentModel.flatMap_wanted htree (by rw [hkind]; simp)]
    rw [List.nil_append, hwanted] at hfilled
    have hplaced := hfilled.createAttributes (hfilled.workspace.model.trans hm) hattributes
      fun c' hc' => has ▸ hc'
    rw [heq]
    exact hplaced.close htree hflat hx (hplaced.workspace.model.trans hm) hkind hname
  · intro h hh
    rw [List.mem_singleton.mp hh]
    exact hr.isElement

theorem madeElements_createElements (htree : m.TreeShaped) (hflat : m.FlatUnambiguous)
    (hx : excuse.Covers m) (hs : Sound s) (hm : s.1.model = m) (hcreate : CreatesLoose create)
    {e : ContentModel.Entry} (he : m.get? c = some e) (hk : e.kind = .element)
    (hchildren : MakesElements excuse m create e.children)
    (hattributes : MakesAttributes excuse m create e.attributes) (n : Nat) :
    MadeElements excuse (List.replicate n c) s (createElements create c e n s) := by
  induction n generalizing s with
  | zero => exact madeElements_nothing hs
  | succ n ih =>
    have hfirst := madeElements_createElement htree hflat hx hs hm hcreate he hk hchildren
      hattributes
    have hrest := ih hfirst.grows.sound (hfirst.grows.workspace.model.trans hm)
    exact hfirst.trans hrest

theorem madeNamed_createAttribute (hs : Sound s) (c : ConstraintId) (e : ContentModel.Entry) :
    MadeNamed excuse e.name s ((createAttribute s c e).1, [(createAttribute s c e).2]) := by
  obtain ⟨hg, hl⟩ := createAttribute_loose hs c e
  obtain ⟨w, d⟩ := s
  have hnode : (d.createAttribute e.name (e.preset?.getD "")).1.node? d.next = some
      { kind := .attribute, name := e.name, value := e.preset?.getD "" } :=
    (Document.node?_push d _ _).trans (if_pos rfl)
  refine ⟨⟨hg, ?_, ?_⟩, ?_⟩
  · intro h hh
    rw [List.mem_singleton.mp hh]
    exact hl
  · -- the one new node is no element
    intro k hn he
    replace hn : d.slots.size ≤ k.index := hn
    replace he : (d.createAttribute e.name (e.preset?.getD "")).1.isElement k = true := he
    have hk := Document.eq_next_of_contains_push hn (Document.contains_of_isElement he)
    rw [hk, Document.isElement, Document.kind?, hnode] at he
    simp at he
  · intro h hh
    rw [List.mem_singleton.mp hh]
    show (d.createAttribute e.name (e.preset?.getD "")).1.name d.next = e.name
    rw [Document.name, hnode]
    rfl

/-- For an attribute only an attribute of its name is created. -/
theorem madeNamed_createInside (fuel : Nat) (hk : m.kind? c = some .attribute) (hs : Sound s)
    (hm : s.1.model = m) : MadeNamed excuse (m.name c) s (createInside fuel s c) := by
  have hnothing : MadeNamed excuse (m.name c) s (s, []) := ⟨made_nothing hs, by simp⟩
  cases fuel with
  | zero => exact hnothing
  | succ fuel =>
    rw [createInside, hm]
    cases he : m.get? c with
    | none => exact hnothing
    | some e =>
      have hkind : e.kind = .attribute := by
        rw [ContentModel.kind?, he] at hk
        exact Option.some.inj hk
      have hname : m.name c = e.name := by rw [ContentModel.name, he]; rfl
      rw [hname] at hnothing ⊢
      simp only [hkind]
      split
      · exact madeNamed_createAttribute hs c e
      · exact hnothing

/-- With enough fuel all that is wanted for a constraint is created. -/
theorem madeElements_createInside (htree : m.TreeShaped) (hflat : m.FlatUnambiguous)
    (hx : excuse.Covers m) (fuel : Nat) (hfuel : m.entries.size - c.index ≤ fuel)
    (hk : m.kind? c ≠ some .attribute) (hs : Sound s) (hm : s.1.model = m) :
    MadeElements excuse (m.wanted c) s (createInside fuel s c) := by
  induction fuel generalizing c s with
  | zero =>
    have hnone : m.get? c = none := ContentModel.get?_eq_none_of_le (by omega)
    have hkind : m.kind? c = none := by rw [ContentModel.kind?, hnone]; rfl
    rw [ContentModel.wanted, hkind]
    exact madeElements_nothing hs
  | succ fuel ih =>
    -- what is inside came later, so there is fuel enough for it
    have hchildren : MakesElements excuse m (createInside fuel) (m.children c) := by
      intro c' hc' s' hs' hm'
      have hlt := htree.index_lt_of_mem hc'
      obtain ⟨kind, hkind, hne⟩ := htree.kind?_of_mem hc'
      exact ih (by omega) (by rw [hkind]; exact fun h => hne (Option.some.inj h)) hs' hm'
    have hattributes : MakesAttributes excuse m (createInside fuel) (m.attributes c) :=
      fun c' hc' s' hs' hm' =>
        madeNamed_createInside fuel (htree.kind?_of_mem_attributes hc') hs' hm'
    rw [createInside, hm]
    cases he : m.get? c with
    | none =>
      have hkind : m.kind? c = none := by rw [ContentModel.kind?, he]; rfl
      rw [ContentModel.wanted, hkind]
      exact madeElements_nothing hs
    | some e =>
      have hkind : m.kind? c = some e.kind := by rw [ContentModel.kind?, he]; rfl
      have hcs : m.children c = e.children := by rw [ContentModel.children, he]; rfl
      have has : m.attributes c = e.attributes := by rw [ContentModel.attributes, he]; rfl
      have hoccurs : m.occurs c = e.occurs := by rw [ContentModel.occurs, he]; rfl
      dsimp only
      cases hek : e.kind with
      | «attribute» =>
        rw [hkind, hek] at hk
        exact absurd rfl hk
      | element =>
        rw [ContentModel.wanted, hkind, hek, hoccurs]
        exact madeElements_createElements htree hflat hx hs hm (createsLoose_createInside fuel) he hek
          (hcs ▸ hchildren) (has ▸ hattributes) _
      | sequence =>
        have hwanted : m.wanted c = e.children.flatMap m.wanted := by
          rw [← hcs, ContentModel.flatMap_wanted htree (by rw [hkind, hek]; simp),
            ContentModel.wanted, hkind, hek]
        rw [hwanted]
        exact madeElements_foldl (hcs ▸ hchildren) hm (madeElements_nothing hs)
      | choice =>
        rw [hek] at hkind
        cases hfirst : e.children with
        | nil => exact absurd (hcs.trans hfirst) (hflat.choice_nonempty c hkind)
        | cons first rest =>
          rw [ContentModel.wanted_of_choice htree hflat hkind (hcs.trans hfirst)]
          exact hchildren first (by rw [hcs, hfirst]; exact List.mem_cons_self ..) s hs hm
      | group =>
        rw [hek] at hkind
        exact absurd hkind (hflat.no_group c)

end Creating

/-- All elements that are created for a constraint are good. -/
theorem good_of_create {w : Workspace} {d : Document} (htree : w.model.TreeShaped)
    (hflat : w.model.FlatUnambiguous) (hx : excuse.Covers w.model) (hs : Sound (w, d))
    (c : ConstraintId) {k : Handle}
    (hn : d.slots.size ≤ k.index) (hk : (w.create d c).1.2.isElement k = true) :
    (w.create d c).1.1.IsGood excuse (w.create d c).1.2 k := by
  have hold : d.isElement k = true → False := by
    intro he
    have := Document.index_lt_of_contains (Document.contains_of_isElement he)
    omega
  unfold create at hk ⊢
  cases he : w.model.get? c with
  | none =>
    rw [he] at hk
    exact (hold hk).elim
  | some e =>
    have hcs : w.model.children c = e.children := by rw [ContentModel.children, he]; rfl
    have has : w.model.attributes c = e.attributes := by rw [ContentModel.attributes, he]; rfl
    rw [he] at hk
    dsimp only at hk ⊢
    cases hek : e.kind with
    | element =>
      simp only [hek] at hk
      have hchildren : MakesElements excuse w.model (createInside w.model.entries.size) e.children := by
        intro c' hc' s' hs' hm'
        obtain ⟨kind, hkind, hne⟩ := htree.kind?_of_mem (hcs ▸ hc')
        exact madeElements_createInside htree hflat hx _ (Nat.sub_le _ _)
          (by rw [hkind]; exact fun h => hne (Option.some.inj h)) hs' hm'
      have hattributes : MakesAttributes excuse w.model (createInside w.model.entries.size)
          e.attributes := fun c' hc' s' hs' hm' =>
        madeNamed_createInside _ (htree.kind?_of_mem_attributes (has ▸ hc')) hs' hm'
      exact (madeElements_createElement htree hflat hx hs rfl (createsLoose_createInside _) he hek
        hchildren hattributes).good k hn hk
    | «attribute» =>
      simp only [hek] at hk
      exact (madeNamed_createAttribute hs c e).good k hn hk
    | sequence => simp only [hek] at hk; exact (hold hk).elim
    | choice => simp only [hek] at hk; exact (hold hk).elim
    | group => simp only [hek] at hk; exact (hold hk).elim

end Workspace

end GuidedXml
