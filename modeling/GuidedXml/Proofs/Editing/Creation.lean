/-
# What creation touches

Creating a subtree adds nodes to the document and binds them. What was there before is left alone.

The main statements say that creation makes the document grow, whatever the content model says, and
that the nodes it hands out are new and belong to no parent.
-/
import GuidedXml.Editing.Workspace.Creation
import GuidedXml.Proofs.Document.Values
import GuidedXml.Proofs.Editing.Binding

namespace GuidedXml.Workspace

open Schema (ConstraintId ContentModel)

/-! ## Growing stages -/

/-- The document is in order, and only its live nodes are bound. -/
structure Sound (s : Stage) : Prop where
  orderly : s.2.Orderly
  contains_of_bound : ∀ {k c}, s.1.binding? k = some c → s.2.contains k = true

/-- The second stage is the first one with more nodes, which alone may have been bound. -/
structure Grows (s s' : Stage) : Prop where
  document : s.2.Extends s'.2
  workspace : Rebinds (fun k => s.2.slots.size ≤ k.index) s.1 s'.1
  sound : Sound s'

/-- The node is new in the second document, and belongs to no parent. -/
structure Loose (d d' : Document) (h : Handle) : Prop where
  new : d.slots.size ≤ h.index
  contains : d'.contains h = true
  detached : d'.parent? h = none

variable {s s' s'' : Stage} {d : Document} {h k : Handle} {name : String}

theorem Grows.refl (hs : Sound s) : Grows s s :=
  ⟨Document.Extends.refl _, Rebinds.refl _ _, hs⟩

theorem Grows.trans (h₁ : Grows s s') (h₂ : Grows s' s'') : Grows s s'' where
  document := h₁.document.trans h₂.document
  workspace := h₁.workspace.trans (h₂.workspace.mono fun _ hk => Nat.le_trans h₁.document.size hk)
  sound := h₂.sound

/-- A loose node stays loose while the document grows. -/
theorem Loose.grows (hl : Loose d s.2 h) (hg : Grows s s') : Loose d s'.2 h where
  new := hl.new
  contains := by
    rw [Document.contains_congr (hg.document.lookups hl.contains).1]
    exact hl.contains
  detached := by rw [(hg.document.lookups hl.contains).2.2.1, hl.detached]

/-- A node that is new later is new now. -/
theorem Loose.of_grows (hg : Grows s s') (hl : Loose s'.2 s''.2 h) : Loose s.2 s''.2 h where
  new := Nat.le_trans hg.document.size hl.new
  contains := hl.contains
  detached := hl.detached

/-! ## Raising an element -/

/-- The second stage is the first one with more nodes, `h` among them: an element of that name
without a parent. -/
structure Raises (s : Stage) (h : Handle) (name : String) (s' : Stage) : Prop
    extends Grows s s' where
  new : s.2.slots.size ≤ h.index
  kind? : s'.2.kind? h = some .element
  parent? : s'.2.parent? h = none
  named : s'.2.name h = name

namespace Raises

/-- What was raised lives. -/
theorem contains (hr : Raises s h name s') : s'.2.contains h = true := by
  rw [Document.contains_eq_isSome_kind?, hr.kind?]
  rfl

/-- What was raised is an element. -/
theorem isElement (hr : Raises s h name s') : s'.2.isElement h = true := by
  simp [Document.isElement, hr.kind?]

/-- What was raised is loose. -/
theorem loose (hr : Raises s h name s') : Loose s.2 s'.2 h :=
  ⟨hr.new, hr.contains, hr.parent?⟩

/-- More nodes may be added. -/
theorem grow (hr : Raises s h name s') (hg : Grows s' s'') : Raises s h name s'' where
  toGrows := hr.toGrows.trans hg
  new := hr.new
  kind? := by rw [(hg.document.lookups hr.contains).1, hr.kind?]
  parent? := by rw [(hg.document.lookups hr.contains).2.2.1, hr.parent?]
  named := by rw [(hg.document.lookups hr.contains).2.1, hr.named]

/-- Nodes may be given to the element and taken from it. -/
theorem relink (hr : Raises s h name s') {d : Document} {taken given : Option Handle}
    (hl : s'.2.Relinked d h taken given)
    (hgiven : ∀ c, given = some c → s'.2.CanHold h c ∧ h.index < c.index)
    (htaken : ∀ c, taken = some c → s'.2.parent? c = some h) : Raises s h name (s'.1, d) where
  document := by
    refine ⟨by rw [hl.size]; exact hr.document.size, ?_⟩
    intro k hk
    have hnew := hr.new
    rw [hl.node?, hr.document.node? k hk]
    · rintro rfl
      omega
    · intro hg
      have := (hgiven k hg).2
      omega
    · intro ht
      have := hr.sound.orderly.parent_lt (htaken k ht)
      omega
  workspace := hr.workspace
  sound := by
    refine ⟨hl.orderly hr.sound.orderly hgiven htaken, ?_⟩
    intro k c hb
    rw [Document.contains_congr (hl.kind? k)]
    exact hr.sound.contains_of_bound hb
  new := hr.new
  kind? := by rw [hl.kind?, hr.kind?]
  parent? := by
    have hg : given ≠ some h := fun hg => Nat.lt_irrefl _ (hgiven h hg).2
    have ht : taken ≠ some h := by
      intro ht
      have := htaken h ht
      rw [hr.parent?] at this
      simp at this
    rw [hl.parent?, if_neg hg, if_neg ht, hr.parent?]
  named := by rw [hl.name, hr.named]

/-- A node may be placed at the end of the element, if that is possible. -/
theorem append (hr : Raises s h name s') (hk : h.index < k.index) :
    Raises s h name (s'.1, keepOr s'.2 (s'.2.append h k)) := by
  cases ha : s'.2.append h k with
  | error fault => exact hr
  | ok d =>
    obtain ⟨hl, hpl, -⟩ := Document.relinked_append hr.sound.orderly.toLinked ha
    refine hr.relink hl ?_ (by intro c hc; simp at hc)
    intro c hc
    obtain rfl := Option.some.inj hc
    exact ⟨hpl.canHold, hk⟩

/-- A raised element is still raised when later nodes are appended to it. -/
theorem appendAll (hr : Raises s h name s') {hs : List Handle}
    (hhs : ∀ k ∈ hs, h.index < k.index) : Raises s h name (s'.1, appendAll s'.2 h hs) := by
  induction hs generalizing s' with
  | nil => exact hr
  | cons k hs ih =>
    have hk := hr.append (hhs k (List.mem_cons_self ..))
    exact ih hk fun k' hk' => hhs k' (List.mem_cons_of_mem _ hk')

/-- An attribute may be placed at the element, if that is possible. -/
theorem place (hr : Raises s h name s') (hk : h.index < k.index) :
    Raises s h name (s'.1, keepOr s'.2 ((s'.2.placeAttribute h k).map Prod.fst)) := by
  cases ha : s'.2.placeAttribute h k with
  | error fault => exact hr
  | ok r =>
    obtain ⟨d, displaced⟩ := r
    obtain ⟨hl, hcan, -, hdisplaced⟩ := Document.relinked_placeAttribute hr.sound.orderly.toLinked ha
    refine hr.relink hl ?_ ?_
    · intro c hc
      obtain rfl := Option.some.inj hc
      exact ⟨hcan, hk⟩
    · intro c hc
      rw [hdisplaced] at hc
      have hmem := (Document.mem_of_attribute?_eq_some hc).1
      exact hr.sound.orderly.parent?_of_mem (Document.mem_inside.mpr (Or.inl hmem))

/-- A raised element is still raised when later attributes are placed at it. -/
theorem placeAll (hr : Raises s h name s') {hs : List Handle}
    (hhs : ∀ k ∈ hs, h.index < k.index) : Raises s h name (s'.1, placeAll s'.2 h hs) := by
  induction hs generalizing s' with
  | nil => exact hr
  | cons k hs ih =>
    have hk := hr.place (hhs k (List.mem_cons_self ..))
    exact ih hk fun k' hk' => hhs k' (List.mem_cons_of_mem _ hk')

end Raises

/-! ## Creating nodes -/

/-- A new bare node makes the stage grow. -/
theorem grows_push (hs : Sound s) {n : Node} (hp : n.parent = none) (ha : n.attributes = [])
    (hc : n.children = []) : Grows s (s.1, (s.2.push n).1) := by
  refine ⟨Document.extends_push _ _, Rebinds.refl _ _, hs.orderly.push hp ha hc, ?_⟩
  intro k c hb
  have hk := hs.contains_of_bound hb
  rw [Document.contains_congr ((Document.extends_push s.2 n).lookups hk).1]
  exact hk

/-- Binding a new node makes the stage grow. -/
theorem Grows.bindNode (hg : Grows s s') (hl : Loose s.2 s'.2 h) (c : ConstraintId) :
    Grows s (s'.1.bindNode s'.2 h c, s'.2) where
  document := hg.document
  workspace := by
    refine hg.workspace.trans ((rebinds_bindNode s'.1 s'.2 h c).mono ?_)
    rintro _ rfl
    exact hl.new
  sound := by
    refine ⟨hg.sound.orderly, ?_⟩
    intro k i hb
    rw [binding?_bindNode] at hb
    by_cases hkh : k = h
    · rw [hkh]
      exact hl.contains
    · rw [if_neg hkh] at hb
      exact hg.sound.contains_of_bound hb

/-- A new element stands ready to be filled. -/
theorem raises_push (hs : Sound s) (name : String) :
    Raises s s.2.next name (s.1, (s.2.createElement name).1) where
  toGrows := grows_push hs rfl rfl rfl
  new := Nat.le_refl _
  kind? := by simp [Document.kind?, Document.createElement, Document.node?_push]
  parent? := by simp [Document.parent?, Document.createElement, Document.node?_push]
  named := by simp [Document.name, Document.createElement, Document.node?_push]

/-- The element may show another text. -/
theorem Raises.setValue (hr : Raises s h name s') (value : String) :
    Raises s h name (s'.1, keepOr s'.2 (s'.2.setValue h value)) := by
  cases hs : s'.2.setValue h value with
  | error fault => exact hr
  | ok d =>
    rcases Document.setValue_cases hs with ⟨t, ht, rfl⟩ | ⟨he, ha⟩
    · have hshape := Document.sameShape_revalue s'.2 t value
      refine ⟨⟨⟨?_, ?_⟩, hr.workspace, ⟨hshape.orderly hr.sound.orderly, ?_⟩⟩, hr.new, ?_, ?_, ?_⟩
      · rw [keepOr, hshape.size]
        exact hr.document.size
      · intro k hk
        have hnew := hr.new
        rw [keepOr, Document.node?_update, if_neg, hr.document.node? k hk]
        rintro rfl
        rcases ht with rfl | ht
        · omega
        · have := hr.sound.orderly.parent_lt
            (hr.sound.orderly.parent?_of_mem (Document.mem_inside.mpr (Or.inr ht)))
          omega
      · intro k c hb
        rw [keepOr, Document.contains_congr (hshape.kind? k)]
        exact hr.sound.contains_of_bound hb
      · rw [keepOr, hshape.kind?, hr.kind?]
      · rw [keepOr, hshape.parent?, hr.parent?]
      · rw [keepOr, hshape.name, hr.named]
    · have hb := (hr.grow (grows_push hr.sound (n := { kind := .text, value := value })
        rfl rfl rfl)).append (k := s'.2.next) (Document.index_lt_of_contains hr.contains)
      change Raises s h name (s'.1, keepOr (s'.2.createText value).1
        ((s'.2.createText value).1.append h s'.2.next)) at hb
      rw [ha] at hb
      exact hb

/-! ## Creating subtrees -/

/-- A way to create nodes makes the stage grow and hands out loose nodes. -/
def CreatesLoose (create : Stage → ConstraintId → Stage × List Handle) : Prop :=
  ∀ s c, Sound s →
    Grows s (create s c).1 ∧ ∀ h ∈ (create s c).2, Loose s.2 (create s c).1.2 h

section Creating

variable {create : Stage → ConstraintId → Stage × List Handle}

/-- An element may get, one after the other, what is created for its constraints. -/
theorem Raises.createEach (hcreate : CreatesLoose create)
    {place : Document → List Handle → Document}
    (hplace : ∀ {s' : Stage} {hs : List Handle}, Raises s h name s' →
      (∀ k ∈ hs, h.index < k.index) → Raises s h name (s'.1, place s'.2 hs))
    (hr : Raises s h name s') (cs : List ConstraintId) :
    Raises s h name (createEach create place s' cs) := by
  unfold Workspace.createEach
  induction cs generalizing s' with
  | nil => exact hr
  | cons c cs ih =>
    rw [List.foldl_cons]
    obtain ⟨hg, hloose⟩ := hcreate s' c hr.sound
    refine ih (hplace (hr.grow hg) ?_)
    intro k hk
    exact Nat.lt_of_lt_of_le (Document.index_lt_of_contains hr.contains) (hloose k hk).new

/-- Create what has to be inside an element: the children first, and then the attributes. -/
def furnish (create : Stage → ConstraintId → Stage × List Handle) (h : Handle)
    (e : ContentModel.Entry) (s : Stage) : Stage :=
  createEach create (fun d hs => placeAll d h hs)
    (createEach create (fun d hs => appendAll d h hs) s e.children) e.attributes

/-- A new element may first get a preset value; then it is furnished, and bound in the end. -/
theorem createElement_cases (create : Stage → ConstraintId → Stage × List Handle) (w : Workspace)
    (d : Document) (c : ConstraintId) (e : ContentModel.Entry) : ∃ shown : Document,
      (shown = (d.createElement e.name).1 ∨ ∃ value, shown = keepOr (d.createElement e.name).1
        ((d.createElement e.name).1.setValue d.next value)) ∧
      createElement create (w, d) c e =
        (((furnish create d.next e (w, shown)).1.bindNode
          (furnish create d.next e (w, shown)).2 d.next c,
            (furnish create d.next e (w, shown)).2), d.next) := by
  unfold createElement
  cases e.preset? with
  | none => exact ⟨_, Or.inl rfl, rfl⟩
  | some value => exact ⟨_, Or.inr ⟨value, rfl⟩, rfl⟩

/-- Creating an element raises it, and then binds it. -/
theorem raises_createElement (hcreate : CreatesLoose create) (hs : Sound s) (c : ConstraintId)
    (e : ContentModel.Entry) :
    Raises s (createElement create s c e).2 e.name (createElement create s c e).1 ∧
      (createElement create s c e).2 = s.2.next ∧
      (createElement create s c e).1.1.binding? s.2.next = some c := by
  obtain ⟨w, d⟩ := s
  have hbegun := raises_push hs e.name
  obtain ⟨shown, hcases, heq⟩ := createElement_cases create w d c e
  have hshown : Raises (w, d) d.next e.name (w, shown) := by
    rcases hcases with rfl | ⟨value, rfl⟩
    · exact hbegun
    · exact hbegun.setValue value
  rw [heq]
  have hchildren := hshown.createEach hcreate (fun hr hhs => hr.appendAll hhs) e.children
  have hattributes := hchildren.createEach hcreate (fun hr hhs => hr.placeAll hhs) e.attributes
  refine ⟨?_, rfl, ?_⟩
  · refine ⟨hattributes.toGrows.bindNode hattributes.loose c, hattributes.new, hattributes.kind?,
      hattributes.parent?, hattributes.named⟩
  · exact (binding?_bindNode _ _ _ _ _).trans (if_pos rfl)

/-- Several copies of an element are created loose. -/
theorem createElements_loose (hcreate : CreatesLoose create) (c : ConstraintId)
    (e : ContentModel.Entry) (n : Nat) (hs : Sound s) :
    Grows s (createElements create c e n s).1 ∧
      ∀ h ∈ (createElements create c e n s).2, Loose s.2 (createElements create c e n s).1.2 h := by
  induction n generalizing s with
  | zero =>
    rw [createElements]
    exact ⟨Grows.refl hs, by simp⟩
  | succ n ih =>
    obtain ⟨hr, -⟩ := raises_createElement hcreate hs c e
    obtain ⟨hg, hloose⟩ := ih hr.sound
    rw [createElements]
    refine ⟨hr.toGrows.trans hg, ?_⟩
    intro h hh
    rcases List.mem_cons.mp hh with rfl | hh
    · exact hr.loose.grows hg
    · exact (hloose h hh).of_grows hr.toGrows

/-- Creating an attribute adds one node and binds it. -/
theorem createAttribute_loose (hs : Sound s) (c : ConstraintId) (e : ContentModel.Entry) :
    Grows s (createAttribute s c e).1 ∧
      Loose s.2 (createAttribute s c e).1.2 (createAttribute s c e).2 := by
  obtain ⟨w, d⟩ := s
  have hg : Grows (w, d) (w, (d.createAttribute e.name (e.preset?.getD "")).1) :=
    grows_push hs rfl rfl rfl
  have hl : Loose d (d.createAttribute e.name (e.preset?.getD "")).1 d.next := by
    refine ⟨Nat.le_refl _, ?_, ?_⟩ <;>
      simp [Document.contains, Document.parent?, Document.createAttribute, Document.node?_push]
  exact ⟨hg.bindNode hl c, hl⟩

/-- What has to be there for constraints one after the other is loose. -/
theorem foldl_loose (hcreate : CreatesLoose create) (cs : List ConstraintId) {d : Document}
    (acc : Stage × List Handle) (hs : Sound acc.1) (hd : d.slots.size ≤ acc.1.2.slots.size)
    (hacc : ∀ h ∈ acc.2, Loose d acc.1.2 h) :
    let r := cs.foldl (fun acc c =>
      let r := create acc.1 c
      (r.1, acc.2 ++ r.2)) acc
    Grows acc.1 r.1 ∧ ∀ h ∈ r.2, Loose d r.1.2 h := by
  induction cs generalizing acc with
  | nil => exact ⟨Grows.refl hs, hacc⟩
  | cons c cs ih =>
    obtain ⟨hg, hloose⟩ := hcreate acc.1 c hs
    have hrest := ih ((create acc.1 c).1, acc.2 ++ (create acc.1 c).2) hg.sound
      (Nat.le_trans hd hg.document.size) ?_
    · exact ⟨hg.trans hrest.1, hrest.2⟩
    · intro h hh
      rcases List.mem_append.mp hh with hh | hh
      · exact (hacc h hh).grows hg
      · refine ⟨Nat.le_trans hd (hloose h hh).new, (hloose h hh).contains, (hloose h hh).detached⟩

end Creating

/-- Whatever the content model says, what is created inside an element is new and loose. -/
theorem createsLoose_createInside (fuel : Nat) : CreatesLoose (createInside fuel) := by
  induction fuel with
  | zero =>
    intro s c hs
    exact ⟨Grows.refl hs, by simp [createInside]⟩
  | succ fuel ih =>
    intro s c hs
    have hnothing : Grows s (s, ([] : List Handle)).1 ∧
        ∀ h ∈ (s, ([] : List Handle)).2, Loose s.2 (s, ([] : List Handle)).1.2 h :=
      ⟨Grows.refl hs, by simp⟩
    rw [createInside]
    cases he : s.1.model.get? c with
    | none => exact hnothing
    | some e =>
      dsimp only
      cases e.kind with
      | «attribute» =>
        dsimp only
        split
        · obtain ⟨hg, hl⟩ := createAttribute_loose hs c e
          refine ⟨hg, ?_⟩
          intro h hh
          obtain rfl := List.mem_singleton.mp hh
          exact hl
        · exact hnothing
      | element => exact createElements_loose ih c e _ hs
      | choice =>
        cases e.children with
        | nil => exact hnothing
        | cons first rest => exact ih s first hs
      | sequence => exact foldl_loose ih e.children (s, []) hs (Nat.le_refl _) (by simp)
      | group => exact hnothing

/-- Creating for a constraint makes the stage grow; the node, if there is one, is loose. -/
theorem create_loose {w : Workspace} {d : Document} (hs : Sound (w, d)) (c : ConstraintId) :
    Grows (w, d) (w.create d c).1 ∧ ∀ h ∈ (w.create d c).2, Loose d (w.create d c).1.2 h := by
  unfold create
  cases he : w.model.get? c with
  | none => exact ⟨Grows.refl hs, by simp⟩
  | some e =>
    dsimp only
    cases e.kind with
    | element =>
      obtain ⟨hr, -⟩ := raises_createElement (createsLoose_createInside _) hs c e
      refine ⟨hr.toGrows, ?_⟩
      intro h hh
      obtain rfl := Option.some.inj hh
      exact hr.loose
    | «attribute» =>
      obtain ⟨hg, hl⟩ := createAttribute_loose hs c e
      refine ⟨hg, ?_⟩
      intro h hh
      obtain rfl := Option.some.inj hh
      exact hl
    | choice => exact ⟨Grows.refl hs, by simp⟩
    | sequence => exact ⟨Grows.refl hs, by simp⟩
    | group => exact ⟨Grows.refl hs, by simp⟩

/-- For a constraint of an element an element of its name is created, and bound to it. -/
theorem create_of_element {w : Workspace} {d : Document} (hs : Sound (w, d)) {c : ConstraintId}
    {e : ContentModel.Entry} (he : w.model.get? c = some e) (hk : e.kind = .element) :
    (w.create d c).2 = some d.next ∧ Raises (w, d) d.next e.name (w.create d c).1 ∧
      (w.create d c).1.1.binding? d.next = some c := by
  unfold create
  rw [he]
  simp only [hk]
  obtain ⟨hr, hnext, hb⟩ := raises_createElement (createsLoose_createInside w.model.entries.size)
    hs c e
  exact ⟨congrArg some hnext, hnext ▸ hr, hb⟩

/-- For an attribute a loose attribute of its name is created. -/
theorem create_of_attribute {w : Workspace} {d : Document} (hs : Sound (w, d)) {c : ConstraintId}
    {e : ContentModel.Entry} (he : w.model.get? c = some e) (hk : e.kind = .attribute) :
    (w.create d c).2 = some d.next ∧ Grows (w, d) (w.create d c).1 ∧
      Loose d (w.create d c).1.2 d.next ∧ (w.create d c).1.2.isAttribute d.next = true ∧
      (w.create d c).1.2.name d.next = e.name := by
  obtain ⟨hg, hl⟩ := createAttribute_loose hs c e
  have hnode : (d.createAttribute e.name (e.preset?.getD "")).1.node? d.next = some
      { kind := .attribute, name := e.name, value := e.preset?.getD "" } :=
    (Document.node?_push d _ _).trans (if_pos rfl)
  unfold create
  rw [he]
  simp only [hk]
  refine ⟨rfl, hg, hl, ?_, ?_⟩
  · show (d.createAttribute e.name (e.preset?.getD "")).1.isAttribute d.next = true
    rw [Document.isAttribute, Document.kind?, hnode]
    rfl
  · show (d.createAttribute e.name (e.preset?.getD "")).1.name d.next = e.name
    rw [Document.name, hnode]
    rfl

end GuidedXml.Workspace
