/-
# Building up stages

Creating nodes and binding them takes single steps: a bare node comes, finds its place in a node
that is not bound yet, and is bound.

The main statements say that creation and binding are made of such steps, so that what every step
keeps is kept by them.
-/
import GuidedXml.Proofs.Document.Showing
import GuidedXml.Proofs.Document.Tidiness
import GuidedXml.Proofs.Editing.Creation
import Mathlib.Logic.Relation

namespace GuidedXml.Workspace

open Document (Within)
open Schema (ConstraintId ContentModel)

variable {n : Nat} {s s' : Stage} {w w' : Workspace} {d d' : Document} {h k p : Handle}
  {c : ConstraintId}

/-! ## Steps -/

/-- One step of making nodes and binding them. It is about a node from the handle `n` on, and about
nodes alone that are not bound. -/
inductive BuildStep (n : Nat) : Stage → Stage → Prop
  | push {w : Workspace} {d : Document} {node : Node} : n ≤ d.slots.size →
      node.parent = none → node.attributes = [] → node.children = [] →
      BuildStep n (w, d) (w, (d.push node).1)
  | append {w : Workspace} {d d' : Document} {h k : Handle} : n ≤ h.index → h.index < k.index →
      w.binding? h = none → d.append h k = .ok d' → BuildStep n (w, d) (w, d')
  | place {w : Workspace} {d d' : Document} {h k : Handle} {displaced : Option Handle} :
      n ≤ h.index → h.index < k.index → w.binding? h = none →
      d.placeAttribute h k = .ok (d', displaced) → BuildStep n (w, d) (w, d')
  | setValue {w : Workspace} {d d' : Document} {h : Handle} {value : String} : n ≤ h.index →
      w.binding? h = none → d.isElement h = true → d.setValue h value = .ok d' →
      BuildStep n (w, d) (w, d')
  | bind {w : Workspace} {d : Document} {h : Handle} {c : ConstraintId} : n ≤ h.index →
      w.binding? h = none → d.isElement h = true ∨ d.isAttribute h = true →
      BuildStep n (w, d) (w.bindNode d h c, d)
  | unbind {w : Workspace} {d : Document} {h : Handle} : n ≤ h.index →
      BuildStep n (w, d) (w.unbindNode d h, d)

/-- The second stage comes from the first one by steps about nodes from the handle `n` on. -/
def Builds (n : Nat) : Stage → Stage → Prop :=
  Relation.ReflTransGen (BuildStep n)

/-- Elements and attributes live. -/
theorem contains_of_kinds (hk : d.isElement h = true ∨ d.isAttribute h = true) :
    d.contains h = true := by
  rw [Document.contains_eq_isSome_kind?]
  rcases hk with hk | hk
  · simp only [Document.isElement, decide_eq_true_eq] at hk
    rw [hk]
    rfl
  · simp only [Document.isAttribute, decide_eq_true_eq] at hk
    rw [hk]
    rfl

theorem not_isText_of_kinds (hk : d.isElement h = true ∨ d.isAttribute h = true) :
    d.isText h = false := by
  rw [← Bool.not_eq_true]
  intro ht
  rcases hk with hk | hk
  · rw [Document.not_isElement_of_isText ht] at hk
    simp at hk
  · rw [Document.not_isAttribute_of_isText ht] at hk
    simp at hk

/-- Nothing is bound that is not live. -/
theorem Sound.binding?_of_not_contains (hs : Sound s) (hk : s.2.contains k = false) :
    s.1.binding? k = none := by
  cases hb : s.1.binding? k with
  | none => rfl
  | some c =>
    have := hs.contains_of_bound hb
    rw [hk] at this
    simp at this

theorem Sound.binding?_next (hs : Sound s) : s.1.binding? s.2.next = none :=
  hs.binding?_of_not_contains (Document.contains_eq_false_of_le (Nat.le_refl _))

/-- A step keeps the document in order, and binds live nodes alone. -/
theorem BuildStep.sound (hb : BuildStep n s s') (hs : Sound s) : Sound s' := by
  -- the nodes that are live stay so
  have key : ∀ {w : Workspace} {d d' : Document}, Sound (w, d) → d'.Orderly →
      (∀ k, d.contains k = true → d'.kind? k = d.kind? k) → Sound (w, d') := by
    intro w d d' hs hd' hk
    refine ⟨hd', ?_⟩
    intro k c hb
    have hc := hs.contains_of_bound hb
    rw [Document.contains_congr (hk k hc)]
    exact hc
  cases hb with
  | push _ hp ha hc =>
    exact key hs (hs.orderly.push hp ha hc) fun k hk =>
      ((Document.extends_push _ _).lookups hk).1
  | append hn hlt hb ha =>
    obtain ⟨hr, hpl, -⟩ := Document.relinked_append hs.orderly.toLinked ha
    refine key hs (hr.orderly hs.orderly ?_ (by simp)) fun k _ => hr.kind? k
    rintro x ⟨⟩
    exact ⟨hpl.canHold, hlt⟩
  | place hn hlt hb ha =>
    obtain ⟨hr, hcan, -, hdisplaced⟩ := Document.relinked_placeAttribute hs.orderly.toLinked ha
    refine key hs (hr.orderly hs.orderly ?_ ?_) fun k _ => hr.kind? k
    · rintro x ⟨⟩
      exact ⟨hcan, hlt⟩
    · intro x hx
      rw [hdisplaced] at hx
      exact hs.orderly.parent?_of_mem (Document.mem_inside.mpr
        (Or.inl (Document.mem_of_attribute?_eq_some hx).1))
  | setValue hn hb he hv =>
    exact key hs (hs.orderly.setValue hv) fun k hk =>
      (Document.kind?_of_setValue hs.orderly hv).2 k (Document.index_lt_of_contains hk)
  | @bind w d h c hn hb hk =>
    refine ⟨hs.orderly, ?_⟩
    intro k i hbk
    rw [binding?_bindNode] at hbk
    split_ifs at hbk with hkh
    · rw [hkh]
      exact contains_of_kinds hk
    · exact hs.contains_of_bound hbk
  | @unbind w d h hn =>
    refine ⟨hs.orderly, ?_⟩
    intro k i hbk
    rw [binding?_unbindNode] at hbk
    split_ifs at hbk
    exact hs.contains_of_bound hbk

/-- A step loses no node and leaves all of their kinds. -/
theorem BuildStep.kind? (hb : BuildStep n s s') (hs : Sound s) :
    s.2.slots.size ≤ s'.2.slots.size ∧
      ∀ k, k.index < s.2.slots.size → s'.2.kind? k = s.2.kind? k := by
  cases hb with
  | @push w d node =>
    have hext := Document.extends_push d node
    exact ⟨hext.size, fun k hk => (Document.lookups_congr (hext.node? k hk)).1⟩
  | append _ _ _ ha =>
    have hr := (Document.relinked_append hs.orderly.toLinked ha).1
    exact ⟨Nat.le_of_eq hr.size.symm, fun k _ => hr.kind? k⟩
  | place _ _ _ ha =>
    have hr := (Document.relinked_placeAttribute hs.orderly.toLinked ha).1
    exact ⟨Nat.le_of_eq hr.size.symm, fun k _ => hr.kind? k⟩
  | setValue _ _ _ hv => exact Document.kind?_of_setValue hs.orderly hv
  | bind => exact ⟨Nat.le_refl _, fun _ _ => rfl⟩
  | unbind => exact ⟨Nat.le_refl _, fun _ _ => rfl⟩

/-- A step gives no element two attributes of one name. -/
theorem BuildStep.tidy (hb : BuildStep n s s') (hs : s.2.Tidy) : s'.2.Tidy := by
  cases hb with
  | @push w d node _ hp ha hc =>
    obtain ⟨kind, name, value, parent, children, attributes⟩ := node
    obtain rfl := hp
    obtain rfl := ha
    obtain rfl := hc
    exact hs.push kind name value
  | append _ _ _ ha => exact hs.append ha
  | place _ _ _ ha => exact hs.placeAttribute ha
  | setValue _ _ _ hv => exact hs.setValue hv
  | bind => exact hs
  | unbind => exact hs

/-- A step changes nothing of a workspace but bindings and claims. -/
theorem BuildStep.workspace (hb : BuildStep n s s') :
    s'.1 = { s.1 with bindings := s'.1.bindings, claims := s'.1.claims } := by
  cases hb with
  | push => rfl
  | append => rfl
  | place => rfl
  | setValue => rfl
  | bind => rfl
  | @unbind w d h =>
    show w.unbindNode d h = _
    unfold unbindNode
    split <;> rfl

namespace Builds

theorem refl (n : Nat) (s : Stage) : Builds n s s :=
  Relation.ReflTransGen.refl

theorem trans {s'' : Stage} (h₁ : Builds n s s') (h₂ : Builds n s' s'') : Builds n s s'' :=
  Relation.ReflTransGen.trans h₁ h₂

theorem single (hb : BuildStep n s s') : Builds n s s' :=
  Relation.ReflTransGen.single hb

/-- Building keeps a stage sound. -/
theorem sound (hb : Builds n s s') (hs : Sound s) : Sound s' := by
  induction hb with
  | refl => exact hs
  | tail _ hstep ih => exact hstep.sound ih

/-- Building leaves the kinds of old nodes. -/
theorem kind? (hb : Builds n s s') (hs : Sound s) :
    s.2.slots.size ≤ s'.2.slots.size ∧
      ∀ k, k.index < s.2.slots.size → s'.2.kind? k = s.2.kind? k := by
  induction hb with
  | refl => exact ⟨Nat.le_refl _, fun _ _ => rfl⟩
  | tail hb hstep ih =>
    obtain ⟨hsize, hkind⟩ := hstep.kind? (sound hb hs)
    refine ⟨Nat.le_trans ih.1 hsize, ?_⟩
    intro k hk
    exact (hkind k (Nat.lt_of_lt_of_le hk ih.1)).trans (ih.2 k hk)

/-- Building keeps a document tidy. -/
theorem tidy (hb : Builds n s s') (hs : s.2.Tidy) : s'.2.Tidy := by
  induction hb with
  | refl => exact hs
  | tail _ hstep ih => exact hstep.tidy ih

/-- Building changes nothing of a workspace but bindings and claims. -/
theorem workspace (hb : Builds n s s') :
    s'.1 = { s.1 with bindings := s'.1.bindings, claims := s'.1.claims } := by
  induction hb with
  | refl => rfl
  | tail _ hstep ih =>
    rw [hstep.workspace, ih]

end Builds

/-! ## Creation -/

/-- A way to create nodes builds them. -/
def CreatesBuilt (n : Nat) (create : Stage → ConstraintId → Stage × List Handle) : Prop :=
  ∀ s c, Sound s → n ≤ s.2.slots.size → Builds n s (create s c).1

/-- Appending new nodes is building. -/
theorem builds_appendAll (hn : n ≤ h.index) (hb : w.binding? h = none) {hs : List Handle}
    (hhs : ∀ k ∈ hs, h.index < k.index) : Builds n (w, d) (w, appendAll d h hs) := by
  unfold appendAll
  induction hs generalizing d with
  | nil => exact Builds.refl _ _
  | cons k hs ih =>
    rw [List.foldl_cons]
    refine Builds.trans ?_ (ih fun x hx => hhs x (List.mem_cons_of_mem _ hx))
    cases ha : d.append h k with
    | error fault => exact Builds.refl _ _
    | ok d' => exact Builds.single (.append hn (hhs k (List.mem_cons_self ..)) hb ha)

/-- Placing new attributes is building. -/
theorem builds_placeAll (hn : n ≤ h.index) (hb : w.binding? h = none) {hs : List Handle}
    (hhs : ∀ k ∈ hs, h.index < k.index) : Builds n (w, d) (w, placeAll d h hs) := by
  unfold placeAll
  induction hs generalizing d with
  | nil => exact Builds.refl _ _
  | cons k hs ih =>
    rw [List.foldl_cons]
    refine Builds.trans ?_ (ih fun x hx => hhs x (List.mem_cons_of_mem _ hx))
    cases ha : d.placeAttribute h k with
    | error fault => exact Builds.refl _ _
    | ok r => exact Builds.single (.place hn (hhs k (List.mem_cons_self ..)) hb ha)

section Creating

variable {create : Stage → ConstraintId → Stage × List Handle}

/-- What is created for constraints one after the other is built, and the element that it is for
stays unbound. -/
theorem builds_createEach (hcreate : CreatesBuilt n create) (hloose : CreatesLoose create)
    {place : Document → List Handle → Document}
    (hplace : ∀ {w : Workspace} {d : Document} {hs : List Handle}, w.binding? h = none →
      (∀ k ∈ hs, h.index < k.index) → Builds n (w, d) (w, place d hs))
    (hs : Sound s) (hn : n ≤ h.index) (hh : h.index < s.2.slots.size)
    (hb : s.1.binding? h = none) (cs : List ConstraintId) :
    Builds n s (createEach create place s cs) ∧
      (createEach create place s cs).1.binding? h = none := by
  unfold createEach
  induction cs generalizing s with
  | nil => exact ⟨Builds.refl _ _, hb⟩
  | cons c cs ih =>
    obtain ⟨hg, hnew⟩ := hloose s c hs
    have hmade := hcreate s c hs (by omega)
    have hunbound : (create s c).1.1.binding? h = none := by
      rw [hg.workspace.binding? h (by omega), hb]
    have hplaced := hplace (d := (create s c).1.2) hunbound fun k hk =>
      Nat.lt_of_lt_of_le hh (hnew k hk).new
    have hboth := hmade.trans hplaced
    obtain ⟨hrest, hb'⟩ := ih (hboth.sound hs) (Nat.lt_of_lt_of_le hh (hboth.kind? hs).1) hunbound
    rw [List.foldl_cons]
    exact ⟨hboth.trans hrest, hb'⟩

/-- Creating an element is building. -/
theorem builds_createElement (hcreate : ∀ n, CreatesBuilt n create) (hloose : CreatesLoose create)
    (hs : Sound s) (hn : n ≤ s.2.slots.size) (c : ConstraintId) (e : ContentModel.Entry) :
    Builds n s (createElement create s c e).1 := by
  obtain ⟨w, d⟩ := s
  obtain ⟨shown, hcases, heq⟩ := createElement_cases create w d c e
  have hbegun := raises_push hs e.name
  have hpush : Builds n (w, d) (w, (d.createElement e.name).1) :=
    Builds.single (.push hn rfl rfl rfl)
  have hunbound : w.binding? d.next = none := hs.binding?_next
  have hnext : n ≤ d.next.index := hn
  have hshown : Builds n (w, d) (w, shown) := by
    rcases hcases with rfl | ⟨value, rfl⟩
    · exact hpush
    · cases hv : (d.createElement e.name).1.setValue d.next value with
      | error fault => exact hpush
      | ok d' => exact hpush.trans (Builds.single (.setValue hnext hunbound hbegun.isElement hv))
  have hraised : Raises (w, d) d.next e.name (w, shown) := by
    rcases hcases with rfl | ⟨value, rfl⟩
    · exact hbegun
    · exact hbegun.setValue value
  have hin : d.next.index < shown.slots.size := Document.index_lt_of_contains hraised.contains
  -- the element is bound last, so that it is still unbound while it gets what is inside it
  obtain ⟨hchildren, hb⟩ := builds_createEach (hcreate n) hloose
    (fun hb hhs => builds_appendAll hnext hb hhs) hraised.sound hnext hin hunbound e.children
  have hsound := hchildren.sound hraised.sound
  have hin' := Nat.lt_of_lt_of_le hin (hchildren.kind? hraised.sound).1
  obtain ⟨hattributes, hb'⟩ := builds_createEach (hcreate n) hloose
    (fun hb hhs => builds_placeAll hnext hb hhs) hsound hnext hin' hb e.attributes
  have hfurnished : Builds n (w, shown) (furnish create d.next e (w, shown)) :=
    hchildren.trans hattributes
  have hkind : (furnish create d.next e (w, shown)).2.isElement d.next = true := by
    rw [Document.isElement_congr ((hfurnished.kind? hraised.sound).2 _ hin)]
    exact hraised.isElement
  rw [heq]
  exact (hshown.trans hfurnished).trans (Builds.single (.bind hnext hb' (Or.inl hkind)))

/-- Creating several copies of an element is building. -/
theorem builds_createElements (hcreate : ∀ n, CreatesBuilt n create)
    (hloose : CreatesLoose create) (c : ConstraintId) (e : ContentModel.Entry) (m : Nat)
    (hs : Sound s) (hn : n ≤ s.2.slots.size) :
    Builds n s (createElements create c e m s).1 := by
  induction m generalizing s with
  | zero => exact Builds.refl _ _
  | succ m ih =>
    have hone := builds_createElement hcreate hloose hs hn c e
    rw [createElements]
    exact hone.trans (ih (hone.sound hs) (Nat.le_trans hn (hone.kind? hs).1))

/-- Creating an attribute is building. -/
theorem builds_createAttribute (hs : Sound s) (hn : n ≤ s.2.slots.size) (c : ConstraintId)
    (e : ContentModel.Entry) : Builds n s (createAttribute s c e).1 := by
  obtain ⟨w, d⟩ := s
  have hpush : Builds n (w, d) (w, (d.createAttribute e.name (e.preset?.getD "")).1) :=
    Builds.single (.push hn rfl rfl rfl)
  refine hpush.trans (Builds.single (.bind hn ?_ (Or.inr ?_)))
  · exact hs.binding?_next
  · simp [Document.isAttribute, Document.kind?, Document.createAttribute, Document.node?_push]

/-- What has to be there for constraints one after the other is built. -/
theorem builds_foldl (hcreate : CreatesBuilt n create) (cs : List ConstraintId)
    (acc : Stage × List Handle) (hs : Sound acc.1) (hn : n ≤ acc.1.2.slots.size) :
    Builds n acc.1 (cs.foldl (fun acc c =>
      let r := create acc.1 c
      (r.1, acc.2 ++ r.2)) acc).1 := by
  induction cs generalizing acc with
  | nil => exact Builds.refl _ _
  | cons c cs ih =>
    have hone := hcreate acc.1 c hs hn
    rw [List.foldl_cons]
    exact hone.trans
      (ih (_, acc.2 ++ _) (hone.sound hs) (Nat.le_trans hn (hone.kind? hs).1))

end Creating

/-- Whatever the content model says, what is created inside an element is built. -/
theorem createsBuilt_createInside (fuel n : Nat) : CreatesBuilt n (createInside fuel) := by
  induction fuel generalizing n with
  | zero =>
    intro s c _ _
    exact Builds.refl _ _
  | succ fuel ih =>
    intro s c hs hn
    rw [createInside]
    cases he : s.1.model.get? c with
    | none => exact Builds.refl _ _
    | some e =>
      dsimp only
      cases e.kind with
      | «attribute» =>
        dsimp only
        split
        · exact builds_createAttribute hs hn c e
        · exact Builds.refl _ _
      | element =>
        exact builds_createElements ih (createsLoose_createInside fuel) c e _ hs hn
      | choice =>
        cases e.children with
        | nil => exact Builds.refl _ _
        | cons first rest => exact ih n s first hs hn
      | sequence => exact builds_foldl (ih n) e.children (s, []) hs hn
      | group => exact Builds.refl _ _

/-- Creating for a constraint builds new nodes. -/
theorem builds_create (hs : Sound (w, d)) (c : ConstraintId) :
    Builds d.slots.size (w, d) (w.create d c).1 := by
  unfold create
  cases he : w.model.get? c with
  | none => exact Builds.refl _ _
  | some e =>
    dsimp only
    cases e.kind with
    | element =>
      exact builds_createElement (createsBuilt_createInside _) (createsLoose_createInside _) hs
        (Nat.le_refl _) c e
    | «attribute» => exact builds_createAttribute hs (Nat.le_refl _) c e
    | choice => exact Builds.refl _ _
    | sequence => exact Builds.refl _ _
    | group => exact Builds.refl _ _

/-! ## Binding -/

/-- Nothing at or below the node is bound. -/
def Unbound (w : Workspace) (d : Document) (h : Handle) : Prop :=
  ∀ k, d.Within h k → w.binding? k = none

theorem Unbound.rebinds {P : Handle → Prop} (hu : Unbound w d h) (hr : Rebinds P w w')
    (hP : ∀ k, d.Within h k → ¬ P k) : Unbound w' d h :=
  fun k hk => (hr.binding? k (hP k hk)).trans (hu k hk)

/-- What lies below a node came after it. -/
theorem le_index_of_within (hd : d.Orderly) (hn : n ≤ h.index) (hk : d.Within h k) :
    n ≤ k.index :=
  Nat.le_trans hn (hk.rank_le fun _ _ hp => hd.parent_lt hp)

/-- Unbinding builds nothing new. -/
theorem builds_unbind (hd : d.Orderly) (hn : n ≤ h.index) (w : Workspace) :
    Builds n (w, d) (w.unbind d h, d) := by
  have hall : ∀ k ∈ d.subtree h, n ≤ k.index := fun k hk =>
    le_index_of_within hd hn (Document.within_of_mem_subtreeAux hd.toLinked hk)
  unfold unbind
  generalize d.subtree h = ks at hall
  induction ks generalizing w with
  | nil => exact Builds.refl _ _
  | cons k ks ih =>
    rw [List.foldl_cons]
    exact (Builds.single (.unbind (hall k (List.mem_cons_self ..)))).trans
      (ih _ fun x hx => hall x (List.mem_cons_of_mem _ hx))

/-- Binding attributes that are new and unbound is building. -/
theorem builds_bindAttributes (c : ConstraintId) {as : List Handle} (hnd : as.Nodup)
    (has : ∀ a ∈ as, n ≤ a.index ∧ d.isAttribute a = true ∧ w.binding? a = none) :
    Builds n (w, d) ((w.bindAttributes d c as).1, d) := by
  induction as generalizing w with
  | nil => exact Builds.refl _ _
  | cons a as ih =>
    rw [List.nodup_cons] at hnd
    obtain ⟨hn, hattr, hb⟩ := has a (List.mem_cons_self ..)
    rw [bindAttributes]
    split
    · rename_i i _
      refine (Builds.single (.bind hn hb (Or.inr hattr))).trans (ih hnd.2 ?_)
      intro x hx
      obtain ⟨hxn, hxa, hxb⟩ := has x (List.mem_cons_of_mem _ hx)
      refine ⟨hxn, hxa, ?_⟩
      rw [binding?_bindNode, if_neg, hxb]
      rintro rfl
      exact hnd.1 hx
    · split
      · exact ih hnd.2 fun x hx => has x (List.mem_cons_of_mem _ hx)
      · exact Builds.refl _ _

section Binders

variable {binder : Binder}

/-- Where nothing is bound yet, the binder builds what it binds, and where it cannot bind, nothing
is bound afterwards. -/
def BindsBuilt (n : Nat) (d : Document) (binder : Binder) : Prop :=
  ∀ w h c, n ≤ h.index → Unbound w d h → Builds n (w, d) ((binder w h c).1, d) ∧
    ((binder w h c).2 = false → Unbound (binder w h c).1 d h)

variable (hd : d.Forest) (hlocal : IsLocal d binder)

include hd hlocal

/-- Binding one sibling leaves the others unbound. -/
theorem unbound_of_sibling {hs : List Handle} (hsib : Siblings d (h :: hs) p)
    (hu : ∀ x ∈ hs, Unbound w d x) : ∀ x ∈ hs, Unbound (binder w h c).1 d x := by
  intro x hx
  refine (hu x hx).rebinds (hlocal w h c) ?_
  intro k hxk hhk
  exact hsib.disjoint_tail hd hhk ⟨x, hx, hxk⟩

variable (hb : BindsBuilt n d binder)

include hb

/-- Binding a run that is new and unbound is building, and what is left of it is still unbound. -/
theorem builds_bindRun {hs : List Handle} (hsib : Siblings d hs p)
    (hs' : ∀ x ∈ hs, n ≤ x.index ∧ Unbound w d x) :
    Builds n (w, d) ((bindRun binder c w hs).1, d) ∧
      ∀ x ∈ (bindRun binder c w hs).2, Unbound (bindRun binder c w hs).1 d x := by
  induction hs generalizing w with
  | nil => exact ⟨Builds.refl _ _, by simp [bindRun]⟩
  | cons h hs ih =>
    obtain ⟨hn, hu⟩ := hs' h (List.mem_cons_self ..)
    obtain ⟨hbuilt, hfail⟩ := hb w h c hn hu
    have hrest : ∀ x ∈ hs, Unbound (binder w h c).1 d x :=
      unbound_of_sibling hd hlocal hsib fun x hx => (hs' x (List.mem_cons_of_mem _ hx)).2
    rw [bindRun]
    -- a run goes on while siblings can be bound; the one it stops at is left unbound again
    split
    · obtain ⟨hbuilt', hleft⟩ := ih hsib.tail fun x hx =>
        ⟨(hs' x (List.mem_cons_of_mem _ hx)).1, hrest x hx⟩
      exact ⟨hbuilt.trans hbuilt', hleft⟩
    · rename_i hfalse
      rw [Bool.not_eq_true] at hfalse
      refine ⟨hbuilt, ?_⟩
      intro x hx
      rcases List.mem_cons.mp hx with rfl | hx
      · exact hfail hfalse
      · exact hrest x hx

/-- Matching elements that are new and unbound is building. -/
theorem builds_matchContent (m : ContentModel) {hs : List Handle} (hsib : Siblings d hs p)
    (hs' : ∀ x ∈ hs, n ≤ x.index ∧ Unbound w d x) (cs : List ConstraintId) :
    Builds n (w, d) ((matchContent binder m w hs cs).1, d) := by
  fun_induction matchContent binder m w hs cs with
  | case1 w cs => exact Builds.refl _ _
  | case2 w h hs => exact Builds.refl _ _
  | case3 w h hs c cs r hr run ih =>
    obtain ⟨hn, hu⟩ := hs' h (List.mem_cons_self ..)
    have hrest : ∀ x ∈ hs, Unbound (binder w h c).1 d x :=
      unbound_of_sibling hd hlocal hsib fun x hx => (hs' x (List.mem_cons_of_mem _ hx)).2
    obtain ⟨hrun, hleft⟩ := builds_bindRun hd hlocal hb (c := c) hsib.tail fun x hx =>
      ⟨(hs' x (List.mem_cons_of_mem _ hx)).1, hrest x hx⟩
    -- what the run leaves goes on to the next constraint
    have hsuffix := (rebinds_bindRun hlocal c (binder w h c).1 hs).2
    refine ((hb w h c hn hu).1.trans hrun).trans (ih (hsib.tail.of_suffix hsuffix) ?_)
    intro x hx
    exact ⟨(hs' x (List.mem_cons_of_mem _ (hsuffix.mem hx))).1, hleft x hx⟩
  | case4 w h hs c cs r hr hd' ih =>
    obtain ⟨hn, hu⟩ := hs' h (List.mem_cons_self ..)
    obtain ⟨hbuilt, hfail⟩ := hb w h c hn hu
    refine hbuilt.trans (ih hsib ?_)
    intro x hx
    refine ⟨(hs' x hx).1, ?_⟩
    rcases List.mem_cons.mp hx with rfl | hx
    · exact hfail (by simpa using hr)
    · exact unbound_of_sibling hd hlocal hsib
        (fun x hx => (hs' x (List.mem_cons_of_mem _ hx)).2) x hx
  | case5 w h hs c cs r hr hd' =>
    obtain ⟨hn, hu⟩ := hs' h (List.mem_cons_self ..)
    exact (hb w h c hn hu).1

end Binders

/-- What lies inside an element of new nodes is new and not bound, as the element itself. -/
theorem unbound_inside (hd : d.Orderly) (hn : n ≤ h.index) (hu : Unbound w d h) {x : Handle}
    (hx : x ∈ d.inside h) : n ≤ x.index ∧ Unbound w d x := by
  have hpar := hd.parent?_of_mem hx
  have hw : d.Within h x := (Within.self (hd.toLinked.contains_parent hpar)).step hpar
  exact ⟨le_index_of_within hd hn hw, fun k hk => hu k (hw.trans hk)⟩

/-- Binding the attributes of an element leaves the elements inside it unbound. -/
theorem unbound_elements (hd : d.Orderly) (hn : n ≤ h.index) (hu : Unbound w d h)
    (c : ConstraintId) : ∀ x ∈ d.elements h,
      n ≤ x.index ∧ Unbound (w.bindAttributes d c (d.attributes h)).1 d x := by
  intro x hx
  obtain ⟨hle, hux⟩ :=
    unbound_inside hd hn hu (Document.mem_inside.mpr (Or.inr (Document.mem_elements.mp hx).1))
  refine ⟨hle, hux.rebinds (rebinds_bindAttributes w d c (d.attributes h)) ?_⟩
  exact fun k hk ha => hd.forest.not_within_attribute ha hx hk

theorem builds_attributes (hd : d.Orderly) (hn : n ≤ h.index) (hu : Unbound w d h)
    (c : ConstraintId) : Builds n (w, d) ((w.bindAttributes d c (d.attributes h)).1, d) := by
  refine builds_bindAttributes c (hd.nodup_attributes h) fun a ha => ?_
  have hmem := Document.mem_inside.mpr (Or.inl ha)
  obtain ⟨hle, hua⟩ := unbound_inside hd hn hu hmem
  exact ⟨hle, (hd.kinds_of_attribute ha).1, hua a (Within.self (hd.contains_of_mem hmem))⟩

/-- Binding what lies inside an element does not touch the element itself. -/
theorem binding?_matchContent (hd : d.Forest) {binder : Binder} (hlocal : IsLocal d binder)
    (m : ContentModel) (c : ConstraintId) (cs : List ConstraintId) :
    (matchContent binder m (w.bindAttributes d c (d.attributes h)).1 (d.elements h) cs).1.binding? h
      = w.binding? h := by
  have hout : ∀ x ∈ d.inside h, ¬ d.Within x h := fun x hx =>
    Within.not_within_parent hd.acyclic (hd.parent?_of_mem hx)
  rw [(rebinds_matchContent hlocal m _ _ _).binding? h,
    (rebinds_bindAttributes w d c _).binding? h]
  · intro ha
    have hmem := Document.mem_inside.mpr (Or.inl ha)
    exact hout h hmem (Within.self (hd.contains_of_mem hmem))
  · rintro ⟨x, hx, hxh⟩
    exact hout x (Document.mem_inside.mpr (Or.inr (Document.mem_elements.mp hx).1)) hxh

/-- With any fuel binding is building. -/
theorem bindsBuilt_bindAux (hd : d.Orderly) (fuel n : Nat) :
    BindsBuilt n d (bindAux d fuel) := by
  induction fuel with
  | zero =>
    intro w h c _ hu
    exact ⟨Builds.refl _ _, fun _ => hu⟩
  | succ fuel ih =>
    intro w h c hn hu
    have hlocal := isLocal_bindAux hd.toLinked fuel
    have hsib : Siblings d (d.elements h) h :=
      ⟨hd.nodup_elements h, fun x hx => hd.parent?_of_mem_elements hx⟩
    have hattrs := builds_attributes hd hn hu c
    have hcontent := builds_matchContent hd.forest hlocal ih w.model hsib
      (unbound_elements hd hn hu c) (w.model.contentElements c)
    have hunbind := fun w : Workspace => (builds_unbind hd hn w : Builds n _ _)
    have hclean : ∀ w : Workspace, Unbound (w.unbind d h) d h := fun w k hk =>
      binding?_unbind_of_within hd.forest w hk
    rw [bindAux]
    split
    · exact ⟨Builds.refl _ _, fun _ => hu⟩
    · rename_i hf
      have helement : d.isElement h = true := isElement_of_fits (by simpa using hf)
      have hself : d.Within h h := Within.self (Document.contains_of_isElement helement)
      dsimp only
      -- where attributes or content do not match, everything is unbound again
      split
      · exact ⟨hattrs.trans (hunbind _), fun _ => hclean _⟩
      · split
        · refine ⟨(hattrs.trans hcontent).trans (Builds.single (.bind hn ?_ (Or.inl helement))),
            by simp⟩
          exact (binding?_matchContent hd.forest hlocal w.model c _).trans (hu h hself)
        · exact ⟨(hattrs.trans hcontent).trans (hunbind _), fun _ => hclean _⟩

/-- Binding an element at and below which nothing is bound yet builds what it binds, and where it is
not possible, nothing is bound afterwards. -/
theorem builds_bind (hd : d.Orderly) (hn : n ≤ h.index) (hu : Unbound w d h) (c : ConstraintId) :
    Builds n (w, d) ((w.bind d h c).1, d) := by
  obtain ⟨hbuilt, -⟩ := bindsBuilt_bindAux hd d.slots.size n w h c hn hu
  unfold bind
  dsimp only
  split
  · exact hbuilt
  · exact hbuilt.trans (builds_unbind hd hn _)

end GuidedXml.Workspace
