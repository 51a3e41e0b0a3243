/-
# Creation and binding within a region

What is created, and what an element is bound to, is settled by the content model and the nodes of
one region. No other node, and nothing that is bound elsewhere, makes a difference.

The main statements say that creation makes the same nodes in all stages that agree on a region, and
that binding does the same in all documents that do.
-/
import GuidedXml.Proofs.Document.Region
import GuidedXml.Proofs.Editing.Creation

namespace GuidedXml.Workspace

open Document (SameRegion)
open Schema (ConstraintId ContentModel)

variable {n : Nat} {s t : Stage} {d d' : Document} {h p : Handle} {hs : List Handle}
  {c : ConstraintId} {cs : List ConstraintId}

/-! ## Stages -/

/-- The stages agree on the region from the handle `n` on, and what is bound in the first one is
bound alike in the second one. -/
structure Echoes (n : Nat) (s t : Stage) : Prop where
  model : t.1.model = s.1.model
  region : SameRegion n s.2 t.2
  bound : ∀ k c, s.1.binding? k = some c → t.1.binding? k = some c

namespace Echoes

/-- Stages that echo each other do so after a node is bound in both. -/
theorem bindNode (he : Echoes n s t) (h : Handle) (c : ConstraintId) :
    Echoes n (s.1.bindNode s.2 h c, s.2) (t.1.bindNode t.2 h c, t.2) where
  model := he.model
  region := he.region
  bound := by
    intro k i hb
    rw [binding?_bindNode] at hb ⊢
    split_ifs at hb ⊢
    · exact hb
    · exact he.bound k i hb

/-- They do so after a node of the region is appended in both. -/
theorem append (he : Echoes n s t) (hp : n ≤ p.index) (hh : n ≤ h.index) :
    Echoes n (s.1, keepOr s.2 (s.2.append p h)) (t.1, keepOr t.2 (t.2.append p h)) := by
  rcases he.region.append hp hh with ⟨fault, hs, ht⟩ | ⟨e, e', hs, ht, hr⟩
  · rw [hs, ht]
    exact he
  · rw [hs, ht]
    exact ⟨he.model, hr, he.bound⟩

/-- They do so after an attribute of the region is placed in both. -/
theorem place (he : Echoes n s t) (hp : n ≤ p.index) (hh : n ≤ h.index) :
    Echoes n (s.1, keepOr s.2 ((s.2.placeAttribute p h).map Prod.fst))
      (t.1, keepOr t.2 ((t.2.placeAttribute p h).map Prod.fst)) := by
  rcases he.region.placeAttribute hp hh with ⟨fault, hs, ht⟩ | ⟨e, e', old, hs, ht, hr⟩
  · rw [hs, ht]
    exact he
  · rw [hs, ht]
    exact ⟨he.model, hr, he.bound⟩

/-- They do so after a value is set in the region in both. -/
theorem setValue (he : Echoes n s t) (hh : n ≤ h.index) (value : String) :
    Echoes n (s.1, keepOr s.2 (s.2.setValue h value)) (t.1, keepOr t.2 (t.2.setValue h value)) := by
  rcases he.region.setValue hh value with ⟨fault, hs, ht⟩ | ⟨e, e', hs, ht, hr⟩
  · rw [hs, ht]
    exact he
  · rw [hs, ht]
    exact ⟨he.model, hr, he.bound⟩

/-- They do so after several nodes of the region are appended in both. -/
theorem appendAll (he : Echoes n s t) (hp : n ≤ p.index) (hhs : ∀ h ∈ hs, n ≤ h.index) :
    Echoes n (s.1, appendAll s.2 p hs) (t.1, appendAll t.2 p hs) := by
  induction hs generalizing s t with
  | nil => exact he
  | cons h hs ih =>
    exact ih (he.append hp (hhs h (List.mem_cons_self ..)))
      fun x hx => hhs x (List.mem_cons_of_mem _ hx)

/-- They do so after several attributes of the region are placed in both. -/
theorem placeAll (he : Echoes n s t) (hp : n ≤ p.index) (hhs : ∀ h ∈ hs, n ≤ h.index) :
    Echoes n (s.1, placeAll s.2 p hs) (t.1, placeAll t.2 p hs) := by
  induction hs generalizing s t with
  | nil => exact he
  | cons h hs ih =>
    exact ih (he.place hp (hhs h (List.mem_cons_self ..)))
      fun x hx => hhs x (List.mem_cons_of_mem _ hx)

end Echoes

/-! ## Creation -/

/-- What was made in two stages: the same nodes of the region, and the stages still agree on it. -/
structure MadeAlike (n : Nat) (r r' : Stage × List Handle) : Prop where
  echoes : Echoes n r.1 r'.1
  handles : r'.2 = r.2
  le : ∀ h ∈ r.2, n ≤ h.index

/-- Where nothing is made, it is made alike. -/
theorem MadeAlike.nothing (he : Echoes n s t) : MadeAlike n (s, []) (t, []) :=
  ⟨he, rfl, by simp⟩

section Creating

variable {create : Stage → ConstraintId → Stage × List Handle}

/-- A way to create nodes makes the same ones in stages that agree. -/
def CreatesAlike (n : Nat) (create : Stage → ConstraintId → Stage × List Handle) : Prop :=
  ∀ s t c, Echoes n s t → MadeAlike n (create s c) (create t c)

/-- Creation of one constraint after the other keeps the echo. -/
theorem Echoes.createEach {place : Document → List Handle → Document} (he : Echoes n s t)
    (hcreate : CreatesAlike n create)
    (hplace : ∀ {s t : Stage} {hs : List Handle}, Echoes n s t → (∀ h ∈ hs, n ≤ h.index) →
      Echoes n (s.1, place s.2 hs) (t.1, place t.2 hs)) :
    Echoes n (createEach create place s cs) (createEach create place t cs) := by
  unfold Workspace.createEach
  induction cs generalizing s t with
  | nil => exact he
  | cons c cs ih =>
    obtain ⟨hmade, hhandles, hle⟩ := hcreate s t c he
    have hplaced : Echoes n ((create s c).1.1, place (create s c).1.2 (create s c).2)
        ((create t c).1.1, place (create t c).1.2 (create t c).2) := by
      rw [hhandles]
      exact hplace hmade hle
    rw [List.foldl_cons, List.foldl_cons]
    exact ih hplaced

/-- One element is made alike. -/
theorem madeAlike_createElement (he : Echoes n s t) (hcreate : CreatesAlike n create)
    (e : ContentModel.Entry) :
    MadeAlike n ((createElement create s c e).1, [(createElement create s c e).2])
      ((createElement create t c e).1, [(createElement create t c e).2]) := by
  obtain ⟨w, d⟩ := s
  obtain ⟨w', d'⟩ := t
  have hnext : d'.next = d.next := he.region.next
  have hle : n ≤ d.next.index := he.region.le
  have hbegun : Echoes n (w, (d.createElement e.name).1) (w', (d'.createElement e.name).1) :=
    ⟨he.model, he.region.push rfl rfl rfl, he.bound⟩
  -- the element may get a value, then what is inside it, and is bound last
  have hrest : ∀ {s t : Stage}, Echoes n s t → Echoes n
      ((furnish create d.next e s).1.bindNode (furnish create d.next e s).2 d.next c,
        (furnish create d.next e s).2)
      ((furnish create d.next e t).1.bindNode (furnish create d.next e t).2 d.next c,
        (furnish create d.next e t).2) := fun he =>
    ((he.createEach hcreate fun he hhs => he.appendAll hle hhs).createEach hcreate
      fun he hhs => he.placeAll hle hhs).bindNode d.next c
  refine ⟨?_, congrArg (fun h => [h]) hnext, fun h hh => List.mem_singleton.mp hh ▸ hle⟩
  unfold createElement
  cases e.preset? with
  | none =>
    have hmade := hrest hbegun
    simp only [Document.createElement, Document.push_snd, hnext]
    exact hmade
  | some value =>
    have hmade := hrest (hbegun.setValue hle value)
    simp only [Document.createElement, Document.push_snd, hnext]
    exact hmade

/-- Several copies of an element are made alike. -/
theorem madeAlike_createElements (he : Echoes n s t) (hcreate : CreatesAlike n create)
    (e : ContentModel.Entry) (number : Nat) :
    MadeAlike n (createElements create c e number s) (createElements create c e number t) := by
  induction number generalizing s t with
  | zero => exact MadeAlike.nothing he
  | succ number ih =>
    obtain ⟨hfirst, hhandle, hle⟩ := madeAlike_createElement (c := c) he hcreate e
    obtain ⟨hrest, hhandles, hles⟩ := ih hfirst
    rw [createElements, createElements]
    refine ⟨hrest, ?_, ?_⟩
    · exact congrArg₂ List.cons (List.cons.inj hhandle).1 hhandles
    · intro h hh
      rcases List.mem_cons.mp hh with rfl | hh
      · exact hle _ (List.mem_singleton_self _)
      · exact hles h hh

/-- An attribute is made alike. -/
theorem madeAlike_createAttribute (he : Echoes n s t) (c : ConstraintId) (e : ContentModel.Entry) :
    MadeAlike n ((createAttribute s c e).1, [(createAttribute s c e).2])
      ((createAttribute t c e).1, [(createAttribute t c e).2]) := by
  obtain ⟨w, d⟩ := s
  obtain ⟨w', d'⟩ := t
  have hnext : d'.next = d.next := he.region.next
  have hmade : Echoes n (w, (d.createAttribute e.name (e.preset?.getD "")).1)
      (w', (d'.createAttribute e.name (e.preset?.getD "")).1) :=
    ⟨he.model, he.region.push rfl rfl rfl, he.bound⟩
  have hbound := hmade.bindNode d.next c
  refine ⟨?_, congrArg (fun h => [h]) hnext, fun h hh => List.mem_singleton.mp hh ▸ he.region.le⟩
  simp only [createAttribute, Document.createAttribute, Document.push_snd, hnext]
  exact hbound

/-- What one constraint after the other makes is made alike. -/
theorem madeAlike_foldl (hcreate : CreatesAlike n create) {r r' : Stage × List Handle}
    (hr : MadeAlike n r r') : MadeAlike n
      (cs.foldl (fun acc c =>
        let r := create acc.1 c
        (r.1, acc.2 ++ r.2)) r)
      (cs.foldl (fun acc c =>
        let r := create acc.1 c
        (r.1, acc.2 ++ r.2)) r') := by
  induction cs generalizing r r' with
  | nil => exact hr
  | cons c cs ih =>
    obtain ⟨hmade, hhandles, hle⟩ := hcreate r.1 r'.1 c hr.echoes
    refine ih ⟨hmade, ?_, ?_⟩
    · exact congrArg₂ (· ++ ·) hr.handles hhandles
    · intro h hh
      exact (List.mem_append.mp hh).elim (hr.le h) (hle h)

end Creating

/-- What is created inside an element is the same in stages that agree. -/
theorem createsAlike_createInside (n fuel : Nat) : CreatesAlike n (createInside fuel) := by
  induction fuel with
  | zero => exact fun s t c he => MadeAlike.nothing he
  | succ fuel ih =>
    intro s t c he
    rw [createInside, createInside, he.model]
    cases s.1.model.get? c with
    | none => exact MadeAlike.nothing he
    | some e =>
      dsimp only
      cases e.kind with
      | «attribute» =>
        dsimp only
        split_ifs
        · exact madeAlike_createAttribute he c e
        · exact MadeAlike.nothing he
      | element => exact madeAlike_createElements he ih e _
      | choice =>
        cases e.children with
        | nil => exact MadeAlike.nothing he
        | cons first rest => exact ih s t first he
      | sequence => exact madeAlike_foldl ih (MadeAlike.nothing he)
      | group => exact MadeAlike.nothing he

/-- Creation hands out the same node in stages that agree, and they still agree afterwards. -/
theorem echoes_create {w w' : Workspace} (he : Echoes n (w, d) (w', d')) (c : ConstraintId) :
    Echoes n (w.create d c).1 (w'.create d' c).1 ∧ (w'.create d' c).2 = (w.create d c).2 := by
  have hmodel : w'.model = w.model := he.model
  unfold create
  rw [hmodel]
  cases w.model.get? c with
  | none => exact ⟨he, rfl⟩
  | some e =>
    dsimp only
    cases e.kind with
    | element =>
      obtain ⟨hmade, hhandle, -⟩ :=
        madeAlike_createElement (c := c) he (createsAlike_createInside n w.model.entries.size) e
      exact ⟨hmade, congrArg some (List.cons.inj hhandle).1⟩
    | «attribute» =>
      obtain ⟨hmade, hhandle, -⟩ := madeAlike_createAttribute he c e
      exact ⟨hmade, congrArg some (List.cons.inj hhandle).1⟩
    | choice => exact ⟨he, rfl⟩
    | sequence => exact ⟨he, rfl⟩
    | group => exact ⟨he, rfl⟩

/-! ## Binding -/

section Binding

variable (hr : SameRegion n d d')

include hr

/-- Binding a node of the region is the same in both documents. -/
theorem bindNode_region (w : Workspace) (hh : n ≤ h.index) (c : ConstraintId) :
    w.bindNode d' h c = w.bindNode d h c := by
  rw [bindNode, bindNode, hr.value hh]

/-- Unbinding a node of the region is the same in both documents. -/
theorem unbind_region (w : Workspace) (hh : n ≤ h.index) : w.unbind d' h = w.unbind d h := by
  rw [unbind, unbind, hr.subtree hh]
  refine List.foldl_ext _ _ _ fun w k hk => ?_
  rw [unbindNode, unbindNode, hr.value (hr.subtree_le hh hk)]

/-- Binding attributes of the region is the same in both documents. -/
theorem bindAttributes_region {as : List Handle} (w : Workspace) (has : ∀ a ∈ as, n ≤ a.index)
    (c : ConstraintId) : w.bindAttributes d' c as = w.bindAttributes d c as := by
  induction as generalizing w with
  | nil => rfl
  | cons a as ih =>
    have ha := has a (List.mem_cons_self ..)
    have hrest := fun w => ih w fun x hx => has x (List.mem_cons_of_mem _ hx)
    rw [bindAttributes, bindAttributes, (hr.lookups ha).2.1]
    split
    · rw [bindNode_region hr w ha, hrest]
    · rw [hrest]

/-- Whether a node of the region fits a constraint is the same in both documents. -/
theorem fits_region (w : Workspace) (hh : n ≤ h.index) (c : ConstraintId) :
    w.fits d' h c = w.fits d h c := by
  rw [fits, fits, Document.isElement_congr (hr.lookups hh).1, (hr.lookups hh).2.1,
    hr.runLength hh]

omit hr in
/-- Runs and matchings are settled by what the binder does to the elements in them. -/
theorem bindRun_congr {binder binder' : Binder}
    (hb : ∀ w, ∀ h ∈ hs, ∀ c, binder' w h c = binder w h c)
    (w : Workspace) (c : ConstraintId) : bindRun binder' c w hs = bindRun binder c w hs := by
  induction hs generalizing w with
  | nil => rfl
  | cons h hs ih =>
    rw [bindRun, bindRun, hb w h (List.mem_cons_self ..) c]
    simp only [ih fun w x hx => hb w x (List.mem_cons_of_mem _ hx)]

omit hr in
/-- Matching depends on the binder at the nodes matched only. -/
theorem matchContent_congr {binder binder' : Binder} {m : ContentModel} (w : Workspace)
    (hb : ∀ w, ∀ h ∈ hs, ∀ c, binder' w h c = binder w h c) :
    matchContent binder' m w hs cs = matchContent binder m w hs cs := by
  fun_induction matchContent binder m w hs cs with
  | case1 w cs => rw [matchContent]
  | case2 w h hs => rw [matchContent]
  | case3 w h hs c cs r htrue run ih =>
    have hrest : ∀ w, ∀ x ∈ hs, ∀ c, binder' w x c = binder w x c := fun w x hx =>
      hb w x (List.mem_cons_of_mem _ hx)
    have hsuffix : run.2 <:+ hs := bindRun_suffix binder c r.1 hs
    rw [matchContent, hb w h (List.mem_cons_self ..) c, if_pos htrue, bindRun_congr hrest]
    exact ih fun w x hx => hrest w x (hsuffix.mem hx)
  | case4 w h hs c cs r hfalse hd ih =>
    rw [matchContent, hb w h (List.mem_cons_self ..) c, if_neg hfalse, if_pos hd, ih hb]
  | case5 w h hs c cs r hfalse hd =>
    rw [matchContent, hb w h (List.mem_cons_self ..) c, if_neg hfalse, if_neg hd]

/-- Binding an element of the region does the same in both documents. -/
theorem bindAux_region (fuel : Nat) (w : Workspace) (hh : n ≤ h.index) (c : ConstraintId) :
    bindAux d' fuel w h c = bindAux d fuel w h c := by
  induction fuel generalizing w h c with
  | zero => rfl
  | succ fuel ih =>
    rw [bindAux, bindAux, fits_region hr w hh, (hr.lookups hh).2.2.2.1, hr.elements hh,
      bindAttributes_region hr w (fun a ha => hr.attributes_le hh ha)]
    have hcontent : ∀ v cs, matchContent (bindAux d' fuel) w.model v (d.elements h) cs =
        matchContent (bindAux d fuel) w.model v (d.elements h) cs := fun v cs =>
      matchContent_congr v fun w x hx c => ih w (hr.elements_le hh hx) c
    simp only [hcontent, unbind_region hr _ hh, bindNode_region hr _ hh]

/-- Binding below a node of the region is the same in both documents. -/
theorem bind_region (w : Workspace) (hh : n ≤ h.index) (c : ConstraintId) :
    w.bind d' h c = w.bind d h c := by
  rw [bind, bind, hr.size, bindAux_region hr _ w hh c, unbind_region hr _ hh]

end Binding

end GuidedXml.Workspace
