/-
# Creation without refusals

On its way creation edits the document, and an edit that is refused leaves the document as it was
and goes unnoticed. Creation could as well stop there and say why.

The main statements say that both come to the same where no element declares an attribute twice, and
that what is created for an element is complete then, however the compositors of the content are
nested.
-/
import GuidedXml.Proofs.Conformance.Completion
import GuidedXml.Proofs.Conformance.Rebinding

namespace GuidedXml.Workspace

open Schema (ConstraintId ContentModel)

/-! ## Creation that may be refused -/

section Attempts

variable (attempt : Stage → ConstraintId → Except Fault (Stage × List Handle))

/-- Place nodes at the end of an element one after the other. -/
def appendEach (d : Document) (element : Handle) (hs : List Handle) : Except Fault Document :=
  hs.foldlM (fun d h => d.append element h) d

/-- Place attributes at an element one after the other. -/
def placeEach (d : Document) (element : Handle) (hs : List Handle) : Except Fault Document :=
  hs.foldlM (fun d h => (d.placeAttribute element h).map Prod.fst) d

/-- Create nodes for constraints one after the other, and place them as they are created. -/
def attemptEach (place : Document → List Handle → Except Fault Document) (s : Stage)
    (cs : List ConstraintId) : Except Fault Stage :=
  cs.foldlM (fun s c => do
    let r ← attempt s c
    let d ← place r.1.2 r.2
    return (r.1.1, d)) s

/-- Create what has to be inside an element: the children first, and then the attributes. -/
def attemptFurnish (h : Handle) (e : ContentModel.Entry) (s : Stage) : Except Fault Stage := do
  let s ← attemptEach attempt (fun d hs => appendEach d h hs) s e.children
  attemptEach attempt (fun d hs => placeEach d h hs) s e.attributes

/-- Create an element, with what `attempt` makes for each constraint inside its own. -/
def attemptElement (s : Stage) (c : ConstraintId) (e : ContentModel.Entry) :
    Except Fault (Stage × Handle) := do
  let (d, h) := s.2.createElement e.name
  let d ← match e.preset? with
    | some value => d.setValue h value
    | none => .ok d
  let s ← attemptFurnish attempt h e (s.1, d)
  return ((s.1.bindNode s.2 h c, s.2), h)

/-- Create a number of elements of one constraint. -/
def attemptElements (c : ConstraintId) (e : ContentModel.Entry) :
    Nat → Stage → Except Fault (Stage × List Handle)
  | 0, s => .ok (s, [])
  | n + 1, s => do
    let (s, h) ← attemptElement attempt s c e
    let (s, hs) ← attemptElements c e n s
    return (s, h :: hs)

end Attempts

/-- Create what has to be there for a constraint inside another one, at most `fuel` levels deep. -/
def attemptInside : Nat → Stage → ConstraintId → Except Fault (Stage × List Handle)
  | 0, s, _ => .ok (s, [])
  | fuel + 1, s, c =>
    match s.1.model.get? c with
    | none => .ok (s, [])
    | some e =>
      match e.kind with
      | .attribute =>
        if e.use = some .required || e.hasPreset then
          let (s, a) := createAttribute s c e
          .ok (s, [a])
        else .ok (s, [])
      | .element => attemptElements (attemptInside fuel) c e e.occurs.min s
      | .choice =>
        match e.children with
        | [] => .ok (s, [])
        | first :: _ => attemptInside fuel s first
      | .sequence =>
        e.children.foldlM (fun acc c => do
          let r ← attemptInside fuel acc.1 c
          return (r.1, acc.2 ++ r.2)) (s, [])
      | .group => .ok (s, [])

/-- Create an element or attribute, or say why an edit on the way was refused. -/
def attempt (w : Workspace) (d : Document) (c : ConstraintId) :
    Except Fault (Stage × Option Handle) :=
  match w.model.get? c with
  | none => .ok ((w, d), none)
  | some e =>
    match e.kind with
    | .element => do
      let (s, h) ← attemptElement (attemptInside w.model.entries.size) (w, d) c e
      return (s, some h)
    | .attribute =>
      let (s, a) := createAttribute (w, d) c e
      .ok (s, some a)
    | _ => .ok ((w, d), none)

variable {m : ContentModel} {n : Nat} {s s₀ t : Stage} {w : Workspace} {d : Document}
  {h k x : Handle} {name : String} {c : ConstraintId} {hs : List Handle}
  {attrs : List ConstraintId}

/-- An edit that is not refused is followed by what comes next. -/
theorem ok_bind {α β : Type} (a : α) (f : α → Except Fault β) : (Except.ok a >>= f) = f a := rfl

/-! ## Placing without refusals -/

/-- Elements that wait for their places get them, in every stage that agrees. -/
theorem appendEach_eq_ok (hf : Furnishing True s₀ h name hs attrs s) (he : Echoes n s t)
    (hn : n ≤ h.index) (hle : ∀ x ∈ hs, n ≤ x.index) (hnd : hs.Nodup)
    (hhs : ∀ x ∈ hs, s.2.isElement x = true ∧ s.2.parent? x = none ∧ h.index < x.index) :
    appendEach t.2 h hs = .ok (appendAll t.2 h hs) := by
  induction hs generalizing s t with
  | nil => rfl
  | cons x hs ih =>
    obtain ⟨hx, hroot, hlt⟩ := hhs x (List.mem_cons_self ..)
    obtain ⟨d, hd, hr, hplaced⟩ := hf.append hx hroot hlt
    have hxn := hle x (List.mem_cons_self ..)
    have hecho := he.append hn hxn
    obtain ⟨fault, hno, -⟩ | ⟨e, e', hok, hok', -⟩ := he.region.append hn hxn
    · rw [hd] at hno
      simp at hno
    · rw [List.nodup_cons] at hnd
      rw [hd, hok'] at hecho
      have hrest := ih hplaced hecho (fun y hy => hle y (List.mem_cons_of_mem _ hy)) hnd.2
        (hr.waiting hnd.1 fun y hy => hhs y (List.mem_cons_of_mem _ hy))
      rw [appendEach, List.foldlM_cons, hok', appendAll, List.foldl_cons, hok']
      exact hrest

/-- An attribute that waits for its place gets it, in every stage that agrees. -/
theorem placeEach_eq_ok (hf : Furnishing True s₀ h name [x] attrs s) (he : Echoes n s t)
    (hn : n ≤ h.index) (hle : n ≤ x.index) (hx : s.2.isAttribute x = true)
    (hroot : s.2.parent? x = none) : placeEach t.2 h [x] = .ok (placeAll t.2 h [x]) := by
  obtain ⟨r, hr⟩ := Document.placeAttribute_of_canHold hf.isElement hx hroot
  obtain ⟨fault, hno, -⟩ | ⟨e, e', old, -, hok', -⟩ := he.region.placeAttribute hn hle
  · rw [hr] at hno
    simp at hno
  · rw [placeEach, List.foldlM_cons, hok', placeAll, List.foldl_cons, hok']
    rfl

/-! ## Creating without refusals -/

section Creating

variable {attempt : Stage → ConstraintId → Except Fault (Stage × List Handle)}
  {create : Stage → ConstraintId → Stage × List Handle} {cs : List ConstraintId}
  {e : ContentModel.Entry}

/-- For each of the constraints nothing is refused, in any stage that agrees with a sound one. -/
def Unrefused (n : Nat) (m : ContentModel)
    (attempt : Stage → ConstraintId → Except Fault (Stage × List Handle))
    (create : Stage → ConstraintId → Stage × List Handle) (cs : List ConstraintId) : Prop :=
  ∀ c ∈ cs, ∀ s t, Sound s → s.1.model = m → Echoes n s t → attempt t c = .ok (create t c)

theorem attemptEach_cons {place : Document → List Handle → Except Fault Document}
    {r : Stage × List Handle} (hmade : attempt t c = .ok r) (hplaced : place r.1.2 r.2 = .ok d) :
    attemptEach attempt place t (c :: cs) = attemptEach attempt place (r.1.1, d) cs := by
  rw [attemptEach, List.foldlM_cons, hmade, ok_bind, hplaced]
  rfl

theorem Furnishing.attemptChildren (hf : Furnishing True s₀ h name [] attrs s)
    (hm : s.1.model = m) (he : Echoes n s t) (hn : n ≤ h.index)
    (hmakes : MakesElementsOf True m create cs) (halike : CreatesAlike n create)
    (hfree : Unrefused n m attempt create cs) :
    attemptEach attempt (fun d hs => appendEach d h hs) t cs =
      .ok (createEach create (fun d hs => Workspace.appendAll d h hs) t cs) := by
  induction cs generalizing s t with
  | nil => rfl
  | cons c cs ih =>
    obtain ⟨hmade, helements⟩ := hmakes c (List.mem_cons_self ..) s hf.sound hm
    obtain ⟨hecho, hhandles, hle⟩ := halike s t c he
    have hlt := Document.index_lt_of_contains hf.contains
    have hgrown := hf.grow hmade
    have hwait : ∀ x ∈ (create s c).2, (create s c).1.2.isElement x = true ∧
        (create s c).1.2.parent? x = none ∧ h.index < x.index := fun x hx =>
      ⟨helements x hx, (hmade.loose x hx).detached, Nat.lt_of_lt_of_le hlt (hmade.loose x hx).new⟩
    have hplaced := appendEach_eq_ok hgrown hecho hn hle hmade.nodup hwait
    have hrest := ih (hgrown.appendAll hmade.nodup hwait) (hmade.grows.workspace.model.trans hm)
      (hecho.appendAll hn hle) (fun c' hc' => hmakes c' (List.mem_cons_of_mem _ hc'))
      fun c' hc' => hfree c' (List.mem_cons_of_mem _ hc')
    rw [← hhandles] at hplaced hrest
    exact (attemptEach_cons (hfree c (List.mem_cons_self ..) s t hf.sound hm he) hplaced).trans
      hrest

theorem Furnishing.attemptAttributes (hf : Furnishing True s₀ h name [] attrs s)
    (hm : s.1.model = m) (he : Echoes n s t) (hn : n ≤ h.index)
    (hmakes : MakesAttributesOf True m create cs) (halike : CreatesAlike n create)
    (hfree : Unrefused n m attempt create cs) (hdist : ((attrs ++ cs).map m.name).Nodup) :
    attemptEach attempt (fun d hs => placeEach d h hs) t cs =
      .ok (createEach create (fun d hs => Workspace.placeAll d h hs) t cs) := by
  induction cs generalizing s t attrs with
  | nil => rfl
  | cons c cs ih =>
    obtain ⟨hmade, hcases⟩ := hmakes c (List.mem_cons_self ..) s hf.sound hm
    obtain ⟨hecho, hhandles, hle⟩ := halike s t c he
    have hone : Furnishing True s₀ h name [] (attrs ++ [c])
        (createEach create (fun d hs => Workspace.placeAll d h hs) s [c]) := hf.createAttributes hm
      (fun c' hc' => hmakes c' (List.mem_cons.mpr (Or.inl (List.mem_singleton.mp hc'))))
      fun _ => by
        refine hdist.sublist (List.Sublist.map _ (List.Sublist.append_left ?_ _))
        exact List.singleton_sublist.mpr (List.mem_cons_self ..)
    have hplaced : placeEach (create t c).1.2 h (create t c).2 =
        .ok (Workspace.placeAll (create t c).1.2 h (create t c).2) := by
      rw [hhandles]
      rcases hcases with hnil | ⟨a, ha, hattr, -⟩
      · rw [hnil]
        rfl
      · have hmem : a ∈ (create s c).2 := by simp [ha]
        have hgrown := hf.grow hmade
        rw [ha] at hgrown ⊢
        exact placeEach_eq_ok hgrown hecho hn (hle a hmem) hattr (hmade.loose a hmem).detached
    have hrest := ih hone (hmade.grows.workspace.model.trans hm) (hecho.placeAll hn hle)
      (fun c' hc' => hmakes c' (List.mem_cons_of_mem _ hc'))
      (fun c' hc' => hfree c' (List.mem_cons_of_mem _ hc')) (by
        rw [List.append_assoc]
        exact hdist)
    rw [← hhandles] at hrest
    exact (attemptEach_cons (hfree c (List.mem_cons_self ..) s t hf.sound hm he) hplaced).trans
      hrest

/-- What is inside an element can be made and placed. -/
theorem Furnishing.attemptFurnish (hf : Furnishing True s₀ h name [] [] s) (hm : s.1.model = m)
    (he : Echoes n s t) (hn : n ≤ h.index)
    (hchildren : MakesElementsOf True m create e.children)
    (hattributes : MakesAttributesOf True m create e.attributes) (halike : CreatesAlike n create)
    (hfree : Unrefused n m attempt create (e.children ++ e.attributes))
    (hdist : (e.attributes.map m.name).Nodup) :
    attemptFurnish attempt h e t = .ok (furnish create h e t) := by
  have hfilled := hf.createChildren hm hchildren
  have hecho : Echoes n (createEach create (fun d hs => Workspace.appendAll d h hs) s e.children)
      (createEach create (fun d hs => Workspace.appendAll d h hs) t e.children) :=
    he.createEach halike fun he hhs => he.appendAll hn hhs
  rw [Workspace.attemptFurnish, hf.attemptChildren hm he hn hchildren halike
    fun c' hc' => hfree c' (List.mem_append_left _ hc'), ok_bind]
  refine hfilled.attemptAttributes ?_ hecho hn hattributes halike
    (fun c' hc' => hfree c' (List.mem_append_right _ hc')) ?_
  · rw [hfilled.workspace.model, ← hf.workspace.model]
    exact hm
  · rw [List.nil_append]
    exact hdist

theorem attemptElement_eq_ok (hs : Sound s) (hm : s.1.model = m) (he : Echoes n s t)
    (hc : m.get? c = some e) (hk : e.kind = .element)
    (hchildren : MakesElementsOf True m create e.children)
    (hattributes : MakesAttributesOf True m create e.attributes) (halike : CreatesAlike n create)
    (hfree : Unrefused n m attempt create (e.children ++ e.attributes))
    (hdist : m.AttributesDistinct) :
    attemptElement attempt t c e = .ok (createElement create t c e) := by
  have hnd : (e.attributes.map m.name).Nodup := by
    have has : m.attributes c = e.attributes := by rw [ContentModel.attributes, hc]; rfl
    rw [← has]
    exact hdist c (by rw [ContentModel.kind?, hc, ← hk]; rfl)
  obtain ⟨w, d⟩ := s
  obtain ⟨w', d'⟩ := t
  have hnext : d'.next = d.next := he.region.next
  have hle : n ≤ d.next.index := he.region.le
  -- the two creations run side by side, on stages that echo each other
  have hbegun : Furnishing True (w, d) d.next e.name [] [] (w, (d.createElement e.name).1) :=
    furnishing_push hs e.name
  have hecho : Echoes n (w, (d.createElement e.name).1) (w', (d'.createElement e.name).1) :=
    ⟨he.model, he.region.push rfl rfl rfl, he.bound⟩
  simp only [Document.createElement] at hbegun hecho
  unfold attemptElement createElement
  simp only [Document.createElement, Document.push_snd, hnext]
  cases e.preset? with
  | none =>
    dsimp only
    rw [ok_bind, hbegun.attemptFurnish hm hecho hle hchildren hattributes halike hfree hnd, ok_bind]
    rfl
  | some value =>
    have hshown := hbegun.setValue value
    have hecho' := hecho.setValue hle value
    obtain ⟨v, hv⟩ :=
      Document.exists_setValue hbegun.sound.orderly (Or.inl hbegun.isElement) value
    obtain ⟨fault, hno, -⟩ | ⟨u, u', -, hu', -⟩ := hecho.region.setValue hle value
    · exact absurd (hv.symm.trans hno) (by simp)
    · dsimp only at hu' hecho' ⊢
      rw [hu'] at hecho' ⊢
      replace hecho' : Echoes n _ (w', u') := hecho'
      rw [ok_bind, hshown.attemptFurnish hm hecho' hle hchildren hattributes halike hfree hnd,
        ok_bind]
      rfl

theorem attemptElements_eq_ok (hs : Sound s) (hm : s.1.model = m) (he : Echoes n s t)
    (hloose : CreatesLoose create) (halike : CreatesAlike n create)
    (hone : ∀ s t, Sound s → s.1.model = m → Echoes n s t →
      attemptElement attempt t c e = .ok (createElement create t c e)) (number : Nat) :
    attemptElements attempt c e number t = .ok (createElements create c e number t) := by
  induction number generalizing s t with
  | zero => rfl
  | succ number ih =>
    obtain ⟨hr, -⟩ := raises_createElement hloose hs c e
    obtain ⟨hecho, -, -⟩ := madeAlike_createElement (c := c) he halike e
    have hrest := ih hr.sound (hr.workspace.model.trans hm) hecho
    rw [attemptElements, hone s t hs hm he, ok_bind]
    dsimp only
    rw [hrest, ok_bind]
    rfl

/-- What has to be there for constraints one after the other can be made. -/
theorem attemptFold_eq_ok (hloose : CreatesLoose create) (halike : CreatesAlike n create)
    (hfree : Unrefused n m attempt create cs) {p q : Stage × List Handle} (hs : Sound p.1)
    (hm : p.1.1.model = m) (hp : MadeAlike n p q) :
    cs.foldlM (fun acc c => do
      let r ← attempt acc.1 c
      return (r.1, acc.2 ++ r.2)) q = Except.ok (cs.foldl (fun acc c =>
        let r := create acc.1 c
        (r.1, acc.2 ++ r.2)) q) := by
  induction cs generalizing p q with
  | nil => rfl
  | cons c cs ih =>
    obtain ⟨hg, -⟩ := hloose p.1 c hs
    obtain ⟨hmade, hhandles, hle⟩ := halike p.1 q.1 c hp.echoes
    have hrest := ih (p := ((create p.1 c).1, p.2 ++ (create p.1 c).2))
      (q := ((create q.1 c).1, q.2 ++ (create q.1 c).2))
      (fun c' hc' => hfree c' (List.mem_cons_of_mem _ hc')) hg.sound
      (hg.workspace.model.trans hm) ⟨hmade, ?_, ?_⟩
    · rw [List.foldlM_cons, hfree c (List.mem_cons_self ..) p.1 q.1 hs hm hp.echoes, ok_bind]
      exact hrest
    · exact congrArg₂ (· ++ ·) hp.handles hhandles
    · intro h hh
      exact (List.mem_append.mp hh).elim (hp.le h) (hle h)

/-- What is made inside an element is made without refusals, in every stage. -/
theorem unrefused_createInside (htree : m.TreeShaped) (hdist : m.AttributesDistinct)
    (n fuel : Nat) (cs : List ConstraintId) :
    Unrefused n m (attemptInside fuel) (createInside fuel) cs := by
  induction fuel generalizing cs with
  | zero => exact fun c _ s t _ _ _ => rfl
  | succ fuel ih =>
    intro c _ s t hs hm he
    have hmt : t.1.model = m := he.model.trans hm
    have halike := createsAlike_createInside n fuel
    have hloose := createsLoose_createInside fuel
    rw [attemptInside, createInside, hmt]
    cases hc : m.get? c with
    | none => rfl
    | some e =>
      have hcs : m.children c = e.children := by rw [ContentModel.children, hc]; rfl
      have has : m.attributes c = e.attributes := by rw [ContentModel.attributes, hc]; rfl
      dsimp only
      cases hek : e.kind with
      | «attribute» =>
        dsimp only
        split_ifs <;> rfl
      | element =>
        refine attemptElements_eq_ok hs hm he hloose halike ?_ _
        intro s t hs hm he
        exact attemptElement_eq_ok hs hm he hc hek
          (hcs ▸ makesElementsOf_children htree (fun _ => hdist) fuel c)
          (has ▸ makesAttributesOf_attributes htree (fun _ => hdist) fuel c) halike (ih _) hdist
      | choice =>
        cases e.children with
        | nil => rfl
        | cons first rest => exact ih [first] first (List.mem_singleton_self _) s t hs hm he
      | sequence =>
        exact attemptFold_eq_ok hloose halike (ih _) hs hm (MadeAlike.nothing he)
      | group => rfl

end Creating

/-- Creation comes to the same whether or not it stops at a refusal, where no element declares an
attribute name twice. -/
theorem attempt_eq_ok (hm : w.model.Built) (hdist : w.model.AttributesDistinct)
    (hd : 0 < d.slots.size) (c : ConstraintId) :
    w.attempt d c = .ok (w.create d c) := by
  have htree := hm.treeShaped
  unfold attempt create
  cases hc : w.model.get? c with
  | none => rfl
  | some e =>
    have hcs : w.model.children c = e.children := by rw [ContentModel.children, hc]; rfl
    have has : w.model.attributes c = e.attributes := by rw [ContentModel.attributes, hc]; rfl
    dsimp only
    cases hek : e.kind with
    | element =>
      dsimp only
      rw [attemptElement_eq_ok (sound_blank w.model [] d.slots.size) rfl (echoes_blank hd []) hc hek
        (hcs ▸ makesElementsOf_children htree (fun _ => hdist) _ c)
        (has ▸ makesAttributesOf_attributes htree (fun _ => hdist) _ c)
        (createsAlike_createInside _ _) (unrefused_createInside htree hdist _ _ _) hdist, ok_bind]
      rfl
    | «attribute» => rfl
    | sequence => rfl
    | choice => rfl
    | group => rfl

/-! ## Complete subtrees -/

/-- A complete element is complete in every stage that agrees. -/
theorem Complete.echoes {i : ConstraintId} (hk : s.1.Complete s.2 k i) (he : Echoes n s t)
    (hle : n ≤ k.index) : t.1.Complete t.2 k i := by
  have hsame := he.region.lookups hle
  refine hk.congr he.model ?_ hsame.2.1 ?_ ?_
  · rw [he.bound k i hk.binding?, hk.binding?]
  · rw [he.region.elements hle]
    exact List.map_congr_left fun x hx => (he.region.lookups (he.region.elements_le hle hx)).2.1
  · rw [hsame.2.2.2.1]
    refine List.map_congr_left fun a ha => ?_
    have hale := he.region.attributes_le hle ha
    obtain ⟨j, hj⟩ := hk.exists_binding? ha
    rw [attributeAt, attributeAt, he.bound a j hj, hj, (he.region.lookups hale).2.1,
      he.region.value hale]

/-- What is created for an element in a sound stage is one element without a parent; it and all
elements below it are complete, and the attributes below it are bound. -/
theorem complete_of_sound (hm : w.model.Built) (hprod : w.model.Productive)
    (hdist : w.model.AttributesDistinct) (hs : Sound (w, d))
    (hc : w.model.kind? c = some .element) :
    (w.create d c).1.1.Complete (w.create d c).1.2 d.next c ∧
      (w.create d c).1.2.parent? d.next = none ∧
      ∀ k ∈ (w.create d c).1.2.subtree d.next,
        ((w.create d c).1.2.isElement k = true →
          ∃ i, (w.create d c).1.1.Complete (w.create d c).1.2 k i) ∧
        ((w.create d c).1.2.isAttribute k = true →
          ∃ i, (w.create d c).1.1.binding? k = some i) := by
  obtain ⟨e, he, hkind⟩ := Option.map_eq_some_iff.mp hc
  obtain ⟨-, hraise, hbind⟩ := create_of_element hs he hkind
  have hcomplete := (completed_create hm hprod hdist hs hc).complete
  generalize w.create d c = r at hraise hbind hcomplete ⊢
  have horder := hraise.sound.orderly
  have hnew : ∀ k, r.1.2.Within d.next k → d.slots.size ≤ k.index := fun k hk =>
    le_index_of_within horder (Nat.le_refl _) hk
  obtain ⟨i, hi⟩ := hcomplete d.next (Nat.le_refl _) hraise.isElement
  obtain rfl := Option.some.inj (hi.binding?.symm.trans hbind)
  refine ⟨hi, hraise.parent?, fun k hk => ?_⟩
  rw [Document.mem_subtree_iff horder.forest] at hk
  refine ⟨hcomplete k (hnew k hk), fun ha => ?_⟩
  cases hk with
  | self _ =>
    rw [Document.not_isAttribute_of_isElement hraise.isElement] at ha
    simp at ha
  | @step p k hp hpar =>
    have hmem : k ∈ r.1.2.attributes p :=
      (Document.mem_inside.mp (horder.mem_of_parent? hpar)).resolve_right fun hch => by
        rw [horder.forest.not_isAttribute_of_mem_children hch] at ha
        simp at ha
    obtain ⟨j, hj⟩ := hcomplete p (hnew p hp) (horder.kinds_of_attribute hmem).2
    exact hj.exists_binding? hmem

/-- Where there are no groups, no choices without alternatives and no empty bounds, and no element
declares an attribute name twice, an element is created without refusals, whatever the workspace and
the document are (every document that can be made has slots). It is new, belongs to no parent, and
all that is made on the way lies below it. It and all elements below it are complete, and the
attributes below it are bound. -/
theorem complete_of_create (hm : w.model.Built) (hprod : w.model.Productive)
    (hdist : w.model.AttributesDistinct) (hd : 0 < d.slots.size)
    (hc : w.model.kind? c = some .element) :
    ∃ t h, w.attempt d c = .ok (t, some h) ∧ w.create d c = (t, some h) ∧
      d.contains h = false ∧ t.2.isElement h = true ∧ t.2.parent? h = none ∧
      (∀ k, d.slots.size ≤ k.index → t.2.contains k = true → k ∈ t.2.subtree h) ∧
      t.1.Complete t.2 h c ∧
      ∀ k ∈ t.2.subtree h, (t.2.isElement k = true → ∃ i, t.1.Complete t.2 k i) ∧
        (t.2.isAttribute k = true → ∃ i, t.1.binding? k = some i) := by
  -- creation is the same on a vacant document of that size, where everything is sound
  have hblank := sound_blank w.model [] d.slots.size
  obtain ⟨hecho, hhandle⟩ := echoes_create (echoes_blank (w := w) hd []) c
  obtain ⟨e, he, hkind⟩ := Option.map_eq_some_iff.mp hc
  obtain ⟨hnext, hraise, -⟩ := create_of_element hblank he hkind
  obtain ⟨hroot, hdetached, hall⟩ := complete_of_sound (w := (blank w.model [] d.slots.size).1)
    (d := (blank w.model [] d.slots.size).2) hm hprod hdist hblank hc
  have hsize := Document.size_vacant hd
  have hmade : (w.create d c).2 = some (Document.vacant d.slots.size).next :=
    hhandle.trans hnext
  have hle : d.slots.size ≤ (Document.vacant d.slots.size).next.index := Nat.le_of_eq hsize.symm
  have hsame := hecho.region.lookups hle
  have hcreate : w.create d c = ((w.create d c).1, some (Document.vacant d.slots.size).next) :=
    Prod.ext rfl hmade
  refine ⟨_, _, ?_, hcreate, Document.contains_eq_false_of_le hle, ?_, ?_,
    fun _ => mem_subtree_of_create hm hdist hd hc hmade, hroot.echoes hecho hle, ?_⟩
  · rw [attempt_eq_ok hm hdist hd, hcreate]
  · rw [Document.isElement_congr hsame.1, hraise.isElement]
  · rw [hsame.2.2.1]
    exact hdetached
  · intro k hk
    rw [hecho.region.subtree hle] at hk
    have hkle := hecho.region.subtree_le hle hk
    have hsamek := hecho.region.lookups hkle
    obtain ⟨hel, hat⟩ := hall k hk
    rw [Document.isElement_congr hsamek.1, Document.isAttribute_congr hsamek.1]
    refine ⟨fun hke => ?_, fun hka => ?_⟩
    · obtain ⟨i, hi⟩ := hel hke
      exact ⟨i, hi.echoes hecho hkle⟩
    · obtain ⟨i, hi⟩ := hat hka
      exact ⟨i, hecho.bound k i hi⟩

/-- A content model for shipments of some items that go by truck or ship under seals, or else are
picked up. A shipment has a number, and is paid in euros if nothing else is said. -/
def shipment : ContentModel :=
  let m := (ContentModel.ofRoot (.ofElement "shipment" .once)).add ContentModel.root
    (.ofAttribute "number" .required)
  let m := m.1.add ContentModel.root (.ofAttribute "remark" .optional)
  let m := m.1.add ContentModel.root
    { Schema.Constraint.ofAttribute "currency" .optional with defaultValue := some "EUR" }
  let m := m.1.add ContentModel.root { kind := .sequence }
  let m := m.1.add ⟨4⟩ (.ofElement "item" ⟨2, some 3⟩)
  let m := m.1.add ⟨4⟩ { kind := .choice }
  let m := m.1.add ⟨6⟩ { kind := .sequence }
  let m := m.1.add ⟨7⟩ { kind := .choice }
  let m := m.1.add ⟨8⟩ (.ofElement "truck" .once)
  let m := m.1.add ⟨8⟩ (.ofElement "ship" .once)
  let m := m.1.add ⟨7⟩ (.ofElement "seal" (.atLeast 1))
  (m.1.add ⟨6⟩ (.ofElement "pickup" .once)).1

theorem built_shipment : shipment.Built := by
  refine .add (.add (.add (.add (.add (.add (.add (.add (.add (.add (.add (.add (.ofRoot rfl)
    ?_) ?_) ?_) ?_) ?_) ?_) ?_) ?_) ?_) ?_) ?_) ?_ <;> decide

/-- A shipment that is created has two items, a truck and a seal, which make up a word of its
content, and it has a number and a currency, but no remark. -/
theorem complete_shipment : ∃ t h,
    ({ model := shipment } : Workspace).attempt .empty ContentModel.root = .ok (t, some h) ∧
      (t.2.elements h).map t.2.name = ["item", "item", "truck", "seal"] ∧
      shipment.Words (shipment.children ContentModel.root) ["item", "item", "truck", "seal"] ∧
      (t.2.attributes h).map (t.1.attributeAt t.2) =
        [(some ⟨1⟩, "number", ""), (some ⟨3⟩, "currency", "EUR")] := by
  obtain ⟨t, h, hattempt, hcreate, -, -, -, -, hcomplete, -⟩ :=
    complete_of_create (w := { model := shipment }) (d := .empty) built_shipment (by decide)
      (by decide) (by decide) (c := ContentModel.root) (by decide)
  obtain rfl := congrArg Prod.fst hcreate
  obtain rfl : (⟨1⟩ : Handle) = h := Option.some.inj (congrArg Prod.snd hcreate)
  have hnames : ((({ model := shipment } : Workspace).create .empty ContentModel.root).1.2.elements
      ⟨1⟩).map (({ model := shipment } : Workspace).create .empty ContentModel.root).1.2.name =
        ["item", "item", "truck", "seal"] := by
    decide
  have hcontent := hcomplete.content
  rw [hnames] at hcontent
  exact ⟨_, _, hattempt, hnames, hcontent, hcomplete.attributes⟩

end GuidedXml.Workspace
