/-
# Binding and seats

What is bound after an element was bound to a constraint: the element itself, and every element below
it to a constraint of the content that it is in.

The main statement says that binding leaves all these elements where their constraints are.
-/
import GuidedXml.Proofs.Conformance.Binding
import GuidedXml.Proofs.Conformance.Seats

namespace GuidedXml.Workspace

open Document (Within)
open Schema (ConstraintId ContentModel)

variable {d : Document} {binder : Binder} {m : ContentModel} {v w w' w'' : Workspace}
  {h k p : Handle} {c : ConstraintId} {hs : List Handle} {cs : List ConstraintId}

/-! ## Along the content -/

/-- The constraints of the elements that matching took, one after the other: it takes a run of them
for one constraint and goes on behind the choice of it, it passes a constraint that is dispensable, or
it ends where nothing more has to be there. -/
inductive Along (m : ContentModel) : List ConstraintId → List ConstraintId → Prop
  | done {cs : List ConstraintId} : (∀ c ∈ cs, (m.occurs c).min = 0) → Along m cs []
  | taken {c : ConstraintId} {cs is : List ConstraintId} (n : Nat) :
      Along m (cs.dropWhile (m.alternatives c).contains) is →
      Along m (c :: cs) (List.replicate (n + 1) c ++ is)
  | passed {c : ConstraintId} {cs is : List ConstraintId} :
      isDispensable m c = true → Along m cs is → Along m (c :: cs) is

/-- What matching took is in the content. -/
theorem Along.mem {is : List ConstraintId} (ha : Along m cs is) : ∀ i ∈ is, i ∈ cs := by
  induction ha with
  | done _ => simp
  | taken n _ ih =>
    intro i hi
    rcases List.mem_append.mp hi with hi | hi
    · exact List.eq_of_mem_replicate hi ▸ List.mem_cons_self ..
    · exact List.mem_cons_of_mem _ ((List.dropWhile_sublist _).subset (ih i hi))
  | passed _ _ ih => exact fun i hi => List.mem_cons_of_mem _ (ih i hi)

/-- A binder that makes something of each element where it may start: it may start again where it
failed, and what it does elsewhere neither undoes what it made nor hinders a start. -/
structure Attains (d : Document) (R : (Handle → Prop) → Workspace → Workspace → Prop)
    (binder : Binder) (Start : Workspace → Handle → Prop)
    (Made : Workspace → Handle → ConstraintId → Prop) : Prop where
  tracks : Tracks d R
  isLocal : ∀ w h c, R (d.Within h) w (binder w h c).1
  made : ∀ {w h c}, Start w h → (binder w h c).2 = true → Made (binder w h c).1 h c
  failed : ∀ {w h c}, Start w h → (binder w h c).2 = false → Start (binder w h c).1 h
  start_kept : ∀ {P w w' h}, R P w w' → (∀ k, d.Within h k → ¬ P k) → Start w h → Start w' h
  made_kept : ∀ {P w w' h c}, R P w w' → (∀ k, d.Within h k → ¬ P k) → Made w h c → Made w' h c

namespace Attains

variable {R : (Handle → Prop) → Workspace → Workspace → Prop} {Start : Workspace → Handle → Prop}
  {Made : Workspace → Handle → ConstraintId → Prop} (ha : Attains d R binder Start Made)
  (hd : d.Forest)

include ha hd

/-- Binding an element hinders none of its siblings. -/
theorem start_tail (hsib : Siblings d (h :: hs) p) (hstart : ∀ x ∈ hs, Start w x) :
    ∀ x ∈ hs, Start (binder w h c).1 x := fun x hx =>
  ha.start_kept (ha.isLocal w h c) (fun _ hk hhk => hsib.disjoint_tail hd hhk ⟨x, hx, hk⟩)
    (hstart x hx)

/-- A run takes elements from the front and hinders none of the others. -/
theorem bindRun (hsib : Siblings d hs p) (hstart : ∀ x ∈ hs, Start w x) :
    ∃ xs, hs = xs ++ (bindRun binder c w hs).2 ∧
      (∀ x ∈ xs, Made (Workspace.bindRun binder c w hs).1 x c) ∧
      ∀ y ∈ (Workspace.bindRun binder c w hs).2, Start (Workspace.bindRun binder c w hs).1 y := by
  induction hs generalizing w with
  | nil => exact ⟨[], rfl, by simp, by simp [Workspace.bindRun]⟩
  | cons h hs ih =>
    have hself := hstart h (List.mem_cons_self ..)
    have htail := ha.start_tail hd hsib (c := c) fun x hx => hstart x (List.mem_cons_of_mem _ hx)
    rw [Workspace.bindRun]
    split
    · rename_i htrue
      obtain ⟨xs, hxs, hmade, hleft⟩ := ih hsib.tail htail
      refine ⟨h :: xs, by rw [List.cons_append, ← hxs], ?_, hleft⟩
      intro x hx
      rcases List.mem_cons.mp hx with rfl | hx
      · exact ha.made_kept (ha.tracks.bindRun ha.isLocal c _ hs)
          (fun k hk => hsib.disjoint_tail hd hk) (ha.made hself htrue)
      · exact hmade x hx
    · rename_i hfalse
      refine ⟨[], rfl, by simp, ?_⟩
      intro y hy
      rcases List.mem_cons.mp hy with rfl | hy
      · exact ha.failed hself (by simpa using hfalse)
      · exact htail y hy

/-- Matching that succeeds makes something of every element, and walks along the content. -/
theorem matchContent (hsib : Siblings d hs p) (hstart : ∀ x ∈ hs, Start w x)
    (htrue : (matchContent binder m w hs cs).2 = true) :
    ∃ is, List.Forall₂ (Made (matchContent binder m w hs cs).1) hs is ∧ Along m cs is := by
  fun_induction Workspace.matchContent binder m w hs cs with
  | case1 w cs => exact ⟨[], .nil, .done (by simpa using htrue)⟩
  | case2 w h hs => simp at htrue
  | case3 w h hs c cs r hr run ih =>
    have hfirst := ha.made (hstart h (List.mem_cons_self ..)) hr
    have htail := ha.start_tail hd hsib (c := c) fun x hx => hstart x (List.mem_cons_of_mem _ hx)
    have hrun := ha.tracks.bindRun ha.isLocal c r.1 hs
    have hrest := ha.tracks.matchContent ha.isLocal m run.1 run.2
      (cs.dropWhile (m.alternatives c).contains)
    obtain ⟨xs, hxs, hmade, hleft⟩ := ha.bindRun hd (c := c) hsib.tail htail
    have hparts : Siblings d (xs ++ run.2) p := hxs ▸ hsib.tail
    obtain ⟨is, his, halong⟩ := ih (hsib.tail.of_suffix (hxs ▸ List.suffix_append xs run.2))
      hleft htrue
    -- what was made of the first element and of the run is kept while the rest is matched
    refine ⟨List.replicate (xs.length + 1) c ++ is, ?_, .taken xs.length halong⟩
    rw [hxs, List.replicate_succ, List.cons_append]
    refine .cons ?_ (List.rel_append ?_ his)
    · refine ha.made_kept hrest ?_ (ha.made_kept hrun (fun k hk => hsib.disjoint_tail hd hk) hfirst)
      rintro k hk ⟨y, hy, hyk⟩
      exact hsib.disjoint_tail hd hk ⟨y, hxs ▸ List.mem_append_right xs hy, hyk⟩
    · rw [List.forall₂_iff_get]
      refine ⟨by simp, fun i hi _ => ?_⟩
      rw [List.get_eq_getElem, List.get_eq_getElem, List.getElem_replicate]
      have hmem := List.getElem_mem hi
      exact ha.made_kept hrest (fun k hk => hparts.disjoint hd hmem hk) (hmade _ hmem)
  | case4 w h hs c cs r hr hdisp ih =>
    have hstart' : ∀ x ∈ h :: hs, Start r.1 x := by
      intro x hx
      rcases List.mem_cons.mp hx with rfl | hx
      · exact ha.failed (hstart x (List.mem_cons_self ..)) (by simpa using hr)
      · exact ha.start_tail hd hsib (fun y hy => hstart y (List.mem_cons_of_mem _ hy)) x hx
    obtain ⟨is, his, halong⟩ := ih hsib hstart' htrue
    exact ⟨is, his, .passed hdisp halong⟩
  | case5 w h hs c cs r hr hdisp => simp at htrue

end Attains

/-! ## What stays bound -/

/-- The element was bound to the constraint in a workspace that differs from `v` in bindings alone,
and nothing at or below it was bound otherwise since. -/
structure StillBound (d : Document) (binder : Binder) (v w : Workspace) (h : Handle)
    (c : ConstraintId) : Prop where
  exists_before : ∃ w₀ : Workspace, Rebinds (fun _ => True) v w₀ ∧ (binder w₀ h c).2 = true ∧
    ∀ k, d.Within h k → w.binding? k = (binder w₀ h c).1.binding? k

/-- Binding other elements leaves an element bound. -/
theorem StillBound.rebinds (hb : StillBound d binder v w h c) {P : Handle → Prop}
    (hw : Rebinds P w w') (hP : ∀ k, d.Within h k → ¬ P k) : StillBound d binder v w' h c := by
  obtain ⟨w₀, hv, htrue, hsame⟩ := hb.exists_before
  exact ⟨w₀, hv, htrue, fun k hk => (hw.binding? k (hP k hk)).trans (hsame k hk)⟩

/-- What a binder binds stays bound. -/
theorem attains_stillBound (hb : IsLocal d binder) (v : Workspace) :
    Attains d Rebinds binder (fun w _ => Rebinds (fun _ => True) v w) (StillBound d binder v) where
  tracks := tracks_rebinds d
  isLocal := hb
  made := fun hv htrue => ⟨_, hv, htrue, fun _ _ => rfl⟩
  failed := fun {w h c} hv _ => hv.trans ((hb w h c).mono fun _ _ => trivial)
  start_kept := fun hr _ hv => hv.trans (hr.mono fun _ _ => trivial)
  made_kept := fun hr hP hs => hs.rebinds hr hP

/-- After a matching that succeeded every element is bound to an element of the content. -/
theorem stillBound_matchContent (hd : d.Forest) (hb : IsLocal d binder)
    (hv : Rebinds (fun _ => True) v w) (hsib : Siblings d hs p)
    (htrue : (matchContent binder m w hs cs).2 = true) :
    ∀ x ∈ hs, ∃ c ∈ cs, StillBound d binder v (matchContent binder m w hs cs).1 x c := by
  obtain ⟨is, his, halong⟩ :=
    (attains_stillBound hb v).matchContent hd hsib (fun _ _ => hv) htrue
  intro x hx
  obtain ⟨n, hn, rfl⟩ := List.getElem_of_mem hx
  have hlt : n < is.length := his.length_eq ▸ hn
  exact ⟨is[n], halong.mem _ (List.getElem_mem hlt), his.get hn hlt⟩

/-! ## Binding elements -/

/-- What has been done before an element is bound in the end: it fits, its attributes are bound, and
then the elements inside it to elements of the content. -/
structure BindsInside (d : Document) (fuel : Nat) (w : Workspace) (h : Handle) (c : ConstraintId)
    (done : Workspace) : Prop where
  eq : bindAux d (fuel + 1) w h c = (done.bindNode d h c, true)
  fits : Fits d w.model h c
  attributes : (w.bindAttributes d c (d.attributes h)).2 = true
  matched : Rebinds (fun k => ∃ x ∈ d.elements h, d.Within x k)
    (w.bindAttributes d c (d.attributes h)).1 done
  inside : ∀ x ∈ d.elements h,
    ∃ i ∈ w.model.contentElements c, StillBound d (bindAux d fuel) w done x i

theorem BindsInside.model {fuel : Nat} {done : Workspace} (hi : BindsInside d fuel w h c done) :
    done.model = w.model :=
  hi.matched.model.trans (rebinds_bindAttributes w d c (d.attributes h)).model

theorem BindsInside.whitelist {fuel : Nat} {done : Workspace} (hi : BindsInside d fuel w h c done) :
    done.whitelist = w.whitelist :=
  hi.matched.whitelist.trans (rebinds_bindAttributes w d c (d.attributes h)).whitelist

/-- This is all that binding does where it succeeds. -/
theorem bindsInside_of_bindAux (hd : d.Forest) {fuel : Nat}
    (htrue : (bindAux d (fuel + 1) w h c).2 = true) : ∃ done, BindsInside d fuel w h c done := by
  obtain ⟨hfits, hattr, hcontent⟩ := bindAux_succ.mp htrue
  have hlocal := isLocal_bindAux hd.toLinked fuel
  have hattrs := rebinds_bindAttributes w d c (d.attributes h)
  have hsib : Siblings d (d.elements h) h :=
    ⟨hd.nodup_elements h, fun x hx => hd.parent?_of_mem_elements hx⟩
  refine ⟨(matchContent (bindAux d fuel) w.model (w.bindAttributes d c (d.attributes h)).1
    (d.elements h) (w.model.contentElements c)).1, ?_, fits_iff.mp hfits, hattr,
    rebinds_matchContent hlocal w.model _ _ _,
    stillBound_matchContent hd hlocal (hattrs.mono fun _ _ => trivial) hsib hcontent⟩
  rw [bindAux]
  simp [hfits, hattr, hcontent]

/-- The element is bound to the constraint, and every element at or below it sits where its
constraint is. -/
structure Settled (w : Workspace) (d : Document) (h : Handle) (c : ConstraintId) : Prop where
  binding? : w.binding? h = some c
  seated : ∀ k, d.Within h k → d.isElement k = true →
    ∃ i, w.binding? k = some i ∧ w.SeatedAt d k i

/-- What is bound elsewhere makes no difference. -/
theorem Settled.kept (hs : w.Settled d h c) (hd : d.Linked) (hh : d.contains h = true)
    (hm : w'.model = w.model) (hb : ∀ k, d.Within h k → w'.binding? k = w.binding? k) :
    w'.Settled d h c where
  binding? := (hb h (.self hh)).trans hs.binding?
  seated := by
    intro k hk he
    obtain ⟨i, hi, hseat⟩ := hs.seated k hk he
    refine ⟨i, (hb k hk).trans hi, hseat.kept (Document.Kept.refl d k) hm ?_⟩
    exact fun x hx => hb x (hk.step (hd.parent?_of_mem_elements hx))

/-- An element is settled once it is bound, if the elements inside it are settled in its content. -/
theorem settled_of_inside (hd : d.Linked) (hb : w.binding? h = some c)
    (hk : w.model.kind? c = some .element) (hname : d.name h = w.model.name c)
    (hinside : ∀ x ∈ d.elements h, ∃ i ∈ w.model.contentElements c, w.Settled d x i) :
    w.Settled d h c where
  binding? := hb
  seated := by
    intro k hw he
    rcases hw.cases_head hd with rfl | ⟨x, hx, hxk⟩
    · refine ⟨c, hb, hk, hname, ?_⟩
      intro x hx
      obtain ⟨i, hi, hsettled⟩ := hinside x hx
      exact ⟨i, hi, hsettled.binding?⟩
    · obtain ⟨i, -, hsettled⟩ := hinside x (Document.mem_elements_of_within hd hx hxk he)
      exact hsettled.seated k hxk he

/-- Where binding an element succeeded, the element is settled. -/
theorem settled_of_bindAux (hd : d.Forest) (fuel : Nat) (htrue : (bindAux d fuel w h c).2 = true) :
    (bindAux d fuel w h c).1.Settled d h c := by
  induction fuel generalizing w h c with
  | zero => simp [bindAux] at htrue
  | succ fuel ih =>
    obtain ⟨done, hdone⟩ := bindsInside_of_bindAux hd htrue
    have hmodel : done.model = w.model := hdone.model
    have hbinding := binding?_bindNode done d h
    rw [hdone.eq]
    refine settled_of_inside hd.toLinked ((hbinding h c).trans (if_pos rfl))
      (hmodel ▸ hdone.fits.kind?) (hmodel ▸ hdone.fits.name) ?_
    -- what lies below an element inside keeps what it was bound to
    intro x hx
    obtain ⟨i, hi, hstill⟩ := hdone.inside x hx
    obtain ⟨w₀, hv₀, htrue₀, hsame⟩ := hstill.exists_before
    have hlive := Document.contains_of_isElement (Document.mem_elements.mp hx).2
    refine ⟨i, hmodel ▸ hi, (ih htrue₀).kept hd.toLinked hlive ?_ ?_⟩
    · exact (hmodel.trans hv₀.model.symm).trans (isLocal_bindAux hd.toLinked fuel w₀ x i).model.symm
    · intro k hk
      rw [hbinding, if_neg, hsame k hk]
      rintro rfl
      exact Within.not_within_parent hd.acyclic (hd.parent?_of_mem_elements hx) hk

/-- An element that was bound is settled. -/
theorem settled_of_bind (hd : d.Forest) (htrue : (w.bind d h c).2 = true) :
    (w.bind d h c).1.Settled d h c := by
  obtain ⟨haux, heq⟩ := bind_eq_bindAux htrue
  rw [heq]
  exact settled_of_bindAux hd d.slots.size haux

end GuidedXml.Workspace
