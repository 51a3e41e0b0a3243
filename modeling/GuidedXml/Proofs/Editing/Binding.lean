/-
# What binding touches

Binding an element changes what is known of the nodes at and below it and of no others.

The main statements say this for each step of the matching, and that nothing stays bound where
binding was not possible.
-/
import GuidedXml.Editing.Workspace.Binding
import GuidedXml.Proofs.Document.Subtree
import GuidedXml.Proofs.Editing.Judging

namespace GuidedXml.Workspace

open Document (Within)
open Schema (ConstraintId ContentModel)

variable {d : Document} {w w' w'' : Workspace} {h k : Handle}

/-! ## Steps of binding -/

/-- A relation between workspaces that may differ at some nodes, to which binding and unbinding
single nodes keep. What is bound is bound by such steps, so all binding keeps to it. -/
structure Tracks (d : Document) (R : (Handle → Prop) → Workspace → Workspace → Prop) : Prop where
  refl : ∀ P w, R P w w
  trans : ∀ {P w w' w''}, R P w w' → R P w' w'' → R P w w''
  mono : ∀ {P Q w w'}, R P w w' → (∀ k, P k → Q k) → R Q w w'
  bindNode : ∀ w h c, R (· = h) w (w.bindNode d h c)
  unbindNode : ∀ w h, R (· = h) w (w.unbindNode d h)

/-! ## Unbinding -/

/-- Unbinding a list of nodes takes the constraints from these alone. -/
theorem binding?_foldl_unbindNode (hs : List Handle) (w : Workspace) (k : Handle) :
    (hs.foldl (fun w n => w.unbindNode d n) w).binding? k =
      if k ∈ hs then none else w.binding? k := by
  induction hs generalizing w with
  | nil => simp
  | cons h hs ih =>
    rw [List.foldl_cons, ih, binding?_unbindNode]
    by_cases hk : k ∈ hs
    · simp [hk]
    · by_cases hh : k = h <;> simp [hk, hh]

/-- Unbinding a node rebinds nothing but it. -/
theorem rebinds_unbindNode (w : Workspace) (d : Document) (h : Handle) :
    Rebinds (· = h) w (w.unbindNode d h) := by
  unfold unbindNode
  split
  · refine ⟨rfl, rfl, rfl, rfl, ?_⟩
    intro k hk
    exact (Table.get?_erase w.bindings h k).trans (if_neg hk)
  · exact Rebinds.refl _ w

/-- Binding a node rebinds nothing but it. -/
theorem rebinds_bindNode (w : Workspace) (d : Document) (h : Handle) (c : ConstraintId) :
    Rebinds (· = h) w (w.bindNode d h c) where
  model := rfl
  whitelist := rfl
  offers := rfl
  revisions := rfl
  binding? := by
    intro k hk
    rw [binding?_bindNode, if_neg hk]

/-- Rebinding is such a relation. -/
theorem tracks_rebinds (d : Document) : Tracks d Rebinds where
  refl := Rebinds.refl
  trans := Rebinds.trans
  mono := Rebinds.mono
  bindNode := fun w h c => rebinds_bindNode w d h c
  unbindNode := fun w h => rebinds_unbindNode w d h

/-- Unbinding touches nothing but what is below the node. -/
theorem Tracks.unbind {R : (Handle → Prop) → Workspace → Workspace → Prop} (ht : Tracks d R)
    (hd : d.Linked) (w : Workspace) (h : Handle) : R (d.Within h) w (w.unbind d h) := by
  have hall : ∀ k ∈ d.subtree h, d.Within h k := fun k hk =>
    Document.within_of_mem_subtreeAux hd hk
  unfold Workspace.unbind
  generalize d.subtree h = ks at hall
  induction ks generalizing w with
  | nil => exact ht.refl _ w
  | cons k ks ih =>
    rw [List.foldl_cons]
    refine ht.trans (ht.mono (ht.unbindNode w k) ?_)
      (ih _ fun x hx => hall x (List.mem_cons_of_mem _ hx))
    rintro _ rfl
    exact hall _ (List.mem_cons_self ..)

/-- After unbinding nothing in the subtree is bound. -/
theorem binding?_unbind_of_within (hd : d.Forest) (w : Workspace) (hk : d.Within h k) :
    (w.unbind d h).binding? k = none := by
  rw [unbind, binding?_foldl_unbindNode, if_pos (Document.mem_subtree_iff hd |>.mpr hk)]

/-! ## Siblings -/

section Siblings

variable {hs : List Handle} {p : Handle}

/-- The elements are different children of one parent. -/
structure Siblings (d : Document) (hs : List Handle) (p : Handle) : Prop where
  nodup : hs.Nodup
  parent? : ∀ h ∈ hs, d.parent? h = some p

namespace Siblings

/-- The last ones of siblings are siblings. -/
theorem of_suffix {hs' : List Handle} (hsib : Siblings d hs p) (hs'' : hs' <:+ hs) :
    Siblings d hs' p where
  nodup := hsib.nodup.sublist hs''.sublist
  parent? := fun h hh => hsib.parent? h (hs''.mem hh)

/-- Siblings without the first one are siblings. -/
theorem tail (hsib : Siblings d (h :: hs) p) : Siblings d hs p :=
  hsib.of_suffix (List.suffix_cons h hs)

/-- No node is below elements of two parts. -/
theorem disjoint {xs ys : List Handle} (hsib : Siblings d (xs ++ ys) p) (hd : d.Forest) {x : Handle}
    (hx : x ∈ xs) (hk : d.Within x k) : ¬ ∃ y ∈ ys, d.Within y k := by
  rintro ⟨y, hy, hyk⟩
  have hxy := Within.eq_of_siblings hd.acyclic (hsib.parent? x (List.mem_append_left _ hx))
    (hsib.parent? y (List.mem_append_right _ hy)) hk hyk
  exact (List.nodup_append.mp hsib.nodup).2.2 x hx y hy hxy

/-- What is below the first sibling is below no other one. -/
theorem disjoint_tail (hsib : Siblings d (h :: hs) p) (hd : d.Forest) (hk : d.Within h k) :
    ¬ ∃ y ∈ hs, d.Within y k := by
  have happ : Siblings d ([h] ++ hs) p := hsib
  exact happ.disjoint hd (List.mem_cons_self ..) hk

end Siblings

end Siblings

/-! ## Matching -/

section Tracking

variable {R : (Handle → Prop) → Workspace → Workspace → Prop} {binder : Binder}

namespace Tracks

/-- Binding attributes touches nothing but them. -/
theorem bindAttributes (ht : Tracks d R) (w : Workspace) (c : ConstraintId) (as : List Handle) :
    R (· ∈ as) w (w.bindAttributes d c as).1 := by
  induction as generalizing w with
  | nil => exact ht.refl _ w
  | cons a as ih =>
    have hrest : ∀ w : Workspace, R (· ∈ a :: as) w (w.bindAttributes d c as).1 := fun w =>
      ht.mono (ih w) fun _ hk => List.mem_cons_of_mem _ hk
    rw [Workspace.bindAttributes]
    split
    · rename_i i _
      refine ht.trans (ht.mono (ht.bindNode w a i) ?_) (hrest _)
      rintro _ rfl
      exact List.mem_cons_self ..
    · split
      · exact hrest w
      · exact ht.refl _ w

/-- Binding a run touches nothing but what is below its nodes. -/
theorem bindRun (ht : Tracks d R) (hb : ∀ w h c, R (d.Within h) w (binder w h c).1)
    (c : ConstraintId) (w : Workspace) (hs : List Handle) :
    R (fun k => ∃ h ∈ hs, d.Within h k) w (bindRun binder c w hs).1 := by
  induction hs generalizing w with
  | nil => exact ht.refl _ w
  | cons h hs ih =>
    have hfirst : R (fun k => ∃ x ∈ h :: hs, d.Within x k) w (binder w h c).1 :=
      ht.mono (hb w h c) fun k hk => ⟨h, List.mem_cons_self .., hk⟩
    rw [Workspace.bindRun]
    split
    · refine ht.trans hfirst (ht.mono (ih (binder w h c).1) ?_)
      rintro k ⟨x, hx, hk⟩
      exact ⟨x, List.mem_cons_of_mem _ hx, hk⟩
    · exact hfirst

end Tracks

/-- A run takes elements from the front. -/
theorem bindRun_suffix (binder : Binder) (c : ConstraintId) (w : Workspace) (hs : List Handle) :
    (bindRun binder c w hs).2 <:+ hs := by
  induction hs generalizing w with
  | nil => exact List.suffix_rfl
  | cons h hs ih =>
    rw [bindRun]
    split
    · exact (ih _).trans (List.suffix_cons h hs)
    · exact List.suffix_rfl

/-- Matching touches nothing but what is below the nodes that are matched. -/
theorem Tracks.matchContent (ht : Tracks d R) (hb : ∀ w h c, R (d.Within h) w (binder w h c).1)
    (m : ContentModel) (w : Workspace) (hs : List Handle) (cs : List ConstraintId) :
    R (fun k => ∃ h ∈ hs, d.Within h k) w (matchContent binder m w hs cs).1 := by
  have hfirst : ∀ (w : Workspace) (h : Handle) (hs : List Handle) (c : ConstraintId),
      R (fun k => ∃ x ∈ h :: hs, d.Within x k) w (binder w h c).1 := fun w h hs c =>
    ht.mono (hb w h c) fun k hk => ⟨h, List.mem_cons_self .., hk⟩
  fun_induction Workspace.matchContent binder m w hs cs with
  | case1 w cs => exact ht.refl _ w
  | case2 w h hs => exact ht.refl _ w
  | case3 w h hs c cs r hr run ih =>
    have hsuffix := bindRun_suffix binder c r.1 hs
    refine ht.trans (hfirst w h hs c)
      (ht.trans (ht.mono (ht.bindRun hb c r.1 hs) ?_) (ht.mono ih ?_))
    · rintro k ⟨x, hx, hk⟩
      exact ⟨x, List.mem_cons_of_mem _ hx, hk⟩
    · rintro k ⟨x, hx, hk⟩
      exact ⟨x, List.mem_cons_of_mem _ (hsuffix.mem hx), hk⟩
  | case4 w h hs c cs r hr hd ih => exact ht.trans (hfirst w h hs c) ih
  | case5 w h hs c cs r hr hd => exact hfirst w h hs c

end Tracking

/-- Binding attributes rebinds nothing but them. -/
theorem rebinds_bindAttributes (w : Workspace) (d : Document) (c : ConstraintId)
    (as : List Handle) : Rebinds (· ∈ as) w (w.bindAttributes d c as).1 :=
  (tracks_rebinds d).bindAttributes w c as

section Binders

variable {binder : Binder}

/-- The binder touches nodes at and below the element alone. -/
def IsLocal (d : Document) (binder : Binder) : Prop :=
  ∀ w h c, Rebinds (d.Within h) w (binder w h c).1

/-- A run of bound elements is touched, and what is left of the list ends it. -/
theorem rebinds_bindRun (hb : IsLocal d binder) (c : ConstraintId) (w : Workspace)
    (hs : List Handle) : Rebinds (fun k => ∃ h ∈ hs, d.Within h k) w (bindRun binder c w hs).1 ∧
      (bindRun binder c w hs).2 <:+ hs :=
  ⟨(tracks_rebinds d).bindRun hb c w hs, bindRun_suffix binder c w hs⟩

/-- Matching elements touches nodes at and below them alone. -/
theorem rebinds_matchContent (hb : IsLocal d binder) (m : ContentModel) (w : Workspace)
    (hs : List Handle) (cs : List ConstraintId) :
    Rebinds (fun k => ∃ h ∈ hs, d.Within h k) w (matchContent binder m w hs cs).1 :=
  (tracks_rebinds d).matchContent hb m w hs cs

end Binders

/-! ## Elements -/

/-- What fits a constraint is an element. -/
theorem isElement_of_fits {c : ConstraintId} (hf : w.fits d h c = true) :
    d.isElement h = true := by
  unfold fits at hf
  cases he : w.model.get? c with
  | none => rw [he] at hf; simp at hf
  | some e =>
    rw [he] at hf
    simp only [Option.any_some, Bool.and_eq_true] at hf
    exact hf.1.1.2

namespace Tracks

variable {R : (Handle → Prop) → Workspace → Workspace → Prop}

/-- With any fuel binding touches nothing but what is below the node. -/
theorem bindAux (ht : Tracks d R) (hd : d.Linked) (fuel : Nat) (w : Workspace) (h : Handle)
    (c : ConstraintId) : R (d.Within h) w (bindAux d fuel w h c).1 := by
  induction fuel generalizing w h c with
  | zero => exact ht.refl _ w
  | succ fuel ih =>
    rw [Workspace.bindAux]
    split
    · exact ht.refl _ w
    · rename_i hf
      have hself : d.Within h h := by
        refine Within.self (Document.contains_of_isElement ?_)
        apply isElement_of_fits (w := w) (c := c)
        simpa using hf
      have hinside : ∀ k ∈ d.inside h, d.Within h k := fun k hk =>
        Within.of_parent? hd (hd.parent?_of_mem hk)
      have hattrs : R (d.Within h) w (w.bindAttributes d c (d.attributes h)).1 :=
        ht.mono (ht.bindAttributes w c _) fun k hk =>
          hinside k (Document.mem_inside.mpr (Or.inl hk))
      have hmatched := ht.matchContent ih w.model (w.bindAttributes d c (d.attributes h)).1
        (d.elements h) (w.model.contentElements c)
      have hcontent := ht.trans hattrs (ht.mono hmatched (Q := d.Within h) (by
        rintro k ⟨x, hx, hk⟩
        exact (hinside x (Document.mem_inside.mpr
          (Or.inr (Document.mem_elements.mp hx).1))).trans hk))
      dsimp only
      split
      · exact ht.trans hattrs (ht.unbind hd _ h)
      · split
        · refine ht.trans hcontent (ht.mono (ht.bindNode _ h c) ?_)
          rintro _ rfl
          exact hself
        · exact ht.trans hcontent (ht.unbind hd _ h)

/-- Binding touches nothing but what is below the node. -/
theorem bind (ht : Tracks d R) (hd : d.Linked) (w : Workspace) (h : Handle) (c : ConstraintId) :
    R (d.Within h) w (w.bind d h c).1 := by
  have haux := ht.bindAux hd d.slots.size w h c
  unfold Workspace.bind
  dsimp only
  split
  · exact haux
  · exact ht.trans haux (ht.unbind hd _ h)

end Tracks

/-- With any fuel binding is local. -/
theorem isLocal_bindAux (hd : d.Linked) (fuel : Nat) : IsLocal d (bindAux d fuel) :=
  (tracks_rebinds d).bindAux hd fuel

/-- Binding touches nodes at and below the element alone. -/
theorem rebinds_bind (hd : d.Linked) (w : Workspace) (h : Handle) (c : ConstraintId) :
    Rebinds (d.Within h) w (w.bind d h c).1 :=
  (tracks_rebinds d).bind hd w h c

/-- Where binding is not possible, nothing is bound afterwards. -/
theorem binding?_of_bind_eq_false (hd : d.Forest) {c : ConstraintId}
    (hf : (w.bind d h c).2 = false) (hk : d.Within h k) : (w.bind d h c).1.binding? k = none := by
  unfold bind at hf ⊢
  dsimp only at hf ⊢
  split at hf
  · rename_i htrue
    rw [htrue] at hf
    simp at hf
  · rename_i hfalse
    rw [if_neg hfalse]
    exact binding?_unbind_of_within hd _ hk

end GuidedXml.Workspace
