/-
# Undoing

Some edits make nodes before they are refused. They take the nodes back, and with them everything
that is known of the nodes.

The main statements say that nothing has changed after a new node was taken back, and after a
replacement was refused.
-/
import GuidedXml.Proofs.Conformance.Labels
import GuidedXml.Proofs.Editing.Moves
import GuidedXml.Proofs.Editing.Outlining

namespace GuidedXml

open Schema (ConstraintId)

/-! ## Documents -/

namespace Document

variable {d d₁ d₂ : Document} {h k : Handle}

/-- Discarding all nodes that came later leads back to the same lookups. -/
theorem Extends.node?_of_pruned (he : Extends d d₁) (hr : Pruned d₁ d₂ h)
    (hnew : ∀ k, d₁.Within h k → d.slots.size ≤ k.index)
    (hall : ∀ k, d.slots.size ≤ k.index → d₁.contains k = true → d₁.Within h k) (k : Handle) :
    d₂.node? k = d.node? k := by
  have hnone : d.slots.size ≤ k.index → d.node? k = none := fun hk => by
    have hdead := contains_eq_false_of_le hk
    rwa [contains, Option.isSome_eq_false_iff, Option.isNone_iff_eq_none] at hdead
  by_cases hw : d₁.Within h k
  · rw [hr.gone k hw, hnone (hnew k hw)]
  · rw [hr.kept k hw]
    by_cases hk : d.slots.size ≤ k.index
    · rw [hnone hk]
      cases hn : d₁.node? k with
      | none => rfl
      | some n => exact absurd (hall k hk (contains_iff.mpr ⟨n, hn⟩)) hw
    · exact he.node? k (by omega)

end Document

/-! ## Workspaces -/

namespace Workspace

variable {w w' : Workspace} {d d' : Document} {h k : Handle} {c : ConstraintId} {t : Stage}

/-- Nodes that are not there yet are not bound. -/
theorem Sane.binding?_of_le (hs : Sane (w, d)) (hk : d.slots.size ≤ k.index) :
    w.binding? k = none :=
  hs.toSound.binding?_of_not_contains (Document.contains_eq_false_of_le hk)

/-- Nobody in line is new. -/
theorem Sane.enlisted (hs : Sane (w, d)) (d' : Document) :
    Enlisted (fun k => d.slots.size ≤ k.index) w.claims (w, d') := by
  have hout : ∀ name k, d.slots.size ≤ k.index → k ∉ w.claims.candidates name := by
    intro name k hk hm
    have hlt : k.index < d.slots.size := hs.known hm
    omega
  refine ⟨fun name => ⟨[], by simp, by simp⟩, ?_, hout⟩
  intro name k hk
  exact iff_of_false (hout name k hk) (not_entitled_of_unbound (hs.binding?_of_le hk))

/-- Binding new nodes and unbinding them again changes nothing. -/
theorem Sane.same_of_builds (hs : Sane (w, d)) (hs' : Sane (w, d'))
    (hb : Builds d.slots.size (w, d') (w', d'))
    (hbindings : ∀ k, w'.binding? k = w.binding? k) : w.Same w' := by
  have hlisted := hb.enlisted hs'.toSound hs'.toRegular (fun _ hk => hk) (hs.enlisted d')
  have hproper := (hb.regular hs'.toSound hs'.toRegular).proper
  have hclaims : ∀ name, w'.claims.lines.get? name = w.claims.lines.get? name := fun name =>
    hs.proper.get?_congr hproper (hlisted.candidates_eq (fun k hk =>
      (hbindings k).trans (hs.binding?_of_le hk)) name)
  have hw := hb.workspace
  dsimp only at hw
  rw [hw]
  exact { Same.refl w with bindings := hbindings, claims := hclaims }

/-- Forgetting nodes that are not mentioned leaves what is recorded for the rules. -/
theorem recorded_forgetNodes (hs : List Handle) (w : Workspace)
    (hun : ∀ h ∈ hs, w.relevant.get? h = none) :
    (w.forgetNodes d hs).1.recorded = w.recorded := by
  induction hs generalizing w with
  | nil => rfl
  | cons h hs ih =>
    have hone : (w.forgetNode d h).1.recorded = w.recorded := by
      show (w.rulesOf h).foldl _ w.recorded = _
      rw [rulesOf, Table.getD, hun h (List.mem_cons_self ..)]
      rfl
    show ((w.forgetNode d h).1.forgetNodes d hs).1.recorded = _
    rw [ih _ ?_, hone]
    intro x hx
    show (w.relevant.erase h).get? x = none
    rw [Table.get?_erase]
    split_ifs
    · rfl
    · exact hun x (List.mem_cons_of_mem _ hx)

/-- Forgetting takes an element and what is inside it from the outline, and nothing else. -/
theorem outline_forget (w : Workspace) (d : Document) (h : Handle) :
    (w.forget d h).1.outline = w.outline.detach h := by
  have hnodes : ∀ (hs : List Handle) (w : Workspace),
      (w.forgetNodes d hs).1.outline = w.outline := by
    intro hs
    induction hs with
    | nil => exact fun _ => rfl
    | cons h hs ih => exact fun w => ih (w.forgetNode d h).1
  exact hnodes (d.subtree h) { w with outline := w.outline.detach h }

section Forgetting

variable {w₁ : Workspace} {d₁ : Document} (hg : Grows (w, d) (w₁, d₁))
  (hnew : ∀ k, d₁.Within h k → d.slots.size ≤ k.index)

include hg hnew

/-- A table that holds nothing of nodes that are not live, and that was left alone while the new
nodes were made, is the same again once they are forgotten. -/
theorem get?_forget {α : Type} (part : Workspace → Table Handle α)
    (herase : ∀ (w : Workspace) (h : Handle), part (w.forgetNode d₁ h).1 = (part w).erase h)
    (hsame : part { w₁ with outline := w₁.outline.detach h } = part w)
    (hnone : ∀ k, d.contains k = false → (part w).get? k = none) (k : Handle) :
    (part (w₁.forget d₁ h).1).get? k = (part w).get? k := by
  refine (get?_forgetNodes part herase (d₁.subtree h) _ k).trans ?_
  split_ifs with hk
  · rw [Document.mem_subtree_iff hg.sound.orderly.forest] at hk
    exact (hnone k (Document.contains_eq_false_of_le (hnew k hk))).symm
  · rw [hsame]

/-- If all new nodes are forgotten, the same nodes are bound as before. -/
theorem binding?_forget (hs : Sane (w, d))
    (hall : ∀ k, d.slots.size ≤ k.index → d₁.contains k = true → d₁.Within h k) (k : Handle) :
    (w₁.forget d₁ h).1.binding? k = w.binding? k := by
  have hforgets := forgets_forget hg.sound.orderly.forest w₁ h
  by_cases hk : d₁.Within h k
  · exact (hforgets.gone k hk).1.trans (hs.binding?_of_le (hnew k hk)).symm
  · rw [(hforgets.left k hk).1]
    by_cases hlt : d.slots.size ≤ k.index
    · rw [hs.binding?_of_le hlt]
      refine hg.sound.binding?_of_not_contains ?_
      cases hc : d₁.contains k with
      | false => rfl
      | true => exact absurd (hall k hlt hc) hk
    · exact hg.workspace.binding? k hlt

end Forgetting

/-- Forgetting new nodes again changes nothing. -/
theorem Sane.same_of_forget (hs : Sane (w, d)) (hb : Builds d.slots.size (w, d) t)
    (hg : Grows (w, d) t) (hshown : w.outline.contains h = false)
    (hnew : ∀ k, t.2.Within h k → d.slots.size ≤ k.index)
    (hall : ∀ k, d.slots.size ≤ k.index → t.2.contains k = true → t.2.Within h k) :
    w.Same (t.1.forget t.2 h).1 := by
  obtain ⟨w₁, d₁⟩ := t
  have hs₁ := hs.builds hb hg
  have hw := hb.workspace
  dsimp only at hw hnew hall ⊢
  have hforgets := forgets_forget hg.sound.orderly.forest w₁ h
  have hbinding := binding?_forget hg hnew hs hall
  have hlisted := (hb.enlisted hs.toSound hs.toRegular (fun _ hk => hk) (hs.enlisted d)).forget
    hs₁.toRegular hg.sound.orderly.toLinked hnew
  have hproper := (hs₁.toRegular.forget h).proper
  have hunknown := fun k (hk : d.contains k = false) => hs.traced.unknown hk
  -- no rule has led to a new node, so nothing recorded is lost with it
  have hrecorded : (w₁.forget d₁ h).1.recorded = w.recorded := by
    refine (recorded_forgetNodes (d₁.subtree h) _ ?_).trans (by rw [hw])
    intro k hk
    rw [Document.mem_subtree_iff hg.sound.orderly.forest] at hk
    rw [hw]
    exact (hunknown k (Document.contains_eq_false_of_le (hnew k hk))).2.2.2.1
  have houtline : (w₁.forget d₁ h).1.outline = w.outline := by
    rw [outline_forget, show w₁.outline = w.outline by rw [hw],
      Outline.detach_of_not_contains hshown]
  exact {
    model := hforgets.model.trans hg.workspace.model
    whitelist := hforgets.whitelist.trans hg.workspace.whitelist
    bindings := hbinding
    entries := by simp [houtline]
    root := by rw [houtline]
    offers := get?_forget hg hnew (fun w => w.offers) (fun _ _ => rfl) (by rw [hw])
      fun k hk => (hunknown k hk).2.1
    verdicts := get?_forget hg hnew (fun w => w.verdicts) (fun _ _ => rfl) (by rw [hw])
      fun k hk => (hunknown k hk).2.2.1
    relevant := get?_forget hg hnew (fun w => w.relevant) (fun _ _ => rfl) (by rw [hw])
      fun k hk => (hunknown k hk).2.2.2.1
    recorded := by simp [hrecorded]
    claims := fun name => hs.proper.get?_congr hproper (hlisted.candidates_eq (fun k hk =>
      (hbinding k).trans (hs.binding?_of_le hk)) name)
    revisions := get?_forget hg hnew (fun w => w.revisions) (fun _ _ => rfl)
      (by rw [hw]) fun k hk => (hunknown k hk).2.2.2.2 }

end Workspace

/-! ## Edits -/

namespace Session

variable {s s' : Session} {d d' d₂ : Document} {h k p old new node : Handle} {c : ConstraintId}

/-- A new element is taken back without a trace if all that is new lies below it. -/
theorem unchanged_takeBack_of_within (hs : Workspace.Sane (s.workspace, s.document))
    {t : Workspace.Stage} (hb : Workspace.Builds s.document.slots.size (s.workspace, s.document) t)
    (hg : Workspace.Grows (s.workspace, s.document) t) (hl : Workspace.Loose s.document t.2 h)
    (hshown : s.workspace.outline.contains h = false)
    (hall : ∀ k, s.document.slots.size ≤ k.index → t.2.contains k = true → t.2.Within h k)
    (fault : Fault) : s.Unchanged ((s.withStage t).takeBack h fault).1 := by
  have horder : t.2.Orderly := hg.sound.orderly
  have hnew : ∀ k, t.2.Within h k → s.document.slots.size ≤ k.index := fun k hk =>
    Workspace.le_index_of_within horder hl.new hk
  obtain ⟨d, hdiscard, hpruned⟩ :=
    Document.pruned_discard horder.forest hl.contains hl.detached
  have hsame := hs.same_of_forget hb hg hshown hnew hall
  unfold takeBack
  rw [show (s.withStage t).document = t.2 from rfl, hdiscard]
  refine ⟨?_, ?_, hsame, rfl, rfl, rfl, rfl, rfl⟩
  · show s.document.slots.size ≤ d.slots.size
    rw [hpruned.size]
    exact hg.document.size
  · exact hg.document.node?_of_pruned hpruned hnew hall

/-- A new element that found no place is taken back without a trace. -/
theorem unchanged_takeBack (hs : Workspace.Sane (s.workspace, s.document))
    (htree : s.workspace.model.TreeShaped) (hdist : s.workspace.model.AttributesDistinct)
    {t : Workspace.Stage} (hc : s.workspace.create s.document c = (t, some h))
    (hshown : s.workspace.outline.contains h = false) (fault : Fault) :
    s.Unchanged ((s.withStage t).takeBack h fault).1 := by
  have hf : Workspace.Furnished True _ _ :=
    Workspace.furnished_create htree (fun _ => hdist) hs.toSound c
  have hb := Workspace.builds_create hs.toSound c
  rw [hc] at hf hb
  refine unchanged_takeBack_of_within hs hb hf.grows (hf.loose h (by simp)) hshown ?_ fault
  -- all that is new lies below the element, as no attribute lost its place to another one
  intro k hk hk'
  refine hf.grows.document.within_of_new hs.orderly.toLinked hf.grows.sound.orderly ?_ hk hk'
  intro k hk hk' hnone
  rcases hf.rooted k hk hk' hnone with hmem | ⟨hnot, -⟩
  · simpa using hmem
  · exact absurd trivial hnot

/-- Discarding a copy that has no place in the document, or lost it again, leaves no trace. -/
theorem unchanged_of_discard_copy (hs : Workspace.Sane (s.workspace, s.document))
    (hcp : Copied s.workspace new s.document d) {w : Workspace} (hw : s.workspace.Same w)
    (hd₂ : ∀ k, d₂.node? k = d.node? k) (hsize : d₂.slots.size = d.slots.size) :
    ∃ d₃, d₂.discard new = .ok d₃ ∧ s.Unchanged (s.withStage (w, d₃)) := by
  have hext : s.document.Extends d₂ := by
    refine ⟨hsize ▸ hcp.grows.document.size, fun k hk => ?_⟩
    exact (hd₂ k).trans (hcp.grows.document.node? k hk)
  have hlive : ∀ k, d₂.contains k = d.contains k := fun k => by
    rw [Document.contains, Document.contains, hd₂]
  have hparent : ∀ k, d₂.parent? k = d.parent? k := fun k => by
    rw [Document.parent?, Document.parent?, hd₂]
  have horder : d₂.Orderly :=
    (show d.Extends d₂ from ⟨Nat.le_of_eq hsize.symm, fun k _ => hd₂ k⟩).orderly_of_node?
      hcp.grows.sound.orderly hd₂
  obtain ⟨d₃, hdiscard, hpruned⟩ := Document.pruned_discard horder.forest
    ((hlive new).trans hcp.contains_new) ((hparent new).trans hcp.parent?_new)
  refine ⟨d₃, hdiscard, ?_, ?_, hw, rfl, rfl, rfl, rfl, rfl⟩
  · show s.document.slots.size ≤ d₃.slots.size
    rw [hpruned.size]
    exact hext.size
  · refine hext.node?_of_pruned hpruned ?_ ?_
    · exact fun k hk => Workspace.le_index_of_within horder hcp.le_index hk
    · intro k hk hk'
      refine hext.within_of_new hs.orderly.toLinked horder ?_ hk hk'
      intro k hk hk' hnone
      exact hcp.rooted k hk ((hlive k).symm.trans hk') ((hparent k).symm.trans hnone)

/-- Once it is clear that the copy is not as it has to be, the old element is put back without a
trace. -/
theorem unchanged_putBack (hs : Workspace.Sane (s.workspace, s.document))
    (hsw : Swapped s.workspace p old new s.document d d')
    (hfalse : (s.workspace.bind d' new c).2 = false) :
    ∃ s' fault, (s.withStage ((s.workspace.bind d' new c).1, d')).putBack p old new =
      (s', .error fault) ∧ s.Unchanged s' := by
  obtain ⟨d₂, hback, hshape⟩ :=
    hsw.grows.sound.orderly.replaceChild_back hsw.parent?_old hsw.lt hsw.replaced
  have hstored := (Document.relinked_replaceChild hsw.orderly.toLinked hback).1.stored
  have hd₂ : ∀ k, d₂.node? k = d.node? k := fun k =>
    Document.node?_congr (hshape.kind? k) (hshape.name k)
      ((hstored k).trans (hsw.relinked.stored k)) (hshape.parent? k) (hshape.attributes k)
      (hshape.children k)
  -- binding that failed has unbound the copy, and never touched the rest
  have hbindings : ∀ k, (s.workspace.bind d' new c).1.binding? k = s.workspace.binding? k := by
    intro k
    by_cases hk : d'.Within new k
    · rw [Workspace.binding?_of_bind_eq_false hsw.orderly.forest hfalse hk, hsw.unbound hs k hk]
    · exact (Workspace.rebinds_bind hsw.orderly.toLinked _ new c).binding? k hk
  have hw := hs.same_of_builds (hsw.sane hs) (hsw.builds hs c) hbindings
  obtain ⟨d₃, hdiscard, hun⟩ := unchanged_of_discard_copy hs hsw.toCopied hw hd₂ hshape.size
  refine ⟨_, .notCompliant old, ?_, hun⟩
  unfold putBack
  simp only [withStage, hback, hdiscard]

/-- A replacement is refused without any change, or the copy takes the place of the old element and
takes over from it. -/
theorem replace_cases (hs : Workspace.Sane (s.workspace, s.document)) {source : Document}
    (hsource : source.Linked) (old node : Handle) :
    (∃ s' fault, s.replace old source node = (s', .error fault) ∧ s.Unchanged s') ∨
      ∃ c p d d' w new, s.workspace.binding? old = some c ∧ s.document.parent? old = some p ∧
        s.document.copyFrom source node = .ok (d, new) ∧ d.replaceChild p old new = .ok d' ∧
        s.workspace.bind d' new c = (w, true) ∧
        s.replace old source node = (s.withStage (w, d')).takeOver p old new := by
  unfold replace
  split
  · exact Or.inl ⟨_, _, rfl, Unchanged.refl s⟩
  · exact Or.inl ⟨_, _, rfl, Unchanged.refl s⟩
  · rename_i c p hb hp
    split
    · exact Or.inl ⟨_, _, rfl, Unchanged.refl s⟩
    · rename_i d new hcopy
      have hcp := hs.copied hsource hcopy
      split
      · obtain ⟨d₃, hdiscard, hun⟩ :=
          unchanged_of_discard_copy hs hcp (.refl _) (fun _ => rfl) rfl
        rw [hdiscard]
        exact Or.inl ⟨_, _, rfl, hun⟩
      · rename_i d' hreplace
        have hsw := hcp.swapped hs.orderly.toLinked hp hreplace
        cases hbound : (s.workspace.bind d' new c).2 with
        | true =>
          refine Or.inr ⟨c, p, d, d', (s.workspace.bind d' new c).1, new, hb, hp, hcopy, hreplace,
            Prod.ext rfl hbound, ?_⟩
          dsimp only
          rw [if_pos hbound]
        | false =>
          obtain ⟨s', fault, hfault, hun⟩ := unchanged_putBack hs hsw hbound
          refine Or.inl ⟨s', fault, ?_, hun⟩
          dsimp only
          rw [if_neg (by rw [hbound]; simp)]
          exact hfault

end Session

end GuidedXml
