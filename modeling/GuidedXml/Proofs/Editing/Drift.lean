/-
# Drifting sessions

How a session gets from one state to another. Nodes whose surroundings have changed have to be given
up: their offers are dropped and their revision goes up. Between the change and that, the nodes that
still have to be given up form the dirty set of the drift.

The main statements say that drifts compose, that invalidating a subtree takes it out of the dirty
set, and that a drift with no dirty nodes leaves every offer either stale or as good as new.
-/
import GuidedXml.Proofs.Editing.Creation
import GuidedXml.Proofs.Editing.Offers

namespace GuidedXml

open Schema (ConstraintId)

namespace Session

variable {s s' s'' : Session} {D E P : Handle → Prop} {h k p : Handle}

/-! ## States -/

/-- The document is in order, only live nodes are bound, and only bound nodes have offers kept. -/
structure Tidy (s : Session) : Prop where
  sound : Workspace.Sound (s.workspace, s.document)
  bound_of_kept : ∀ {h os}, s.workspace.offers.get? h = some os →
    ∃ c, s.workspace.binding? h = some c

/-- The offers kept for nodes are those that would be made afresh. -/
def Fresh (s : Session) : Prop :=
  ∀ h os, s.workspace.offers.get? h = some os →
    ∃ c, s.workspace.binding? h = some c ∧ os = s.makeOffers h c

/-- The offer is stale for good, or would be made afresh. -/
structure StaleOrFresh (s : Session) (o : Offer) : Prop where
  known : o.anchor.index < s.document.slots.size
  fresh : s.document.contains o.anchor = true → o.revision < s.workspace.revision o.anchor ∨
    ∃ c, s.workspace.binding? o.anchor = some c ∧ o ∈ s.makeOffers o.anchor c

/-- The document of a tidy session is orderly. -/
theorem Tidy.orderly (hs : s.Tidy) : s.document.Orderly :=
  hs.sound.orderly

/-- The document of a tidy session is linked. -/
theorem Tidy.linked (hs : s.Tidy) : s.document.Linked :=
  hs.sound.orderly.toLinked

/-- In a tidy session only live nodes are bound. -/
theorem Tidy.contains_of_bound (hs : s.Tidy) {c : ConstraintId}
    (hb : s.workspace.binding? h = some c) : s.document.contains h = true :=
  hs.sound.contains_of_bound hb

/-! ## Drifts -/

/-- The node was given up on the way: its revision went up, and no offers are kept for it. -/
structure GivenUp (s s' : Session) (h : Handle) : Prop where
  revision : s.workspace.revision h < s'.workspace.revision h
  offers : s'.workspace.offers.get? h = none

/-- The second session came from the first one; of the nodes that are in both, those outside the
dirty set were given up or have not moved. -/
structure Drifts (D : Handle → Prop) (s s' : Session) : Prop where
  tidy : s'.Tidy
  model : s'.workspace.model = s.workspace.model
  whitelist : s'.workspace.whitelist = s.workspace.whitelist
  size : s.document.slots.size ≤ s'.document.slots.size
  dead : ∀ h, h.index < s.document.slots.size → s'.document.contains h = true →
    s.document.contains h = true
  kept : ∀ h os, s'.workspace.offers.get? h = some os → s.workspace.offers.get? h = some os
  binding? : ∀ h, s.document.contains h = true → s'.document.contains h = true →
    s'.workspace.binding? h = s.workspace.binding? h
  revision_le : ∀ h, s.document.contains h = true → s'.document.contains h = true →
    s.workspace.revision h ≤ s'.workspace.revision h
  settled : ∀ h, s.document.contains h = true → s'.document.contains h = true → ¬ D h →
    GivenUp s s' h ∨ Unmoved s s' h

namespace Drifts

/-- Sessions that drift one after the other drift in all, and what either made dirty is dirty. -/
theorem trans (h₁ : Drifts D s s') (h₂ : Drifts E s' s'') :
    Drifts (fun h => D h ∨ E h) s s'' := by
  -- a node that is in the first and the last session is in the one between them
  have hmid : ∀ h, s.document.contains h = true → s''.document.contains h = true →
      s'.document.contains h = true := by
    intro h hc hc''
    refine h₂.dead h ?_ hc''
    exact Nat.lt_of_lt_of_le (Document.index_lt_of_contains hc) h₁.size
  refine ⟨h₂.tidy, h₂.model.trans h₁.model, h₂.whitelist.trans h₁.whitelist,
    Nat.le_trans h₁.size h₂.size, ?_, fun h os hk => h₁.kept h os (h₂.kept h os hk), ?_, ?_, ?_⟩
  · intro h hh hc
    exact h₁.dead h hh (h₂.dead h (Nat.lt_of_lt_of_le hh h₁.size) hc)
  · intro h hc hc''
    have hc' := hmid h hc hc''
    exact (h₂.binding? h hc' hc'').trans (h₁.binding? h hc hc')
  · intro h hc hc''
    have hc' := hmid h hc hc''
    exact Nat.le_trans (h₁.revision_le h hc hc') (h₂.revision_le h hc' hc'')
  · intro h hc hc'' hnot
    have hc' := hmid h hc hc''
    have hle₁ := h₁.revision_le h hc hc'
    have hle₂ := h₂.revision_le h hc' hc''
    rcases h₂.settled h hc' hc'' (fun hE => hnot (Or.inr hE)) with hgive₂ | hsame₂
    · exact Or.inl ⟨Nat.lt_of_le_of_lt hle₁ hgive₂.revision, hgive₂.offers⟩
    · rcases h₁.settled h hc hc' (fun hD => hnot (Or.inl hD)) with hgive₁ | hsame₁
      · refine Or.inl ⟨Nat.lt_of_lt_of_le hgive₁.revision hle₂, ?_⟩
        cases ho : s''.workspace.offers.get? h with
        | none => rfl
        | some os =>
          have := h₂.kept h os ho
          rw [hgive₁.offers] at this
          simp at this
      · exact Or.inr (hsame₁.trans hsame₂)

/-- Only nodes that are in both sessions count as dirty. -/
theorem mono (hd : Drifts D s s') (hDE : ∀ h, s.document.contains h = true →
    s'.document.contains h = true → D h → E h) : Drifts E s s' where
  tidy := hd.tidy
  model := hd.model
  whitelist := hd.whitelist
  size := hd.size
  dead := hd.dead
  kept := hd.kept
  binding? := hd.binding?
  revision_le := hd.revision_le
  settled := fun h hc hc' hE => hd.settled h hc hc' fun hD => hE (hDE h hc hc' hD)

/-- After a drift without dirty nodes the offers kept are still those that would be made afresh. -/
theorem fresh (hd : Drifts (fun _ => False) s s') (hs : s.Tidy) (hf : s.Fresh) : s'.Fresh := by
  intro h os hos
  obtain ⟨c, hc⟩ := hd.tidy.bound_of_kept hos
  have hold := hd.kept h os hos
  obtain ⟨c₀, hc₀, heq⟩ := hf h os hold
  rcases hd.settled h (hs.contains_of_bound hc₀) (hd.tidy.contains_of_bound hc) not_false with
    hgive | hsame
  · rw [hgive.offers] at hos
    simp at hos
  · refine ⟨c₀, by rw [hsame.binding?, hc₀], ?_⟩
    rw [makeOffers_congr hsame, heq]

/-- After a drift without dirty nodes every offer is still stale or would be made afresh. -/
theorem staleOrFresh (hd : Drifts (fun _ => False) s s') {o : Offer} (ho : s.StaleOrFresh o) :
    s'.StaleOrFresh o := by
  refine ⟨Nat.lt_of_lt_of_le ho.known hd.size, ?_⟩
  intro hc'
  have hc := hd.dead o.anchor ho.known hc'
  rcases ho.fresh hc with hlt | ⟨c, hb, hmem⟩
  · exact Or.inl (Nat.lt_of_lt_of_le hlt (hd.revision_le _ hc hc'))
  · rcases hd.settled _ hc hc' not_false with hgive | hsame
    · left
      rw [(anchor_of_mem_makeOffers hmem).2]
      exact hgive.revision
    · exact Or.inr ⟨c, by rw [hsame.binding?, hb], by rw [makeOffers_congr hsame]; exact hmem⟩

end Drifts

/-! ## Single steps -/

/-- A change that binds or unbinds new nodes alone drifts as far as it disturbs nodes. -/
theorem drifts_of_change (ht : s'.Tidy)
    (hw : s.workspace.Rebinds (fun k => s.document.contains k = false) s'.workspace)
    (hsize : s.document.slots.size ≤ s'.document.slots.size)
    (hdead : ∀ h, h.index < s.document.slots.size → s'.document.contains h = true →
      s.document.contains h = true)
    (hseen : ∀ h, s.document.contains h = true → ¬ D h →
      s.document.Undisturbed s'.document h) : Drifts D s s' := by
  have hbinding : ∀ h, s.document.contains h = true →
      s'.workspace.binding? h = s.workspace.binding? h := by
    intro h hc
    refine hw.binding? h ?_
    rw [hc]
    simp
  refine ⟨ht, hw.model, hw.whitelist, hsize, hdead, ?_, fun h hc _ => hbinding h hc,
    fun h _ _ => Nat.le_of_eq (hw.revision h).symm, ?_⟩
  · intro h os hos
    rw [hw.offers] at hos
    exact hos
  · intro h hc _ hD
    refine Or.inr ⟨hw.model, hseen h hc hD, hbinding h hc, ?_, hw.revision h⟩
    intro k hk
    exact hbinding k (Document.contains_of_isElement (Document.mem_elements.mp hk).2)

/-- Only bound nodes have offers kept after new nodes alone were bound or unbound. -/
theorem Tidy.change (hs : s.Tidy)
    (hw : s.workspace.Rebinds (fun k => s.document.contains k = false) s'.workspace)
    (hsound : Workspace.Sound (s'.workspace, s'.document)) : s'.Tidy where
  sound := hsound
  bound_of_kept := by
    intro h os hos
    rw [hw.offers] at hos
    obtain ⟨c, hc⟩ := hs.bound_of_kept hos
    refine ⟨c, (hw.binding? h ?_).trans hc⟩
    rw [hs.contains_of_bound hc]
    simp

/-- Sessions that are alike differ in nothing that offers could show. -/
theorem Alike.drifts (ha : Alike s s') (hs : s.Tidy) : Drifts (fun _ => False) s s' := by
  have hw := ha.workspace.mono (Q := fun k => s.document.contains k = false)
    fun _ hf => absurd hf not_false
  refine drifts_of_change (hs.change hw ⟨?_, ?_⟩) hw (by rw [ha.document]) ?_ ?_
  · rw [ha.document]
    exact hs.orderly
  · intro k c hb
    rw [ha.document]
    exact hs.contains_of_bound ((ha.binding? k).symm.trans hb)
  · intro h _ hc
    rw [ha.document] at hc
    exact hc
  · intro h _ _
    rw [ha.document]
    exact Document.Undisturbed.refl _ h

/-- New nodes disturb none of those that were there. -/
theorem drifts_of_grows {t : Workspace.Stage} (hs : s.Tidy)
    (hg : Workspace.Grows (s.workspace, s.document) t) :
    Drifts (fun _ => False) s (s.withStage t) := by
  have hw : s.workspace.Rebinds (fun k => s.document.contains k = false) t.1 :=
    hg.workspace.mono fun _ hk => Document.contains_eq_false_of_le hk
  refine drifts_of_change (hs.change hw hg.sound) hw hg.document.size ?_ ?_
  · intro h hh hc
    replace hc : t.2.contains h = true := hc
    rw [Document.contains, hg.document.node? h hh] at hc
    exact hc
  · intro h hc _
    exact hg.document.undisturbed hs.linked hc

/-- The nodes that moving nodes into a parent or out of it can disturb. -/
def Touched (d : Document) (p : Handle) (taken : Option Handle) (h : Handle) : Prop :=
  h = p ∨ d.parent? h = some p ∨ taken = some h

/-- Relinking makes the nodes dirty that it touches. -/
theorem drifts_of_relinked (hs : s.Tidy) {d : Document} {taken given : Option Handle}
    (hr : s.document.Relinked d p taken given) (hd : d.Orderly) :
    Drifts (Touched d p taken) s { s with document := d } := by
  have hcontains : ∀ h, d.contains h = s.document.contains h := fun h =>
    Document.contains_congr (hr.kind? h)
  have hw := Workspace.Rebinds.refl (fun k => s.document.contains k = false) s.workspace
  refine drifts_of_change (hs.change hw ⟨hd, ?_⟩) hw (Nat.le_of_eq hr.size.symm) ?_ ?_
  · intro k c hb
    exact (hcontains k).trans (hs.contains_of_bound hb)
  · intro h _ hc
    exact (hcontains h).symm.trans hc
  · intro h _ hD
    refine hr.undisturbed ?_ ?_ ?_
    · exact fun he => hD (Or.inl he)
    · exact fun he => hD (Or.inr (Or.inl he))
    · exact fun he => hD (Or.inr (Or.inr he))

/-! ## Giving up -/

/-- Giving up the offers for some nodes changes those and their revisions only. -/
theorem foldl_invalidateNode (hs : List Handle) (w : Workspace) :
    (hs.foldl Workspace.invalidateNode w).model = w.model ∧
      (hs.foldl Workspace.invalidateNode w).whitelist = w.whitelist ∧
      (hs.foldl Workspace.invalidateNode w).bindings = w.bindings ∧
      ∀ k, w.revision k ≤ (hs.foldl Workspace.invalidateNode w).revision k ∧
        (k ∉ hs → (hs.foldl Workspace.invalidateNode w).revision k = w.revision k) ∧
        (k ∈ hs → w.revision k < (hs.foldl Workspace.invalidateNode w).revision k) ∧
        (hs.foldl Workspace.invalidateNode w).offers.get? k =
          if k ∈ hs then none else w.offers.get? k := by
  induction hs generalizing w with
  | nil => simp
  | cons h hs ih =>
    obtain ⟨hm, hwl, hb, hk⟩ := ih (w.invalidateNode h)
    rw [List.foldl_cons]
    refine ⟨hm, hwl, hb, ?_⟩
    intro k
    obtain ⟨hle, hout, hin, hoff⟩ := hk k
    have hrev := w.revision_invalidateNode h k
    have hone : (w.invalidateNode h).offers.get? k = if k = h then none else w.offers.get? k :=
      Table.get?_erase w.offers h k
    rw [hone] at hoff
    by_cases hkh : k = h
    · subst hkh
      rw [if_pos rfl] at hrev hoff
      refine ⟨by omega, by simp, fun _ => by omega, ?_⟩
      rw [hoff]
      simp
    · rw [if_neg hkh] at hrev hoff
      refine ⟨by omega, ?_, ?_, ?_⟩
      · intro hmem
        rw [hout fun hm => hmem (List.mem_cons_of_mem _ hm), hrev]
      · intro hmem
        have := hin ((List.mem_cons.mp hmem).resolve_left hkh)
        omega
      · rw [hoff]
        simp [hkh]

/-- Giving up a subtree makes it clean. -/
theorem Drifts.invalidate (hd : Drifts D s s') (p : Handle) :
    Drifts (fun h => D h ∧ ¬ s'.document.Within p h) s
      { s' with workspace := s'.workspace.invalidate s'.document p } := by
  have hforest := hd.tidy.orderly.forest
  obtain ⟨hm, hwl, hb, hall⟩ := foldl_invalidateNode (s'.document.subtree p) s'.workspace
  have hbinding : ∀ k, (s'.workspace.invalidate s'.document p).binding? k =
      s'.workspace.binding? k := by
    intro k
    rw [Workspace.binding?, Workspace.binding?, Workspace.invalidate, hb]
  have hkept : ∀ h os, (s'.workspace.invalidate s'.document p).offers.get? h = some os →
      s'.workspace.offers.get? h = some os := by
    intro h os hos
    have := (hall h).2.2.2
    rw [Workspace.invalidate] at hos
    rw [this] at hos
    split at hos
    · simp at hos
    · exact hos
  refine ⟨⟨⟨hd.tidy.orderly, ?_⟩, ?_⟩, hm.trans hd.model, hwl.trans hd.whitelist, hd.size, hd.dead,
    fun h os hos => hd.kept h os (hkept h os hos),
    fun h hc hc' => (hbinding h).trans (hd.binding? h hc hc'), ?_, ?_⟩
  · intro k c hk
    exact hd.tidy.contains_of_bound ((hbinding k).symm.trans hk)
  · intro h os hos
    obtain ⟨c, hc⟩ := hd.tidy.bound_of_kept (hkept h os hos)
    exact ⟨c, (hbinding h).trans hc⟩
  · intro h hc hc'
    exact Nat.le_trans (hd.revision_le h hc hc') (hall h).1
  · intro h hc hc' hnot
    have hle := hd.revision_le h hc hc'
    -- within the node the offers are given up now, elsewhere it is as it was
    by_cases hw : s'.document.Within p h
    · have hmem := Document.mem_subtree_iff hforest |>.mpr hw
      refine Or.inl ⟨Nat.lt_of_le_of_lt hle ((hall h).2.2.1 hmem), ?_⟩
      exact ((hall h).2.2.2).trans (if_pos hmem)
    · have hmem : h ∉ s'.document.subtree p := fun hm =>
        hw (Document.mem_subtree_iff hforest |>.mp hm)
      have hrev := (hall h).2.1 hmem
      rcases hd.settled h hc hc' (fun hD => hnot ⟨hD, hw⟩) with hgive | hsame
      · refine Or.inl ⟨?_, ?_⟩
        · exact Nat.lt_of_lt_of_le hgive.revision (hall h).1
        · exact ((hall h).2.2.2).trans ((if_neg hmem).trans hgive.offers)
      · refine Or.inr ⟨hm.trans hsame.model, hsame.seen, ?_, ?_, hrev.trans hsame.revision⟩
        · exact (hbinding h).trans hsame.binding?
        · exact fun k hk => (hbinding k).trans (hsame.inside k hk)

/-! ## Forgetting -/

end Session

/-- Nothing is known any more of the nodes with the property, and of all others what was known. -/
structure Workspace.Forgets (P : Handle → Prop) (w w' : Workspace) : Prop where
  model : w'.model = w.model
  whitelist : w'.whitelist = w.whitelist
  gone : ∀ k, P k → w'.binding? k = none ∧ w'.offers.get? k = none
  left : ∀ k, ¬ P k → w'.binding? k = w.binding? k ∧
    w'.offers.get? k = w.offers.get? k ∧ w'.revision k = w.revision k

/-- Forgetting nodes forgets nothing but them. -/
theorem Workspace.forgets_forgetNodes (d : Document) (hs : List Handle) (w : Workspace) :
    w.Forgets (· ∈ hs) (w.forgetNodes d hs).1 := by
  induction hs generalizing w with
  | nil => exact ⟨rfl, rfl, by simp, fun k _ => ⟨rfl, rfl, rfl⟩⟩
  | cons h hs ih =>
    obtain ⟨hm, hwl, hgone, hleft⟩ := ih (w.forgetNode d h).1
    have hb := binding?_forgetNode w d h
    have ho : ∀ k, (w.forgetNode d h).1.offers.get? k =
        if k = h then none else w.offers.get? k := Table.get?_erase w.offers h
    have hr : ∀ k, k ≠ h → (w.forgetNode d h).1.revision k = w.revision k := by
      intro k hk
      show (w.revisions.erase h).getD k 0 = w.revisions.getD k 0
      rw [Table.getD, Table.get?_erase, if_neg hk]
      rfl
    show w.Forgets (· ∈ h :: hs) ((w.forgetNode d h).1.forgetNodes d hs).1
    refine ⟨hm, hwl, ?_, ?_⟩
    · intro k hk
      by_cases hkhs : k ∈ hs
      · exact hgone k hkhs
      · obtain rfl : k = h := (List.mem_cons.mp hk).resolve_right hkhs
        rw [(hleft k hkhs).1, (hleft k hkhs).2.1, hb, ho, if_pos rfl]
        exact ⟨rfl, if_pos rfl⟩
    · intro k hk
      have hkh : k ≠ h := fun he => hk (List.mem_cons.mpr (Or.inl he))
      have hkhs : k ∉ hs := fun hm => hk (List.mem_cons_of_mem _ hm)
      obtain ⟨hb', ho', hr'⟩ := hleft k hkhs
      refine ⟨?_, ?_, hr'.trans (hr k hkh)⟩
      · rw [hb', hb, if_neg hkh]
      · rw [ho', ho, if_neg hkh]

/-- Forgetting a subtree forgets exactly the nodes at and below its top. -/
theorem Workspace.forgets_forget {d : Document} (hd : d.Forest) (w : Workspace) (h : Handle) :
    w.Forgets (d.Within h) (w.forget d h).1 := by
  obtain ⟨hm, hwl, hgone, hleft⟩ :=
    forgets_forgetNodes d (d.subtree h) { w with outline := w.outline.detach h }
  refine ⟨hm, hwl, ?_, ?_⟩
  · exact fun k hk => hgone k (Document.mem_subtree_iff hd |>.mpr hk)
  · exact fun k hk => hleft k fun hm => hk (Document.mem_subtree_iff hd |>.mp hm)

namespace Session

variable {s s' : Session} {c : Handle}

/-- Removing a subtree that is forgotten disturbs no node that is left. -/
theorem drifts_of_pruned (hs : s.Tidy) {w : Workspace} {d : Document}
    (hw : s.workspace.Forgets (s.document.Within c) w) (hd : s.document.Pruned d c)
    (hroot : s.document.parent? c = none) (htop : c ≠ Document.top) :
    Drifts (fun _ => False) s (s.withStage (w, d)) := by
  have hleft : ∀ h, d.contains h = true → ¬ s.document.Within c h := fun h hc =>
    (hd.contains_iff.mp hc).2
  refine ⟨⟨⟨hd.orderly hs.orderly hroot htop, ?_⟩, ?_⟩, hw.model, hw.whitelist,
    Nat.le_of_eq hd.size.symm, ?_, ?_,
    fun h _ hc => (hw.left h (hleft h hc)).1, ?_, ?_⟩
  · intro k i hb
    replace hb : w.binding? k = some i := hb
    by_cases hk : s.document.Within c k
    · rw [(hw.gone k hk).1] at hb
      simp at hb
    · rw [(hw.left k hk).1] at hb
      exact hd.contains_iff.mpr ⟨hs.contains_of_bound hb, hk⟩
  · intro h os hos
    replace hos : w.offers.get? h = some os := hos
    by_cases hh : s.document.Within c h
    · rw [(hw.gone h hh).2] at hos
      simp at hos
    · obtain ⟨hb, ho, -⟩ := hw.left h hh
      obtain ⟨i, hi⟩ := hs.bound_of_kept (ho.symm.trans hos)
      exact ⟨i, hb.trans hi⟩
  · intro h _ hc
    exact (hd.contains_iff.mp hc).1
  · intro h os hos
    replace hos : w.offers.get? h = some os := hos
    by_cases hh : s.document.Within c h
    · rw [(hw.gone h hh).2] at hos
      simp at hos
    · exact (hw.left h hh).2.1.symm.trans hos
  · intro h _ hc
    exact Nat.le_of_eq (hw.left h (hleft h hc)).2.2.symm
  · intro h _ hc _
    have hh := hleft h hc
    refine Or.inr ⟨hw.model, hd.undisturbed hs.linked hroot hh, (hw.left h hh).1, ?_,
      (hw.left h hh).2.2⟩
    intro k hk
    refine (hw.left k ?_).1
    exact Document.Within.not_within_of_mem hs.linked hroot hh
      (Document.mem_inside.mpr (Or.inr (Document.mem_elements.mp hk).1))

/-- Discarding and forgetting a subtree that belongs to no parent is always possible. -/
theorem drifts_of_discard (hs : s.Tidy) (hc : s.document.contains c = true)
    (hroot : s.document.parent? c = none) (htop : c ≠ Document.top) :
    ∃ d, s.document.discard c = .ok d ∧ s.document.Pruned d c ∧
      Drifts (fun _ => False) s (s.withStage ((s.workspace.forget s.document c).1, d)) := by
  obtain ⟨d, hdiscard, hpruned⟩ := Document.pruned_discard hs.orderly.forest hc hroot
  exact ⟨d, hdiscard, hpruned,
    drifts_of_pruned hs (Workspace.forgets_forget hs.orderly.forest _ _) hpruned hroot htop⟩

end Session

end GuidedXml
