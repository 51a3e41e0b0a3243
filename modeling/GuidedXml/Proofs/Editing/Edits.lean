/-
# Edits and what they give up

Every edit, whether it is done or refused, leaves no node dirty: the nodes that it disturbs are given
up, are gone, or are new.

The main statements say this for each edit.
-/
import GuidedXml.Editing.Session.Edits
import GuidedXml.Proofs.Document.Replacement
import GuidedXml.Proofs.Editing.Drift

namespace GuidedXml.Session

open Schema (ConstraintId)

variable {s s' : Session} {D : Handle → Prop} {c : ConstraintId} {h k p parent : Handle}

/-! ## Common steps -/

theorem Drifts.refl (hs : s.Tidy) : Drifts (fun _ => False) s s :=
  (Alike.refl s).drifts hs

/-- Steps that leave nothing dirty can be put after a drift. -/
theorem Drifts.clean (h₁ : Drifts D s s') {s'' : Session} (h₂ : Drifts (fun _ => False) s' s'') :
    Drifts D s s'' :=
  (h₁.trans h₂).mono fun _ _ _ hD => hD.resolve_right not_false

/-- Steps to a session alike can be put after a drift. -/
theorem Drifts.alike (h₁ : Drifts D s s') {s'' : Session} (ha : Alike s' s'') : Drifts D s s'' :=
  h₁.clean (ha.drifts h₁.tidy)

/-- If only the parent and what is inside it is dirty, giving up the parent leaves nothing dirty. -/
theorem Drifts.settle (hd : Drifts D s s') (hp : s'.document.contains p = true)
    (hD : ∀ h, s.document.contains h = true → s'.document.contains h = true → D h →
      h = p ∨ s'.document.parent? h = some p) :
    Drifts (fun _ => False) s { s' with workspace := s'.workspace.invalidate s'.document p } := by
  refine (hd.invalidate p).mono ?_
  rintro h hc hc' ⟨hDh, hout⟩
  rcases hD h hc hc' hDh with rfl | hpar
  · exact hout (Document.Within.self hp)
  · exact hout ((Document.Within.self hp).step hpar)

/-- A node that came later is not the top of the document. -/
theorem Tidy.ne_top (hs : s.Tidy) (hh : s.document.slots.size ≤ h.index) : h ≠ Document.top := by
  rintro rfl
  have := Document.index_lt_of_contains hs.linked.contains_top
  omega

/-- Forgetting for good a node that belongs to no parent is always possible. -/
theorem forgetForGood_of_detached (hs : s.Tidy) (hc : s.document.contains h = true)
    (hroot : s.document.parent? h = none) (htop : h ≠ Document.top) :
    ∃ s', s.forgetForGood h = (s', .ok ()) ∧ Drifts (fun _ => False) s s' ∧
      s.document.Pruned s'.document h := by
  obtain ⟨d, hdiscard, hpruned, hdrift⟩ := drifts_of_discard hs hc hroot htop
  unfold forgetForGood
  rw [hdiscard]
  have ha := alike_validateAll
    (s.withStage ((s.workspace.forget s.document h).1, d)) (s.workspace.forget s.document h).2
  have hd : s.document.Pruned ((s.withStage ((s.workspace.forget s.document h).1, d)).validateAll
      (s.workspace.forget s.document h).2).document h := by
    rw [ha.document]
    exact hpruned
  exact ⟨_, rfl, hdrift.alike ha, hd⟩

/-! ## Additions -/

/-- What could not be placed is taken back without a trace. -/
theorem drifts_takeBack (hs : s.Tidy) (hc : s.document.contains h = true)
    (hroot : s.document.parent? h = none) (htop : h ≠ Document.top) (fault : Fault) :
    Drifts (fun _ => False) s (s.takeBack h fault).1 := by
  obtain ⟨d, hdiscard, -, hdrift⟩ := drifts_of_discard hs hc hroot htop
  unfold takeBack
  rw [hdiscard]
  exact hdrift

/-- What has a kind is a constraint of the model. -/
theorem exists_of_kind? {m : Schema.ContentModel} {kind : Schema.ConstraintKind}
    (hk : m.kind? c = some kind) : ∃ e, m.get? c = some e ∧ e.kind = kind := by
  unfold Schema.ContentModel.kind? at hk
  cases he : m.get? c with
  | none => rw [he] at hk; simp at hk
  | some e =>
    rw [he] at hk
    exact ⟨e, rfl, Option.some.inj hk⟩

/-- What is no fault as an element is an element. -/
theorem isElement_of_elementFault? (hf : s.elementFault? h = none) :
    s.document.isElement h = true := by
  unfold elementFault? at hf
  split_ifs at hf with hc he
  simpa using he

/-- A session drifts when a node is added, and nothing is left dirty. -/
theorem drifts_addNode (hs : s.Tidy) (c : ConstraintId) (parent : Handle) (after : Option Handle) :
    Drifts (fun _ => False) s (s.addNode c parent after).1 := by
  unfold addNode
  split
  · exact Drifts.refl hs
  · rename_i hk
    rw [not_not] at hk
    cases hf : s.elementFault? parent with
    | some fault => exact Drifts.refl hs
    | none =>
      obtain ⟨e, he, hkind⟩ := exists_of_kind? hk
      obtain ⟨hsome, hraise, -⟩ := Workspace.create_of_element hs.sound he hkind
      have hmade := drifts_of_grows hs hraise.toGrows
      have hparent := Document.index_lt_of_contains
        (Document.contains_of_isElement (isElement_of_elementFault? hf))
      dsimp only
      rw [hsome]
      generalize hstage : (s.workspace.create s.document c).1 = stage at hmade hraise
      generalize hnew : s.document.next = h at hraise ⊢
      have hh : s.document.slots.size ≤ h.index := hraise.new
      dsimp only
      split
      · refine hmade.clean ?_
        exact drifts_takeBack hmade.tidy hraise.contains hraise.parent? (hs.ne_top hh) _
      · rename_i d hd
        obtain ⟨hr, hpl, -⟩ := Document.relinked_insertAfter hmade.tidy.linked hd
        have horder : d.Orderly := by
          refine hr.orderly hmade.tidy.orderly ?_ (by intro x hx; simp at hx)
          intro x hx
          obtain rfl := Option.some.inj hx
          exact ⟨hpl.canHold, Nat.lt_of_lt_of_le hparent hh⟩
        have hplaced := hmade.trans (drifts_of_relinked hmade.tidy hr horder)
        -- showing the new element in the outline is no matter of offers
        have hshown : Alike { s.withStage stage with document := d }
            { s.withStage stage with
              document := d
              workspace := { stage.1 with outline := stage.1.outline.attach d h } } :=
          ⟨rfl, rfl, rfl, rfl, rfl, fun _ _ => rfl⟩
        have hp : d.contains parent = true := by
          rw [Document.contains_congr (hr.kind? parent)]
          exact hpl.contains_parent
        have hsettled := (hplaced.alike hshown).settle (p := parent) hp (by
          rintro x - - (hfalse | rfl | hx | hx)
          · exact absurd hfalse not_false
          · exact Or.inl rfl
          · exact Or.inr hx
          · simp at hx)
        exact hsettled.alike ((alike_checkMissing _).trans (alike_validate _ h))

/-- Once the attribute that was displaced is forgotten, giving up the element leaves nothing
dirty. -/
theorem drifts_displace {d : Document} (hd : Drifts (Touched d parent (some h)) s s')
    (hdoc : s'.document = d) (hc : s'.document.contains h = true) (hroot : s'.document.parent? h = none)
    (htop : h ≠ Document.top) (hp : s'.document.contains parent = true) (hlt : parent.index < h.index) :
    ∃ t, s'.forgetForGood h = (t, .ok ()) ∧ Drifts (fun _ => False) s
      { t with workspace := t.workspace.invalidate t.document parent } := by
  subst hdoc
  obtain ⟨t, hforget, hdrift, hpruned⟩ := forgetForGood_of_detached hd.tidy hc hroot htop
  have hout : ¬ s'.document.Within h parent := by
    intro hw
    have := hw.rank_le (fun _ _ hq => hd.tidy.orderly.parent_lt hq)
    omega
  refine ⟨t, hforget, (hd.clean hdrift).settle ?_ ?_⟩
  · exact hpruned.contains_iff.mpr ⟨hp, hout⟩
  · rintro x - hx (rfl | hpar | hx')
    · exact Or.inl rfl
    · have hxout := (hpruned.contains_iff.mp hx).2
      rw [(Document.lookups_congr (hpruned.kept x hxout)).2.2.1]
      exact Or.inr hpar
    · obtain rfl := Option.some.inj hx'
      exact absurd (Document.Within.self hc) (hpruned.contains_iff.mp hx).2

/-- A session drifts when an attribute is added, and nothing is left dirty. -/
theorem drifts_addAttribute (hs : s.Tidy) (c : ConstraintId) (element : Handle) :
    Drifts (fun _ => False) s (s.addAttribute c element).1 := by
  unfold addAttribute
  split
  · exact Drifts.refl hs
  · cases hf : s.elementFault? element with
    | some fault => exact Drifts.refl hs
    | none =>
      obtain ⟨hg, hloose⟩ := Workspace.create_loose hs.sound c
      have hmade := drifts_of_grows hs hg
      have hlive := Document.contains_of_isElement (isElement_of_elementFault? hf)
      have helement := Document.index_lt_of_contains hlive
      rw [← Document.contains_congr (hg.document.lookups hlive).1] at hlive
      dsimp only
      generalize (s.workspace.create s.document c).1 = stage at hmade hloose hlive ⊢
      cases hsome : (s.workspace.create s.document c).2 with
      | none => exact hmade
      | some a =>
        rw [hsome] at hloose
        have hl := hloose a rfl
        dsimp only
        split
        · exact hmade
        · rename_i d displaced hd
          obtain ⟨hr, hcan, -, hdisplaced⟩ :=
            Document.relinked_placeAttribute hmade.tidy.linked hd
          have htaken : ∀ x, displaced = some x →
              (s.withStage stage).document.parent? x = some element := by
            intro x hx
            rw [hdisplaced] at hx
            exact hmade.tidy.linked.parent?_of_mem (Document.mem_inside.mpr
              (Or.inl (Document.mem_of_attribute?_eq_some hx).1))
          have horder : d.Orderly := by
            refine hr.orderly hmade.tidy.orderly ?_ htaken
            intro x hx
            obtain rfl := Option.some.inj hx
            exact ⟨hcan, Nat.lt_of_lt_of_le helement hl.new⟩
          have hplaced := (hmade.trans (drifts_of_relinked hmade.tidy hr horder)).mono
            (E := Touched d element displaced) fun _ _ _ hD => hD.resolve_left not_false
          have hp : d.contains element = true := by
            rw [Document.contains_congr (hr.kind? element)]
            exact hlive
          -- only the element is touched, and what held the attribute's place before
          cases displaced with
          | none =>
            have hsettled := hplaced.settle (p := element) hp (by
              rintro x - - (rfl | hx | hx)
              · exact Or.inl rfl
              · exact Or.inr hx
              · simp at hx)
            exact hsettled.alike ((alike_checkMissing _).trans (alike_validate _ a))
          | some old =>
            have hold := htaken old rfl
            have hgiven : some a ≠ some old := by
              intro he
              obtain rfl := Option.some.inj he
              rw [hcan.detached] at hold
              simp at hold
            have hoc : d.contains old = true := by
              rw [Document.contains_congr (hr.kind? old)]
              exact Document.contains_of_parent? hold
            have hor : d.parent? old = none := by rw [hr.parent?, if_neg hgiven, if_pos rfl]
            have hot : old ≠ Document.top := by
              rintro rfl
              rw [hmade.tidy.linked.parent?_top] at hold
              simp at hold
            have hdisplace := drifts_displace hplaced rfl
            obtain ⟨t, hforget, hsettled⟩ :=
              hdisplace hoc hor hot hp (hmade.tidy.orderly.parent_lt hold)
            dsimp only
            rw [hforget]
            exact hsettled.alike ((alike_checkMissing _).trans (alike_validate _ a))

/-! ## Removals -/

/-- The parent element of a node is its parent, and an element. -/
theorem parent?_of_parentElement? (hp : s.parentElement? h = some p) :
    s.document.parent? h = some p ∧ s.document.isElement p = true := by
  rw [parentElement?, Option.filter_eq_some_iff] at hp
  exact hp

/-- An element or attribute inside an element can be removed: it is detached, and then pruned with
all that is inside it. -/
theorem removeNode_of_parentElement (hs : s.Tidy) (hpe : s.parentElement? h = some parent) :
    ∃ d s', s.document.detach h = .ok d ∧ s.document.Relinked d parent (some h) none ∧
      d.children parent = (s.document.children parent).filter (· ≠ h) ∧
      s.removeNode h = (s', .ok ()) ∧ d.Pruned s'.document h ∧
      Drifts (fun _ => False) s s' := by
  obtain ⟨hp, he⟩ := parent?_of_parentElement? hpe
  obtain ⟨d, hdetach, hr, hchildren⟩ := Document.relinked_detach hs.linked hp
  have htaken : ∀ x, some h = some x → s.document.parent? x = some parent := by
    intro x hx
    obtain rfl := Option.some.inj hx
    exact hp
  have horder : d.Orderly := hr.orderly hs.orderly (by intro x hx; simp at hx) htaken
  have hdetached := drifts_of_relinked hs hr horder
  let outline := if d.isElement h then s.workspace.outline.detach h else s.workspace.outline
  have hshown : Alike { s with document := d }
      (s.withStage ({ s.workspace with outline := outline }, d)) :=
    ⟨rfl, rfl, rfl, rfl, rfl, fun _ _ => rfl⟩
  -- the session once the rules about the subtree were evaluated
  obtain ⟨t, ht⟩ : ∃ t, t = (s.withStage ({ s.workspace with outline := outline }, d)).checkRules
      ((s.withStage ({ s.workspace with outline := outline }, d)).workspace.rulesOfSubtree d h) :=
    ⟨_, rfl⟩
  have hta : Alike { s with document := d } t := by
    rw [ht]
    exact hshown.trans (alike_checkRules _ _)
  have htd : t.document = d := hta.document
  have hgiven := (hdetached.alike hta).invalidate parent
  have hlive : ∀ x, d.contains x = s.document.contains x := fun x =>
    Document.contains_congr (hr.kind? x)
  have hroot : t.document.parent? h = none := by
    rw [htd, hr.parent?, if_neg (by simp), if_pos rfl]
  have hpc : t.document.contains parent = true := by
    rw [htd, hlive]
    exact Document.contains_of_isElement he
  have htop : h ≠ Document.top := by
    rintro rfl
    rw [hs.linked.parent?_top] at hp
    simp at hp
  obtain ⟨s', hforget, hdrift, hpruned⟩ := forgetForGood_of_detached hgiven.tidy
    (by rw [htd, hlive]; exact Document.contains_of_parent? hp) hroot htop
  refine ⟨d, s', hdetach, hr, hchildren, ?_, htd ▸ hpruned, (hgiven.clean hdrift).mono ?_⟩
  · unfold removeNode
    rw [Document.contains_of_parent? hp, hpe]
    simp only [Bool.not_true, Bool.false_eq_true, if_false, hdetach]
    rw [← hforget, ht]
    rfl
  · rintro x - hx ⟨hD, hout⟩
    rcases hD with rfl | hpar | hx'
    · exact hout (Document.Within.self hpc)
    · exact hout ((Document.Within.self hpc).step (htd ▸ hpar))
    · obtain rfl := Option.some.inj hx'
      exact (hpruned.contains_iff.mp hx).2 (Document.Within.self (by
        rw [htd, hlive]
        exact Document.contains_of_parent? hp))

/-- A session drifts when a node is removed, and nothing is left dirty. -/
theorem drifts_removeNode (hs : s.Tidy) (h : Handle) :
    Drifts (fun _ => False) s (s.removeNode h).1 := by
  cases hpe : s.parentElement? h with
  | some parent =>
    obtain ⟨d, s', -, -, -, hrem, -, hdrift⟩ := removeNode_of_parentElement hs hpe
    rw [hrem]
    exact hdrift
  | none =>
    unfold removeNode
    rw [hpe]
    split <;> exact Drifts.refl hs

/-! ## Replacements -/

/-- A session drifts when an alternative is chosen, and nothing is left dirty. -/
theorem drifts_chooseAlternative (hs : s.Tidy) (c : ConstraintId) (parent : Handle)
    (after : Option Handle) (replaced : Handle) :
    Drifts (fun _ => False) s (s.chooseAlternative c parent after replaced).1 := by
  have hadd := drifts_addNode hs c parent after
  unfold chooseAlternative
  split
  · rename_i s₁ fault heq
    rw [heq] at hadd
    exact hadd
  · rename_i s₁ h heq
    rw [heq] at hadd
    have hremove := hadd.clean (drifts_removeNode hadd.tidy replaced)
    split
    · rename_i s₂ fault heq₂
      rw [heq₂] at hremove
      exact hremove
    · rename_i s₂ heq₂
      rw [heq₂] at hremove
      exact (hremove.invalidate parent).mono fun _ _ _ hD => hD.1

/-- Nothing has to be forgotten of nodes that were not there. -/
theorem Tidy.forgets_of_new (hs : s.Tidy) {w : Workspace} {P : Handle → Prop}
    (hw : s.workspace.Rebinds (fun _ => False) w)
    (hP : ∀ k, P k → s.document.contains k = false) : w.Forgets P w := by
  have hunbound : ∀ k, P k → s.workspace.binding? k = none := by
    intro k hk
    cases hb : s.workspace.binding? k with
    | none => rfl
    | some c =>
      have := hs.contains_of_bound hb
      rw [hP k hk] at this
      simp at this
  refine ⟨rfl, rfl, ?_, fun _ _ => ⟨rfl, rfl, rfl⟩⟩
  intro k hk
  refine ⟨(hw.binding? k not_false).trans (hunbound k hk), ?_⟩
  rw [hw.offers]
  cases ho : s.workspace.offers.get? k with
  | none => rfl
  | some os =>
    obtain ⟨c, hc⟩ := hs.bound_of_kept ho
    rw [hunbound k hk] at hc
    simp at hc

section Copies

variable {d d' : Document} {w : Workspace} {t : Tree} {old new : Handle}

/-- Copying a proper content in is a growth of the document. -/
theorem grows_of_write (hs : s.Tidy) (ht : t.Proper) (hw : s.document.write t = (d, new)) :
    Workspace.Grows (s.workspace, s.document) (s.workspace, d) ∧ new = s.document.next ∧
      d.parent? new = none ∧ d.kind? new = some t.kind := by
  have hext := Document.extends_write s.document t
  have horder := hs.orderly.write ht
  obtain ⟨hpar, hkind, -⟩ := Document.parent?_write s.document t
  have hnext : (s.document.write t).2 = s.document.next := rfl
  rw [hw] at hext horder hpar hkind hnext
  refine ⟨⟨hext, Workspace.Rebinds.refl _ _, horder, ?_⟩, hnext, hpar, hkind⟩
  intro k c hb
  have hk := hs.contains_of_bound hb
  rw [Document.contains_congr (hext.lookups hk).1]
  exact hk

/-- What lies below a node that came later came later. -/
theorem new_of_within (hd : d.Orderly) (hnew : new = s.document.next) (hk : d.Within new k) :
    s.document.contains k = false := by
  have := hk.rank_le (fun _ _ hq => hd.parent_lt hq)
  rw [hnew] at this
  exact Document.contains_eq_false_of_le this

/-- Discarding a copy that found no place leaves no trace of it. -/
theorem drifts_of_discarded_copy (hs : s.Tidy) (hw : s.workspace.Rebinds (fun _ => False) w)
    (hg : Workspace.Grows (s.workspace, s.document) (s.workspace, d)) (hshape : d.SameShape d')
    (hnew : new = s.document.next) (hpar : d.parent? new = none) (hc : d.contains new = true) :
    ∃ d'', d'.discard new = .ok d'' ∧
      Drifts (fun _ => False) s (s.withStage (w, d'')) := by
  have horder : d'.Orderly := hshape.orderly hg.sound.orderly
  have hlive : ∀ k, d'.contains k = d.contains k := fun k =>
    Document.contains_congr (hshape.kind? k)
  have hrebinds := hw.mono (Q := fun k => s.document.contains k = false)
    fun _ hf => absurd hf not_false
  have hsound : Workspace.Sound (w, d') := by
    refine ⟨horder, ?_⟩
    intro k c hb
    rw [hlive]
    exact hg.sound.contains_of_bound ((hw.binding? k not_false).symm.trans hb)
  have htidy : (s.withStage (w, d')).Tidy := hs.change hrebinds hsound
  have hcopied : Drifts (fun _ => False) s (s.withStage (w, d')) := by
    refine drifts_of_change htidy hrebinds ?_ ?_ ?_
    · exact Nat.le_trans hg.document.size (Nat.le_of_eq hshape.size.symm)
    · intro h hh hc
      replace hc : d'.contains h = true := hc
      rw [hlive, Document.contains, hg.document.node? h hh] at hc
      exact hc
    · intro h hc _
      exact (hg.document.undisturbed hs.linked hc).trans (hshape.undisturbed h)
  have hroot : d'.parent? new = none := by rw [hshape.parent?, hpar]
  have htop : new ≠ Document.top := by
    refine hs.ne_top ?_
    rw [hnew]
    exact Nat.le_refl _
  obtain ⟨d'', hdiscard, hpruned⟩ :=
    Document.pruned_discard horder.forest (by rw [hlive]; exact hc) hroot
  have hforgets : w.Forgets (d'.Within new) w :=
    hs.forgets_of_new hw fun k hk => new_of_within horder hnew hk
  exact ⟨d'', hdiscard, hcopied.clean (drifts_of_pruned hcopied.tidy hforgets hpruned hroot htop)⟩

/-- Binding a copy that took the place of a node binds new nodes alone. -/
theorem rebinds_copy (hs : s.Tidy) (hg : Workspace.Grows (s.workspace, s.document) (s.workspace, d))
    (hnew : new = s.document.next) (hd' : d'.Orderly) (hlive : ∀ k, d'.contains k = d.contains k)
    (c : ConstraintId) :
    s.workspace.Rebinds (fun k => s.document.contains k = false)
        (s.workspace.bind d' new c).1 ∧
      Workspace.Sound ((s.workspace.bind d' new c).1, d') ∧
      ((s.workspace.bind d' new c).2 = false →
        s.workspace.Rebinds (fun _ => False) (s.workspace.bind d' new c).1) := by
  have hbind := Workspace.rebinds_bind hd'.toLinked s.workspace new c
  have hrebinds := hbind.mono fun k hk => new_of_within hd' hnew hk
  refine ⟨hrebinds, ⟨hd', ?_⟩, ?_⟩
  · intro k i hb
    by_cases hk : d'.Within new k
    · exact hk.contains
    · replace hb := (hbind.binding? k hk).symm.trans hb
      exact (hlive k).trans (hg.sound.contains_of_bound hb)
  · intro hfalse
    refine ⟨hbind.model, hbind.whitelist, hbind.offers, hbind.revisions, ?_⟩
    intro k _
    by_cases hk : d'.Within new k
    · rw [Workspace.binding?_of_bind_eq_false hd'.forest hfalse hk]
      cases hb : s.workspace.binding? k with
      | none => rfl
      | some i =>
        have := hs.contains_of_bound hb
        rw [new_of_within hd' hnew hk] at this
        simp at this
    · exact hbind.binding? k hk

end Copies

/-- An element that takes over from another one leaves nothing dirty. -/
theorem drifts_takeOver {old new : Handle}
    (hd : Drifts (Touched s'.document parent (some old)) s s')
    (hc : s'.document.contains old = true) (hroot : s'.document.parent? old = none)
    (htop : old ≠ Document.top) (hp : s'.document.contains parent = true) :
    Drifts (fun _ => False) s (s'.takeOver parent old new).1 := by
  have houtline : Alike s' { s' with workspace := { s'.workspace with
      outline := (s'.workspace.outline.detach old).attach s'.document new } } :=
    ⟨rfl, rfl, rfl, rfl, rfl, fun _ _ => rfl⟩
  have hta := houtline.trans (alike_checkRules _ (Workspace.rulesOfSubtree { s'.workspace with
      outline := (s'.workspace.outline.detach old).attach s'.document new } s'.document old))
  unfold takeOver
  dsimp only
  generalize Session.checkRules _ _ = t at hta ⊢
  have hgiven := (hd.alike hta).invalidate parent
  rw [← hta.document] at hc hroot hp
  obtain ⟨d, hdiscard, hpruned, hdrift⟩ := drifts_of_discard hgiven.tidy hc hroot htop
  have hclean := (hgiven.clean hdrift).mono (E := fun _ => False) (by
    rintro x - hx ⟨hD, hout⟩
    rcases hD with rfl | hpar | hx'
    · exact hout (Document.Within.self hp)
    · rw [← hta.document] at hpar
      exact hout ((Document.Within.self hp).step hpar)
    · obtain rfl := Option.some.inj hx'
      exact (hpruned.contains_iff.mp hx).2 (Document.Within.self hc))
  change t.document.discard old = .ok d at hdiscard
  split
  · rename_i fault hfault
    rw [hdiscard] at hfault
    simp at hfault
  · rename_i d' hd'
    obtain rfl := Except.ok.inj (hdiscard.symm.trans hd')
    exact hclean.alike (((alike_checkMissing _).trans (alike_validate _ _)).trans
      (alike_validateAll _ _))

/-- A session drifts when a node is replaced, and nothing is left dirty. -/
theorem drifts_replace (hs : s.Tidy) (old : Handle) {source : Document} (hsource : source.Linked)
    (node : Handle) : Drifts (fun _ => False) s (s.replace old source node).1 := by
  unfold replace
  split
  · exact Drifts.refl hs
  · exact Drifts.refl hs
  · rename_i c parent hb hp
    split
    · exact Drifts.refl hs
    · rename_i d new hcopy
      obtain ⟨t, ht, -, hwrite⟩ := Document.copyFrom_eq_ok hsource hcopy
      obtain ⟨hg, hnew, hpar, hkind⟩ := grows_of_write hs ht hwrite
      have hc : d.contains new = true := by
        rw [Document.contains_eq_isSome_kind?, hkind]
        rfl
      -- where the replacement fails the copy is discarded, and the document is as it was
      have hsame : d.SameShape d := by
        refine ⟨rfl, ?_, ?_, ?_, ?_, ?_⟩ <;> intro k <;> rfl
      have hold : d.parent? old = some parent := by
        rw [(hg.document.lookups (Document.contains_of_parent? hp)).2.2.1, hp]
      have hlt : parent.index < new.index := by
        rw [hnew]
        exact Document.index_lt_of_contains (hs.linked.contains_parent hp)
      split
      · obtain ⟨d', hdiscard, hdrift⟩ := drifts_of_discarded_copy hs
          (Workspace.Rebinds.refl _ _) hg hsame hnew hpar hc
        rw [hdiscard]
        exact hdrift
      · rename_i d₁ hreplace
        obtain ⟨hrel, hpl, -, -⟩ := Document.relinked_replaceChild hg.sound.orderly.toLinked hreplace
        have htaken : ∀ x, some old = some x → d.parent? x = some parent := by
          intro x hx
          obtain rfl := Option.some.inj hx
          exact hold
        have horder : d₁.Orderly := by
          refine hrel.orderly hg.sound.orderly ?_ htaken
          intro x hx
          obtain rfl := Option.some.inj hx
          exact ⟨hpl.canHold, hlt⟩
        have hlive : ∀ k, d₁.contains k = d.contains k := fun k =>
          Document.contains_congr (hrel.kind? k)
        obtain ⟨hrebinds, hsound, hfails⟩ := rebinds_copy hs hg hnew horder hlive c
        dsimp only
        split
        -- the copy could be bound: what is left is to settle the parent, and the subtree that was
        -- replaced
        · have hgrown := drifts_of_grows hs hg
          have hplaced : Drifts (Touched d₁ parent (some old)) s
              (s.withStage ((s.workspace.bind d₁ new c).1, d₁)) := by
            have hmoved := hgrown.trans (drifts_of_relinked hgrown.tidy hrel horder)
            refine drifts_of_change (hs.change hrebinds hsound) hrebinds hmoved.size hmoved.dead ?_
            intro h hh hD
            exact (hg.document.undisturbed hs.linked hh).trans
              (hrel.undisturbed (fun he => hD (Or.inl he)) (fun he => hD (Or.inr (Or.inl he)))
                (fun he => hD (Or.inr (Or.inr he))))
          have hne : some new ≠ some old := by
            intro he
            rw [← Option.some.inj he, hpar] at hold
            simp at hold
          refine drifts_takeOver hplaced ?_ ?_ ?_ ?_
          · exact (hlive old).trans (Document.contains_of_parent? hold)
          · show d₁.parent? old = none
            rw [hrel.parent?, if_neg hne, if_pos rfl]
          · rintro rfl
            rw [hs.linked.parent?_top] at hp
            simp at hp
          · exact (hlive parent).trans hpl.contains_parent
        · rename_i hfalse
          -- the copy could not be bound: the old subtree goes back to its place
          rw [Bool.not_eq_true] at hfalse
          obtain ⟨d₂, hback, hshape⟩ := hg.sound.orderly.replaceChild_back hold hlt hreplace
          obtain ⟨d₃, hdiscard, hdrift⟩ :=
            drifts_of_discarded_copy hs (hfails hfalse) hg hshape hnew hpar hc
          unfold putBack
          simp only [withStage, hback, hdiscard]
          exact hdrift

/-! ## Values -/

/-- A session drifts when a value is set, and nothing is left dirty. -/
theorem drifts_setValue (hs : s.Tidy) (h : Handle) (value : String) :
    Drifts (fun _ => False) s (s.setValue h value).1 := by
  unfold setValue
  split
  · exact Drifts.refl hs
  · rename_i c hb
    split
    · exact Drifts.refl hs
    · dsimp only
      generalize hr : (s.workspace.isNaming c && decide (s.document.value h ≠ value)) = renames
      obtain ⟨s₁, hs₁⟩ : ∃ s₁, s₁ = if renames then s.giveUpName h else s := ⟨_, rfl⟩
      -- a naming node gives up its old name first; that is no matter of offers
      have hgiven : Alike s s₁ := by
        rw [hs₁]
        cases renames with
        | false => exact Alike.refl s
        | true => exact alike_giveUpName s h
      rw [← hs₁]
      have hdrift := hgiven.drifts hs
      split
      · exact hdrift
      · rename_i d hd
        obtain ⟨hsize, hkind⟩ := Document.kind?_of_setValue hdrift.tidy.orderly hd
        have hlive : ∀ k : Handle, k.index < s₁.document.slots.size →
            d.contains k = s₁.document.contains k := fun k hk => Document.contains_congr (hkind k hk)
        have hw := Workspace.Rebinds.refl (fun k => s₁.document.contains k = false) s₁.workspace
        have hsound : Workspace.Sound (s₁.workspace, d) := by
          refine ⟨hdrift.tidy.orderly.setValue hd, ?_⟩
          intro k i hk
          have hc := hdrift.tidy.contains_of_bound hk
          exact (hlive k (Document.index_lt_of_contains hc)).trans hc
        -- a new text beneath the node is not a node that was there before
        have hset : Drifts (fun _ => False) s₁ { s₁ with document := d } := by
          refine drifts_of_change (hdrift.tidy.change hw hsound) hw hsize ?_ ?_
          · intro k hk hc
            exact (hlive k hk).symm.trans hc
          · intro k hc _
            exact Document.undisturbed_of_setValue hdrift.tidy.orderly hd hc
        refine (hdrift.clean hset).alike (Alike.trans ?_ ((alike_checkRules _ _).trans
          (alike_validate _ h)))
        cases renames with
        | false => exact Alike.refl _
        | true => exact alike_claimName _ h value

/-! ## Taking offers -/

/-- Taking an offer, also one that was never made, leaves nothing dirty. -/
theorem drifts_take (hs : s.Tidy) (o : Offer) : Drifts (fun _ => False) s (s.take o).1 := by
  unfold take
  split
  · cases o.action with
    | addSibling c parent after => exact drifts_addNode hs c parent _
    | addChild c parent after => exact drifts_addNode hs c parent after
    | addAttribute c element => exact drifts_addAttribute hs c element
    | remove node => exact drifts_removeNode hs node
    | removeAttribute node => exact drifts_removeNode hs node
    | chooseAlternative c parent after replaced =>
      exact drifts_chooseAlternative hs c parent after replaced
  · exact Drifts.refl hs

end GuidedXml.Session
