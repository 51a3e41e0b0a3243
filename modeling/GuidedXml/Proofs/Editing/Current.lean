/-
# Current verdicts

An edit finds the verdicts anew on the nodes that it made, on the node whose value it set, and on
the nodes that come to own a name because another node gave it up.

The main statement says that this is enough: while no text is removed by itself, the verdict kept
for a node says of its value what would be said of it now, unless the value is a reference.
-/
import GuidedXml.Proofs.Editing.Standing

namespace GuidedXml.Session

open Schema (ConstraintId ContentModel SchemaFault)

variable {s s' : Session} {d : Document} {h k : Handle} {c : ConstraintId} {v : Verdict}

/-! ## Edits -/

/-- All verdicts stand. -/
def Current (s : Session) : Prop :=
  ∀ h, s.Stands h

/-- All verdicts stand where judging any value is the same matter. -/
theorem Current.alike (hc : s.Current) (ha : ∀ k, JudgedAlike k s s') : s'.Current :=
  fun k => (hc k).alike (ha k)

/-- All verdicts stand after a node was validated. -/
theorem Current.validate (hc : s.Current) (h : Handle) : (s.validate h).Current :=
  fun k => (hc k).validate h

/-- All verdicts stand after rules were checked. -/
theorem Current.checkRules (hc : s.Current) (rs : List RuleId) : (s.checkRules rs).Current :=
  hc.alike (judgedAlike_checkRules s rs)

/-- Once the new owners of names are validated, all verdicts stand. -/
theorem Current.letGo (hc : s.Current) (hs : Poised (s, some h))
    (hd : s.document.discard h = .ok d) :
    ((s.letGo h d).validateAll (s.workspace.forget s.document h).2).Current := by
  intro k
  by_cases hk : k ∈ (s.workspace.forget s.document h).2
  · exact stands_validateAll_of_mem hk _
  · exact ((hc k).letGo hs hd hk).validateAll _

/-- A live node is judged alike once another one was made. -/
theorem judgedAlike_made {t : Workspace.Stage} {x : Option Handle} (hs : Poised (s, none))
    (hc : s.workspace.create s.document c = (t, x)) (hk : s.document.contains k = true) :
    JudgedAlike k s (s.withStage t) := by
  have hb := Workspace.builds_create hs.sane.toSound c
  have hg := (Workspace.create_loose hs.sane.toSound c).1
  rw [hc] at hb hg
  have hlt := Document.index_lt_of_contains hk
  exact judgedAlike_of_builds hs.sane hs.sane hb hk (hg.workspace.binding? k (by dsimp only; omega))
    (hg.document.value hs.sane.orderly.toLinked hk)

/-- Creation leaves every verdict. -/
theorem verdict?_made {t : Workspace.Stage} {x : Option Handle} (hs : Poised (s, none))
    (hc : s.workspace.create s.document c = (t, x)) (k : Handle) :
    (s.withStage t).verdict? k = s.verdict? k := by
  have hw := (Workspace.builds_create hs.sane.toSound c).workspace
  rw [hc] at hw
  show t.1.verdicts.get? k = _
  rw [hw]
  rfl

/-- Nodes that are made have no verdicts yet. -/
theorem Current.made (hst : s.Current) {t : Workspace.Stage} {x : Option Handle}
    (hs : Poised (s, none)) (hc : s.workspace.create s.document c = (t, x)) :
    (s.withStage t).Current := by
  intro k
  cases hk : s.document.contains k with
  | true => exact (hst k).alike (judgedAlike_made hs hc hk)
  | false =>
    refine stands_of_verdict?_eq_none ?_
    rw [verdict?_made hs hc, hs.verdict?_eq_none hk]

/-- A new node that is let go again was in nobody's way. -/
theorem Current.unmade (hst : s.Current) {t : Workspace.Stage} (hs : Poised (s, none))
    (hc : s.workspace.create s.document c = (t, some h)) (hmade : Poised (s.withStage t, some h))
    (hnew : s.document.slots.size ≤ h.index) (hd : t.2.discard h = .ok d) :
    ((s.withStage t).letGo h d).Current := by
  intro k
  cases hk : s.document.contains k with
  | true =>
    have hold := Nat.not_le_of_lt (Document.index_lt_of_contains hk)
    have hb := Workspace.builds_create hs.sane.toSound c
    rw [hc] at hb
    have hlisted := hb.enlisted hs.sane.toSound hs.sane.toRegular (fun _ hk => hk)
      (hs.sane.enlisted s.document)
    have hbelow : ∀ {x}, t.2.Within h x → s.document.slots.size ≤ x.index := fun hx =>
      Workspace.le_index_of_within hmade.sane.orderly hnew hx
    have hforgot := Workspace.Enlisted.forget hlisted hmade.sane.toRegular
      hmade.sane.orderly.toLinked fun _ hx => hbelow hx
    have hout : ¬ t.2.Within h k := fun hx => hold (hbelow hx)
    refine (hst k).alike ((judgedAlike_made hs hc hk).trans (judgedAlike_letGo hmade hd hout ?_))
    exact (hforgot.owner?_iff hold).trans (hlisted.owner?_iff hold).symm
  | false =>
    refine stands_of_verdict?_eq_none ?_
    rw [verdict?_letGo, verdict?_made hs hc, hs.verdict?_eq_none hk, ite_self]

/-- All verdicts stand after a node was added. -/
theorem current_addNode (hs : Poised (s, none)) (hst : s.Current) (c : ConstraintId)
    (parent : Handle) (after : Option Handle) : (s.addNode c parent after).1.Current := by
  rcases addNode_cases hs c parent after with ⟨fault, heq⟩ | ⟨t, ht, helement, hrest⟩
  · rw [heq]
    exact hst
  · have hmake : Move False True (s, none) (s.withStage t, some s.document.next) := .make ht
    have hmade := hmake.poised hs
    rcases hrest with ⟨d, fault, hd, heq⟩ | ⟨d, hd, heq⟩
    · rw [heq]
      exact hst.unmade hs ht hmade (Nat.le_refl _) hd
    · rw [heq]
      refine Current.validate (Current.checkRules ?_ _) _
      refine (hst.made hs ht).alike fun k => ?_
      have hvalue := Document.value_insertAfter hmade.sane.orderly.toLinked hd
        (Workspace.not_isText_of_kinds (Or.inl helement)) k
      have hplaced : JudgedAlike k (s.withStage t) (s.withStage
          ({ t.1 with outline := t.1.outline.attach d s.document.next }, d)) :=
        ⟨rfl, rfl, rfl, hvalue, Iff.rfl⟩
      exact hplaced.trans (judgedAlike_giveUp _ parent k)

/-- All verdicts stand after an attribute was added. -/
theorem current_addAttribute (hs : Poised (s, none)) (hst : s.Current) (c : ConstraintId)
    (element : Handle) : (s.addAttribute c element).1.Current := by
  rcases addAttribute_cases hs c element with
    ⟨fault, heq⟩ | ⟨t, d, displaced, u, ht, hplace, hposed, hcleared, heq⟩
  · rw [heq]
    exact hst
  · have hmake : Move False True (s, none) (s.withStage t, some s.document.next) := .make ht
    have hlinked := (hmake.poised hs).sane.orderly.toLinked
    have hplaced : Current { s.withStage t with document := d } :=
      (hst.made hs ht).alike fun k =>
        ⟨rfl, rfl, rfl, Document.value_placeAttribute hlinked hplace k, Iff.rfl⟩
    have hu : u.Current := by
      cases hcleared with
      | nothing => exact hplaced
      | displaced hd' => exact hplaced.letGo hposed hd'
    rw [heq]
    exact ((hu.alike fun k => judgedAlike_giveUp u element k).checkRules _).validate _

/-- All verdicts stand after a node was removed that is no text. -/
theorem current_removeNode (hs : Poised (s, none)) (hst : s.Current) (h : Handle)
    (hspare : s.document.isText h = false) : (s.removeNode h).1.Current := by
  rcases removeNode_cases hs h with
    ⟨fault, heq⟩ | ⟨p, d, d', u, hp, hd, hposed, rfl, hd', heq⟩
  · rw [heq]
    exact hst
  · have htaken : (s.takeOut h d).Current := hst.alike fun k => by
      have hvalue := Document.value_detach hs.sane.orderly.toLinked (hs.relinked hp hd).2.1 hd
        hspare k
      exact ⟨rfl, rfl, rfl, hvalue, Iff.rfl⟩
    have hparted : ((s.takeOut h d).partWith h p).Current :=
      htaken.alike fun k => judgedAlike_partWith _ h p k
    have hdone := hparted.letGo (poised_partWith hposed h p) hd'
    rw [heq]
    exact hdone

/-- All verdicts stand after an alternative was chosen that replaces no text. -/
theorem current_chooseAlternative (hs : Poised (s, none)) (hst : s.Current) (c : ConstraintId)
    (parent : Handle) (after : Option Handle) (replaced : Handle)
    (hspare : s.Spares (.chooseAlternative c parent after replaced)) :
    (s.chooseAlternative c parent after replaced).1.Current := by
  have hadded := current_addNode hs hst c parent after
  have hm : Moves False True (s, none) ((s.addNode c parent after).1, none) :=
    moves_addNode hs c parent after
  have hposed := hm.poised hs
  unfold chooseAlternative
  generalize hadd : s.addNode c parent after = added at hadded hposed ⊢
  obtain ⟨u, fault | h⟩ := added
  · exact hadded
  · have hdone := current_removeNode hposed hadded replaced (hspare u h hadd)
    dsimp only at hdone ⊢
    generalize u.removeNode replaced = removed at hdone ⊢
    obtain ⟨u', fault | ⟨⟩⟩ := removed
    · exact hdone
    · exact hdone.alike fun k => judgedAlike_giveUp u' parent k

/-- All verdicts stand after a node was replaced. -/
theorem current_replace (hs : Poised (s, none)) (hst : s.Current) (old node : Handle)
    {source : Document} (hsource : source.Linked) : (s.replace old source node).1.Current := by
  rcases replace_steps hs hsource old node with
    ⟨s', fault, heq, hun⟩ | ⟨c, p, d, d', e, w, new, u, hb, hsw, hbind, hposed, rfl, he, heq⟩
  · rw [heq]
    exact hst.alike hun.judgedAlike
  · have hparted := poised_partWith hposed old p
    have hbuilds := hsw.builds hs.sane c
    have hrebinds := Workspace.rebinds_bind hsw.orderly.toLinked s.workspace new c
    rw [hbind] at hbuilds hrebinds
    -- an element took the place of an element, so that no value changed
    have hvalue : ∀ {k}, s.document.contains k = true → d'.value k = s.document.value k := by
      intro k hk
      have hcopied : d.isText new = false := by
        rw [← Document.isText_congr (hsw.relinked.kind? new)]
        have helement := Workspace.isElement_of_bind (w := s.workspace) (c := c) (by rw [hbind])
        exact Workspace.not_isText_of_kinds (Or.inl helement)
      have hold : d.isText old = false := by
        rw [Document.isText_congr
          (hsw.grows.document.lookups (Document.contains_of_parent? hsw.parent?_before)).1]
        exact Workspace.not_isText_of_kinds (hs.sane.kinds hb)
      rw [Document.value_replaceChild hsw.grows.sound.orderly.toLinked hsw.replaced hold hcopied]
      exact hsw.grows.document.value hs.sane.orderly.toLinked hk
    have hshown : ((s.withStage (w, d')).showInstead old new).Current := by
      intro k
      cases hk : s.document.contains k with
      | true =>
        have hplaced : JudgedAlike k s (s.withStage (w, d')) :=
          judgedAlike_of_builds hs.sane (hsw.sane hs.sane) hbuilds hk
            (hrebinds.binding? k (hsw.not_within_new hk)) (hvalue hk)
        exact (hst k).alike (hplaced.trans ⟨rfl, rfl, rfl, rfl, Iff.rfl⟩)
      | false =>
        refine stands_of_verdict?_eq_none ?_
        have hw := hbuilds.workspace
        dsimp only at hw
        show w.verdicts.get? k = none
        rw [hw]
        exact hs.verdict?_eq_none hk
    have hready : (((s.withStage (w, d')).showInstead old new).partWith old p).Current :=
      hshown.alike fun k => judgedAlike_partWith _ old p k
    rw [heq]
    generalize ((s.withStage (w, d')).showInstead old new).partWith old p = u at hparted he hready
    intro k
    -- who comes to own a name is validated, and nobody else is judged otherwise
    by_cases hk : k ∈ (u.workspace.forget u.document old).2
    · exact stands_validateAll_of_mem hk _
    · have hleft := (hready k).letGo hparted he hk
      exact ((hleft.alike (judgedAlike_checkRules _ _ k)).validate new).validateAll _

/-! ## Values -/

/-- When a node gives up its name, the verdicts stand on all others. -/
theorem Stands.giveUpName (hst : s.Stands k) (hk : k ≠ h) : (s.giveUpName h).Stands k := by
  unfold Session.giveUpName
  dsimp only
  by_cases hnew : (s.workspace.claims.release (s.document.value h) h).2 = some k
  · exact stands_validateAll_of_mem (by rw [hnew]; simp) _
  · have hreleased : JudgedAlike k s { s with workspace := { s.workspace with
        claims := (s.workspace.claims.release (s.document.value h) h).1 } } := by
      refine ⟨rfl, rfl, rfl, rfl, (Claims.owner?_release_iff hk).trans (or_iff_left ?_)⟩
      exact fun h => hnew h.2
    exact (hst.alike hreleased).validateAll _

/-- Once a node shows another value, the verdicts stand on all others. -/
theorem stands_rewritten (hs : Poised (s, none)) (hst : s.Current)
    (hb : s.workspace.binding? h = some c) {value : String}
    (hd : s.document.setValue h value = .ok d) (hk : k ≠ h) :
    (s.rewritten h c value d).Stands k := by
  have hbinding : (s.rewritten h c value d).workspace.binding? k = s.workspace.binding? k := by
    rw [rewritten_eq]
    rfl
  cases hbk : s.workspace.binding? k with
  | none => exact stands_of_unbound (hbinding.trans hbk)
  | some i =>
    have hothers := (Document.value_setValue hs.sane.orderly hd
      (Workspace.not_isText_of_kinds (hs.sane.kinds hb))).2
    have hvalue : d.value k = s.document.value k := hothers k (hs.sane.contains_of_bound hbk)
      (Workspace.not_isText_of_kinds (hs.sane.kinds hbk)) hk
    unfold rewritten
    split_ifs
    · have hgiven := (hst k).giveUpName hk
      have hdoc : (s.giveUpName h).document = s.document := (judges_giveUpName s h).document
      refine hgiven.alike ⟨rfl, rfl, rfl, ?_, ?_⟩
      · rw [hdoc]
        exact hvalue
      · exact Claims.owner?_register_iff hk
    · exact (hst k).alike ⟨rfl, rfl, rfl, hvalue, Iff.rfl⟩

/-- All verdicts stand after a value was set. -/
theorem current_setValue (hs : Poised (s, none)) (hst : s.Current) (h : Handle) (value : String) :
    (s.setValue h value).1.Current := by
  rcases setValue_eq hs h value with ⟨fault, heq⟩ | ⟨c, d, u, hb, hd, rfl, heq⟩
  · rw [heq]
    exact hst
  · rw [heq]
    intro k
    by_cases hk : k = h
    · subst hk
      exact stands_validate_self _ k
    · have hothers := stands_rewritten hs hst hb hd hk
      exact (hothers.alike (judgedAlike_checkRules _ _ k)).validate h

/-! ## Runs -/

/-- When a session begins, there are no verdicts. -/
theorem current_begin (hs : ∀ k, s.verdict? k = none) : s.begin.Current := by
  have hnone : Current { s with workspace := { s.workspace with
      outline := .ofDocument s.document } } := fun k => stands_of_verdict?_eq_none (hs k)
  exact hnone.checkRules _

/-- All verdicts stand after a request that removes no text. -/
theorem current_answer (hs : Poised (s, none)) (hst : s.Current) (r : Request)
    (hspare : s.SparesTexts r) : (s.answer r).1.Current := by
  have hperform : ∀ a, s.Spares a → (s.perform a).1.Current := by
    intro a hspare
    cases a with
    | addSibling c parent after => exact current_addNode hs hst c parent _
    | addChild c parent after => exact current_addNode hs hst c parent after
    | addAttribute c element => exact current_addAttribute hs hst c element
    | remove node => exact current_removeNode hs hst node hspare
    | removeAttribute node => exact current_removeNode hs hst node hspare
    | chooseAlternative c parent after replaced =>
      exact current_chooseAlternative hs hst c parent after replaced hspare
  cases r with
  | look h =>
    obtain ⟨os, heq⟩ := exists_offers s h
    show (s.offers h).1.Current
    rw [heq]
    exact hst.alike fun k => ⟨rfl, rfl, rfl, rfl, Iff.rfl⟩
  | take o =>
    show (s.take o).1.Current
    unfold take
    split
    · rename_i hcur
      exact hperform _ (hspare hcur)
    · exact hst
  | addNode c parent after => exact current_addNode hs hst c parent after
  | addAttribute c element => exact current_addAttribute hs hst c element
  | remove h => exact current_removeNode hs hst h hspare
  | choose c parent after replaced =>
    exact current_chooseAlternative hs hst c parent after replaced hspare
  | setValue h value => exact current_setValue hs hst h value
  | replace old source linked h => exact current_replace hs hst old h linked
  | judge h deep =>
    exact verdictOn_induction (P := Current) (fun _ h hst => hst.validate h) s h deep hst
  | revalidate =>
    exact revalidate_induction (P := Current) (fun _ h hst => hst.validate h) s
      (hst.checkRules s.rules.ids)

/-- A new session begins without any verdicts. -/
theorem exists_unjudged_of_create {m : ContentModel} {rules : RuleBook} {settings : Settings}
    (hc : create m rules settings = .ok s) : ∃ u, s = begin u ∧ ∀ k, u.verdict? k = none := by
  obtain ⟨t, h, d, hcreate, -, rfl⟩ := create_eq_begin hc
  have hposed : Poised (start .empty m rules settings, none) :=
    poised_start Document.orderly_empty
  exact ⟨_, rfl, fun k => (verdict?_made hposed hcreate k).trans rfl⟩

/-- So does a loaded one. -/
theorem exists_unjudged_of_load {xml : String} {modelOf : String → Except SchemaFault ContentModel}
    {rules : RuleBook} {settings : Settings} (hl : load xml modelOf rules settings = .ok s) :
    ∃ u, s = begin u ∧ ∀ k, u.verdict? k = none := by
  obtain ⟨d, m, hread, ho⟩ := load_eq_ok hl
  obtain ⟨root, w, -, hbind, rfl⟩ := ofDocument_eq_begin ho
  refine ⟨_, rfl, fun k => ?_⟩
  have hd := Document.orderly_of_read hread
  have hw := (Workspace.builds_bind (w := (start d m rules settings).workspace) (n := 0)
    (h := root) hd (Nat.zero_le _) (fun _ _ => rfl) ContentModel.root).workspace
  rw [hbind] at hw
  dsimp only at hw
  show w.verdicts.get? k = none
  rw [hw]
  rfl

/-- In a run that removes no text, all verdicts stand. -/
theorem Arises.current (ha : Arises SparesTexts s) : s.Current := by
  induction ha with
  | created hc =>
    obtain ⟨u, rfl, hu⟩ := exists_unjudged_of_create hc
    exact current_begin hu
  | loaded hl =>
    obtain ⟨u, rfl, hu⟩ := exists_unjudged_of_load hl
    exact current_begin hu
  | asked ha hspare ih => exact current_answer ha.poised ih _ hspare
  | notified n _ ih => exact ih.alike fun k => ⟨rfl, rfl, rfl, rfl, Iff.rfl⟩
  | noticed _ ih => exact ih.alike fun k => ⟨rfl, rfl, rfl, rfl, Iff.rfl⟩

/-- In every session of a run that removes no text by itself: the verdict kept for a bound node says
of its value what validation would say of it now, unless the type is one of references. -/
theorem typeOk_eq_valueIsValid (ha : Arises SparesTexts s) (hv : s.verdict? h = some v)
    (hb : s.workspace.binding? h = some c) (hc : s.workspace.isReferring c = false) :
    v.typeOk = s.valueIsValid h :=
  ha.current h v c hv hb hc

/-! ## Heirs of names -/

/-- The roster once the first of its twins is gone. -/
def heir : Session :=
  (twins.answer (.remove ⟨3⟩)).1

/-- The session where a name has an heir arises by requests. -/
theorem arises_heir : Arises SparesTexts heir := by
  have hspare : twins.SparesTexts (.remove ⟨3⟩) :=
    show twins.document.isText ⟨3⟩ = false by decide +kernel
  exact arises_twins.asked hspare

/-- The verdict on the second twin was found anew when it came to own the name. -/
theorem typeOk_heir : twins.verdict? ⟨5⟩ = some { typeOk := false } ∧
    heir.verdict? ⟨5⟩ = some { typeOk := true } ∧ heir.valueIsValid ⟨5⟩ = true := by
  have hbefore : twins.verdict? ⟨5⟩ = some { typeOk := false } := by
    decide +kernel
  have hv : heir.verdict? ⟨5⟩ = some { typeOk := true } := by
    decide +kernel
  have hb : heir.workspace.binding? ⟨5⟩ = some ⟨1⟩ := by
    decide +kernel
  have hc : heir.workspace.isReferring ⟨1⟩ = false := by
    decide +kernel
  exact ⟨hbefore, hv, (typeOk_eq_valueIsValid arises_heir hv hb hc).symm⟩

end GuidedXml.Session
