/-
# Choices that stop halfway

Choosing another alternative adds an element and then removes the one that it is to stand for. If
the removal is refused the addition is not undone.

The main statement says when a refused choice leaves the session intact: exactly if it is the
addition that was refused, and no attribute was displaced while the new element was made.
-/
import GuidedXml.Proofs.Conformance.Provision
import GuidedXml.Proofs.Conformance.Refusal
import GuidedXml.Proofs.Editing.Outcomes

namespace GuidedXml.Session

open Schema (ConstraintId ContentModel)

variable {strict sparing : Prop} {s s' : Session} {c : ConstraintId}
  {parent h k replaced : Handle} {after : Option Handle} {fault : EditFault}

/-! ## Intact sessions -/

/-- What is in the document, what is bound, what the outline shows and who claims which name is as
it was. -/
structure Intact (s s' : Session) : Prop where
  attached : ∀ k, s'.document.isAttached k = s.document.isAttached k
  stored : ∀ k, s.document.isAttached k = true → s'.document.node? k = s.document.node? k
  bound : ∀ k, s'.workspace.binding? k = s.workspace.binding? k
  shown : ∀ k, s'.workspace.outline.entries.get? k = s.workspace.outline.entries.get? k
  root : s'.workspace.outline.root = s.workspace.outline.root
  claims : ∀ name, s'.workspace.claims.candidates name = s.workspace.claims.candidates name

theorem Unchanged.intact (hu : s.Unchanged s') (hd : s.document.Orderly)
    (hd' : s'.document.Orderly) : s.Intact s' where
  attached := by
    intro k
    have hparent : ∀ k, s'.document.parent? k = s.document.parent? k := fun k => by
      rw [Document.parent?, Document.parent?, hu.node?]
    have hlive : ∀ k, s'.document.contains k = s.document.contains k := fun k => by
      rw [Document.contains, Document.contains, hu.node?]
    rw [Bool.eq_iff_iff, Document.isAttached_iff hd', Document.isAttached_iff hd]
    exact Document.SameParents.within_iff hparent hlive
  stored := fun k _ => hu.node? k
  bound := hu.workspace.bindings
  shown := hu.workspace.entries
  root := hu.workspace.root
  claims := fun name => by
    rw [Claims.candidates, Claims.candidates, Table.getD, Table.getD, hu.workspace.claims]

/-! ## Additions that are refused -/

/-- A refused addition does nothing, or what it made is let go again. -/
theorem addNode_refused (hs : Poised (s, none))
    (hr : s.addNode c parent after = (s', .error fault)) :
    s' = s ∨ ∃ t d, s.workspace.model.kind? c = some .element ∧
      s.workspace.create s.document c = (t, some s.document.next) ∧
      t.2.discard s.document.next = .ok d ∧ s' = (s.withStage t).letGo s.document.next d := by
  by_cases hkind : s.workspace.model.kind? c = some .element
  · rcases addNode_cases hs c parent after with
      ⟨other, heq⟩ | ⟨t, ht, -, ⟨d, other, hd, heq⟩ | ⟨d, -, heq⟩⟩
    · exact Or.inl (Prod.mk.inj (hr.symm.trans heq)).1
    · exact Or.inr ⟨t, d, hkind, ht, hd, (Prod.mk.inj (hr.symm.trans heq)).1⟩
    · cases (Prod.mk.inj (hr.symm.trans heq)).2
  · left
    rw [addNode, if_pos hkind] at hr
    exact (Prod.mk.inj hr).1.symm

/-- If all that was made for a refused addition is gone again, nothing has changed. -/
theorem unchanged_addNode_of_gone (hk : Kempt strict sparing s)
    (hr : s.addNode c parent after = (s', .error fault))
    (hgone : ∀ k, s'.document.contains k = true → s.document.contains k = true) :
    s.Unchanged s' := by
  rcases addNode_refused hk.poised hr with rfl | ⟨t, d, hkind, ht, hd, rfl⟩
  · exact Unchanged.refl s'
  · have hs := hk.poised.sane
    obtain ⟨e, he, hke⟩ := exists_of_kind? hkind
    obtain ⟨-, hraise, -⟩ := Workspace.create_of_element hs.toSound he hke
    have hbuilds := Workspace.builds_create hs.toSound c
    rw [ht] at hraise hbuilds
    have hhidden : s.workspace.outline.contains s.document.next = false := by
      by_contra hc
      rw [Bool.not_eq_false] at hc
      have hlive := Document.contains_of_isElement (hk.mirrors.hidden _ hc).1
      exact Document.ne_next_of_contains hlive rfl
    have hforest := hraise.sound.orderly.forest
    obtain ⟨d', hd', hpruned⟩ :=
      Document.pruned_discard hforest hraise.contains hraise.parent?
    obtain rfl := Except.ok.inj (hd.symm.trans hd')
    have hback := unchanged_takeBack_of_within hs hbuilds hraise.toGrows hraise.loose hhidden ?_
      .missingRoot
    · rw [takeBack, show (s.withStage t).document = t.2 from rfl, hd] at hback
      exact hback
    · -- a new node elsewhere would not be gone
      intro k hnew hlive
      by_contra hw
      have hleft : d.contains k = true := by rwa [Document.contains, hpruned.kept k hw]
      exact Nat.not_lt.mpr hnew (Document.index_lt_of_contains (hgone k hleft))

/-- What is left of a refused addition is an attribute that was displaced, and it is still bound. -/
theorem exists_bound_of_left (hk : Kempt strict sparing s) (hm : s.workspace.model.Built)
    (hr : s.addNode c parent after = (s', .error fault))
    (hnew : s.document.contains k = false) (hleft : s'.document.contains k = true) :
    ∃ a, s.workspace.binding? a = none ∧ s'.workspace.binding? a ≠ none := by
  rcases addNode_refused hk.poised hr with rfl | ⟨t, d, hkind, ht, hd, rfl⟩
  · rw [hnew] at hleft
    cases hleft
  · have hs := hk.poised.sane
    have hfurnished : Workspace.Furnished False _ _ :=
      Workspace.furnished_create hm.treeShaped False.elim hs.toSound c
    have hprovided : Workspace.Provided False _ _ :=
      Workspace.provided_create hm False.elim hs.toSound (by rw [hkind]; simp)
    rw [ht] at hfurnished hprovided
    have hgrows := hfurnished.grows
    have horder := hgrows.sound.orderly
    have hloose := hfurnished.loose s.document.next (by simp)
    obtain ⟨d', hd', hpruned⟩ :=
      Document.pruned_discard horder.forest hloose.contains hloose.detached
    obtain rfl := Except.ok.inj (hd.symm.trans hd')
    replace hleft : d.contains k = true := hleft
    have hout : ¬ t.2.Within s.document.next k := fun hw => by
      rw [Document.contains, hpruned.gone k hw] at hleft
      cases hleft
    rw [Document.contains, hpruned.kept k hout, ← Document.contains] at hleft
    -- the node lies below a new one without a parent, which is not the element
    obtain ⟨r, hnone, hw⟩ := horder.exists_outermost hleft
    have hrnew : s.document.slots.size ≤ r.index := by
      by_contra hlt
      have hlive := hw.contains_root
      rw [Document.contains, hgrows.document.node? r (Nat.lt_of_not_le hlt),
        ← Document.contains] at hlive
      have hold := (hgrows.document.within_old_iff hs.orderly.toLinked horder.toLinked hlive).mp hw
      rw [hold.contains] at hnew
      cases hnew
    rcases hfurnished.rooted r hrnew hw.contains_root hnone with hmem | ⟨-, hattr⟩
    · obtain rfl : r = s.document.next := by simpa using hmem
      exact absurd hw hout
    · obtain ⟨e, he, -⟩ := hprovided.comesAlong r hrnew hattr
      have hrout : ¬ t.2.Within s.document.next r := fun hin => hout (hin.trans hw)
      refine ⟨r, hs.binding?_of_le hrnew, ?_⟩
      have hforgets := Workspace.forgets_forget horder.forest t.1 s.document.next
      have hkept : ((s.withStage t).letGo s.document.next d).workspace.binding? r =
          t.1.binding? r := (hforgets.left r hrout).1
      rw [hkept]
      intro hunbound
      simp [Workspace.constraint?, hunbound] at he

/-! ## Additions that are done -/

/-- An element that was added is a new one of its constraint. -/
theorem bound_of_addNode (hs : Poised (s, none)) (hr : s.addNode c parent after = (s', .ok h)) :
    s.document.contains h = false ∧ s'.document.isElement h = true ∧
      s'.workspace.binding? h = some c := by
  rcases addNode_cases hs c parent after with
    ⟨other, heq⟩ | ⟨t, ht, helement, ⟨d, other, -, heq⟩ | ⟨d, hd, heq⟩⟩
  · cases (Prod.mk.inj (hr.symm.trans heq)).2
  · cases (Prod.mk.inj (hr.symm.trans heq)).2
  · have hkind : s.workspace.model.kind? c = some .element := by
      by_contra hkind
      rw [addNode, if_pos hkind] at hr
      cases (Prod.mk.inj hr).2
    obtain ⟨e, he, hke⟩ := exists_of_kind? hkind
    obtain ⟨-, hraise, hbound⟩ := Workspace.create_of_element hs.sane.toSound he hke
    rw [ht] at hraise hbound
    obtain ⟨rfl, hnext⟩ := Prod.mk.inj (hr.symm.trans heq)
    obtain rfl := Except.ok.inj hnext
    have hsame := (sameSeats_adoptElement s t d parent s.document.next).trans
      ((alike_checkMissing _).trans (alike_validate _ s.document.next)).sameSeats
    have hkept := (Document.relinked_insertAfter hraise.sound.orderly.toLinked hd).1.kind?
    refine ⟨?_, ?_, (hsame.binding? _).trans hbound⟩
    · rw [Document.contains, Document.node?_next]
      rfl
    · rw [hsame.document]
      exact (Document.isElement_congr (hkept _)).trans helement

/-! ## Removals that are refused -/

/-- A removal is refused only for a node that is not there or not inside an element, and then
changes nothing. -/
theorem removeNode_refused (hs : s.Tidy) (hr : s.removeNode h = (s', .error fault)) :
    s' = s ∧ s.parentElement? h = none ∧
      fault = if s.document.contains h then .parentNotFound h else .nodeNotFound h := by
  cases hp : s.parentElement? h with
  | none =>
    unfold removeNode at hr
    cases hc : s.document.contains h with
    | false => simpa [hc, eq_comm] using hr
    | true => simpa [hc, hp, eq_comm] using hr
  | some p =>
    obtain ⟨d, t, -, -, -, hdone, -⟩ := removeNode_of_parentElement hs hp
    cases (Prod.mk.inj (hr.symm.trans hdone)).2

/-! ## Choices -/

/-- A refused choice stops at the addition, or after it if the element to be replaced cannot be
removed. -/
theorem chooseAlternative_refused
    (hr : s.chooseAlternative c parent after replaced = (s', .error fault)) :
    s.addNode c parent after = (s', .error fault) ∨
      ∃ t h, s.addNode c parent after = (t, .ok h) ∧
        t.removeNode replaced = (s', .error fault) := by
  unfold chooseAlternative at hr
  cases hadd : s.addNode c parent after with
  | mk t r =>
    cases r with
    | error other =>
      rw [hadd] at hr
      exact Or.inl hr
    | ok h =>
      rw [hadd] at hr
      dsimp only at hr
      cases hremove : t.removeNode replaced with
      | mk u r =>
        rw [hremove] at hr
        cases r with
        | error other =>
          obtain ⟨rfl, hfault⟩ := Prod.mk.inj hr
          obtain rfl := Except.error.inj hfault
          exact Or.inr ⟨t, h, rfl, hremove⟩
        | ok _ => cases (Prod.mk.inj hr).2

/-- If a choice is refused after the addition was done, the new element has its place and is bound,
and the one that it is to stand for is not there or not inside an element. -/
theorem added_of_refused_choice (ha : Arises atWill s) (hm : s.workspace.model.Built)
    (hr : s.chooseAlternative c parent after replaced = (s', .error fault))
    (hadd : s.addNode c parent after ≠ (s', .error fault)) :
    ∃ h, s.addNode c parent after = (s', .ok h) ∧ s.document.contains h = false ∧
      s'.document.isAttached h = true ∧ s'.workspace.binding? h = some c ∧
      s'.parentElement? replaced = none ∧
      fault = if s'.document.contains replaced then .parentNotFound replaced
        else .nodeNotFound replaced := by
  rcases chooseAlternative_refused hr with hrefused | ⟨t, h, hdone, hremove⟩
  · exact absurd hrefused hadd
  · have hnext : Arises atWill (s.addNode c parent after).1 :=
      ha.asked (r := .addNode c parent after) trivial
    have htree := (model_answer ha.fresh.1 (.addNode c parent after)) ▸ hm.treeShaped
    have hk : Kempt False False (s.addNode c parent after).1 :=
      hnext.kempt False.elim htree False.elim
    rw [hdone] at hnext hk
    obtain ⟨rfl, houtside, hfault⟩ := removeNode_refused hnext.fresh.1 hremove
    obtain ⟨hnew, helement, hbound⟩ := bound_of_addNode ha.poised hdone
    have hwithin := hk.tended.within_top_of_isElement hk.poised helement nofun
    exact ⟨h, hdone, hnew, (Document.isAttached_iff hk.poised.sane.orderly).mpr hwithin, hbound,
      houtside, hfault⟩

/-- In every session that arises: a refused choice leaves the session intact if and only if it was
the addition that was refused, and nothing of what was made for it is left, as is always so where no
element declares an attribute twice. Otherwise the new element stays. -/
theorem intact_of_refused_choice_iff (ha : Arises atWill s) (hm : s.workspace.model.Built)
    (hr : s.chooseAlternative c parent after replaced = (s', .error fault)) :
    (s.Intact s' ↔ s.addNode c parent after = (s', .error fault) ∧
        ∀ k, s'.document.contains k = true → s.document.contains k = true) ∧
      (s.workspace.model.AttributesDistinct →
        (s.Intact s' ↔ s.addNode c parent after = (s', .error fault))) ∧
      (s.addNode c parent after ≠ (s', .error fault) →
        ∃ h, s.addNode c parent after = (s', .ok h) ∧ s.document.contains h = false ∧
          s'.document.isAttached h = true ∧ s'.workspace.binding? h = some c ∧
          s'.parentElement? replaced = none ∧
          fault = if s'.document.contains replaced then .parentNotFound replaced
            else .nodeNotFound replaced) := by
  have hk : Kempt False False s := ha.kempt False.elim hm.treeShaped False.elim
  have hs := hk.poised.sane
  have horder' : s'.document.Orderly := by
    have hnext : Arises atWill (s.answer (.choose c parent after replaced)).1 := ha.asked trivial
    have heq : (s.answer (.choose c parent after replaced)).1 = s' := by
      show (s.chooseAlternative c parent after replaced).1 = s'
      rw [hr]
    exact (heq ▸ hnext).poised.sane.orderly
  have hdone := added_of_refused_choice ha hm hr
  -- what was added and left behind is bound, so that the workspace is not intact then
  have hrefused : s.Intact s' → s.addNode c parent after = (s', .error fault) := by
    intro hi
    by_contra hadd
    obtain ⟨h, -, hnew, -, hbound, -⟩ := hdone hadd
    rw [hi.bound, hs.toSound.binding?_of_not_contains hnew] at hbound
    cases hbound
  have hgone : s.Intact s' → ∀ k, s'.document.contains k = true → s.document.contains k = true := by
    intro hi k hleft
    by_contra hnew
    rw [Bool.not_eq_true] at hnew
    obtain ⟨a, hnone, hsome⟩ := exists_bound_of_left hk hm (hrefused hi) hnew hleft
    exact hsome ((hi.bound a).trans hnone)
  refine ⟨⟨fun hi => ⟨hrefused hi, hgone hi⟩, fun ⟨hadd, hold⟩ => ?_⟩,
    fun hd => ⟨hrefused, fun hadd => ?_⟩, hdone⟩
  · exact (unchanged_addNode_of_gone hk hadd hold).intact hs.orderly horder'
  · have hstrict : Kempt True False s := ha.kempt False.elim hm.treeShaped fun _ => hd
    exact (unchanged_addNode hstrict hadd).intact hs.orderly horder'

/-! ## A letter -/

/-- The letter once its phone was exchanged for a mail. -/
def mailedLetter : Session :=
  (newLetter.chooseAlternative ⟨4⟩ ⟨1⟩ none ⟨2⟩).1

theorem arises_mailedLetter : Arises atWill mailedLetter :=
  (Arises.created create_letter).asked (r := .choose ⟨4⟩ ⟨1⟩ none ⟨2⟩) trivial

/-- A mail that is to go behind the phone that is there no longer is taken back. -/
theorem mailedLetter_intact :
    (mailedLetter.chooseAlternative ⟨4⟩ ⟨1⟩ (some ⟨2⟩) ⟨3⟩).2 =
        .error (.document (.notAChild ⟨2⟩ ⟨1⟩)) ∧
      mailedLetter.Intact (mailedLetter.chooseAlternative ⟨4⟩ ⟨1⟩ (some ⟨2⟩) ⟨3⟩).1 := by
  have hfault : (mailedLetter.chooseAlternative ⟨4⟩ ⟨1⟩ (some ⟨2⟩) ⟨3⟩).2 =
      .error (.document (.notAChild ⟨2⟩ ⟨1⟩)) := by with_unfolding_all rfl
  have hrefused : mailedLetter.chooseAlternative ⟨4⟩ ⟨1⟩ (some ⟨2⟩) ⟨3⟩ =
      ((mailedLetter.chooseAlternative ⟨4⟩ ⟨1⟩ (some ⟨2⟩) ⟨3⟩).1, _) := Prod.ext rfl hfault
  have hiff := (intact_of_refused_choice_iff arises_mailedLetter built_letter hrefused).2.1
  refine ⟨hfault, (hiff (by decide)).mpr (Prod.ext ?_ ?_)⟩ <;> with_unfolding_all rfl

/-- The same choice for a second time is refused, as the phone is there no longer, and leaves a
second mail behind. -/
theorem second_mail_stays : Arises atWill mailedLetter ∧ mailedLetter.workspace.model.Built ∧
    (mailedLetter.chooseAlternative ⟨4⟩ ⟨1⟩ none ⟨2⟩).2 = .error (.nodeNotFound ⟨2⟩) ∧
    mailedLetter.document.elements ⟨1⟩ = [⟨3⟩] ∧
    (mailedLetter.chooseAlternative ⟨4⟩ ⟨1⟩ none ⟨2⟩).1.document.elements ⟨1⟩ = [⟨4⟩, ⟨3⟩] ∧
    mailedLetter.workspace.binding? ⟨4⟩ = none ∧
    (mailedLetter.chooseAlternative ⟨4⟩ ⟨1⟩ none ⟨2⟩).1.workspace.binding? ⟨4⟩ = some ⟨4⟩ ∧
    ¬ mailedLetter.Intact (mailedLetter.chooseAlternative ⟨4⟩ ⟨1⟩ none ⟨2⟩).1 := by
  have hbefore : mailedLetter.workspace.binding? ⟨4⟩ = none := by with_unfolding_all rfl
  have hafter : (mailedLetter.chooseAlternative ⟨4⟩ ⟨1⟩ none ⟨2⟩).1.workspace.binding? ⟨4⟩ =
      some ⟨4⟩ := by with_unfolding_all rfl
  refine ⟨arises_mailedLetter, built_letter, ?_, ?_, ?_, hbefore, hafter, fun hi => ?_⟩
  · with_unfolding_all rfl
  · with_unfolding_all rfl
  · with_unfolding_all rfl
  · have hsame := hi.bound ⟨4⟩
    rw [hbefore, hafter] at hsame
    cases hsame

end GuidedXml.Session
