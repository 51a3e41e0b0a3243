/-
# Choosing alternatives

To choose another alternative is to add one element of it and to remove one element. If more elements
of the old alternative are there, both alternatives are there afterwards, and an alternative that may
not be there at all is added like any other.

The main statements say exactly when a document still conforms after another alternative was chosen,
and that it does not always.
-/
import GuidedXml.Proofs.Conformance.Guided
import GuidedXml.Proofs.Document.Attachment

namespace GuidedXml

open Schema (ConstraintId ContentModel)

namespace Session

variable {s s' : Session} {h k p : Handle} {a : ConstraintId} {after : Option Handle} {o : Offer}
  {seen : List Offer}

/-- In a conforming session every element below the top is bound, and conforms. -/
theorem conforms_of_within (hr : s.Ready) (hconf : s.IsConforming)
    (hw : s.document.Within Document.top k) (he : s.document.isElement k = true) :
    ∃ i, s.workspace.binding? k = some i ∧
      s.document.Conforms .strict s.workspace.model s.workspace.whitelist k i := by
  obtain ⟨r, htop, -, hroot⟩ := hconf
  have hbr := hr.seated.root r (by rw [Document.root?, htop]; rfl)
  have hlinked := hr.tidy.linked
  -- by induction on the way down: to conform says the same of all elements inside
  induction hw with
  | self _ =>
    rw [hlinked.isElement_top] at he
    simp at he
  | @step q k hw hq ih =>
    have hmem := hlinked.mem_elements_of_parent? hq he
    rcases hw.eq_top_or_isElement hlinked hq with rfl | hqe
    · rw [htop] at hmem
      obtain rfl := List.mem_singleton.mp hmem
      exact ⟨_, hbr, hroot⟩
    · obtain ⟨i, hi, -, hbelow⟩ := ih hqe
      obtain ⟨j, hj, hbj, hname⟩ := hr.bound_of_mem hi hqe hmem
      exact ⟨j, hbj, hbelow k hmem j hj hname.symm⟩

/-- What lies above a changed element stays above it. -/
theorem Splices.within_top (hp : Splices p s s') (hs : s.Tidy)
    (hw : s.document.Within Document.top k) (hk : s.document.Within k p)
    (hke : k = Document.top ∨ s.document.isElement k = true) :
    s'.document.Within Document.top k := by
  have hlinked' := hp.drifts.tidy.linked
  -- only the element that was changed can have lost something, and nothing above it did
  induction hw with
  | self _ => exact .self hlinked'.contains_top
  | @step q k hw hq ih =>
    have hqk := Document.Within.of_parent? hs.linked hq
    have hqe := hw.eq_top_or_isElement hs.linked hq
    have hqw := ih (hqk.trans hk) hqe
    have hqp : ¬ q = p := by
      rintro rfl
      exact Document.Within.not_within_parent hs.orderly.forest.acyclic hq hk
    have he : s.document.isElement k = true := by
      refine hke.resolve_left ?_
      rintro rfl
      rw [hs.linked.parent?_top] at hq
      simp at hq
    have hkept := hp.reshapes.kept q hw.contains hqw.contains hqp
    have hmem := hs.linked.mem_elements_of_parent? hq he
    rw [← hkept.elements] at hmem
    exact hqw.step (hlinked'.parent?_of_mem_elements hmem)

/-! ## Exchanging one element -/

/-- After another alternative was chosen the document conforms exactly if the element that was
replaced was alone in its run, and there may be one of the other alternative. -/
theorem chooseAlternative_conforming_iff (hr : s.Ready) (hconf : s.IsConforming)
    {c : ConstraintId} (hb : s.workspace.binding? h = some c)
    (hin : s.document.isAttached h = true)
    (ho : s.Offered h c (.chooseAlternative a p after h)) :
    ∃ new s', s.chooseAlternative a p after h = (s', .ok new) ∧
      (s'.IsConforming ↔
        s.document.runLength h = 1 ∧ (s.workspace.model.occurs a).contains 1 = true) := by
  cases ho with
  | chooseAlternative he hpe ha hne =>
    obtain ⟨new, s', xs, ys, hchoose, hready, hplaced, hiff⟩ :=
      chooseAlternative_of_ready hr hb he hpe ha hne
    refine ⟨new, s', hchoose, ?_⟩
    obtain ⟨hpar, hep⟩ := parent?_of_parentElement? hpe
    -- the element around is bound, and as its constraint says
    have hpw : s.document.Within Document.top p := by
      have hw := Document.within_of_isAttached hr.tidy.linked hin
      cases hw with
      | self _ =>
        rw [hr.tidy.linked.parent?_top] at hpar
        simp at hpar
      | step hw hq =>
        obtain rfl := Option.some.inj (hq.symm.trans hpar)
        exact hw
    obtain ⟨i, hi, hsuits, -⟩ := conforms_of_within hr hconf hpw hep
    rw [← hiff i hi hsuits]
    constructor
    · intro hconf'
      have hpw' := hplaced.within_top hr.tidy hpw (.self hpw.contains) (Or.inr hep)
      have hep' : s'.document.isElement p = true := by
        rwa [Document.isElement_congr (hplaced.reshapes.kind? p hpw.contains hpw'.contains)]
      obtain ⟨i', hi', hsuits', -⟩ := conforms_of_within hready hconf' hpw' hep'
      rw [hplaced.drifts.binding? p hpw.contains hpw'.contains, hi] at hi'
      obtain rfl := Option.some.inj hi'
      rw [← hplaced.drifts.model, ← hplaced.drifts.whitelist]
      exact hsuits'
    · intro hsuits'
      refine hplaced.isConforming hr.tidy hr.treeShaped hr.flat hr.seated hready.seated ?_ hconf
      intro j hj _
      obtain rfl := Option.some.inj (hi.symm.trans hj)
      exact hsuits'

/-- In a guided run, taking an offer to choose another alternative that is not stale succeeds. A
conforming document then still conforms exactly if the element that was replaced was alone in its
run, and there may be an element of the other alternative. -/
theorem conforming_of_choose_iff (hr : Reached guided s seen) (hm : s.workspace.model.Built)
    (hf : s.workspace.model.FlatUnambiguous) (hmin : s.workspace.model.ModestChoices)
    (hconf : s.IsConforming) (ho : o ∈ seen) (hcurrent : s.isCurrent o = true)
    (hchoose : o.action = .chooseAlternative a p after h) :
    (∃ k, (s.take o).2 = .ok k) ∧ ((s.take o).1.IsConforming ↔
      s.document.runLength h = 1 ∧ (s.workspace.model.occurs a).max ≠ some 0) := by
  have hready := hr.ready hm.treeShaped hf
  obtain ⟨c, hb, hoffered⟩ := (hr.staleOrFresh.2.2 o ho).offered hcurrent
  have hin : s.document.isAttached o.anchor = true := by
    rw [isCurrent, Bool.and_eq_true, Bool.and_eq_true] at hcurrent
    exact hcurrent.1.2
  rw [hchoose] at hoffered
  -- the offer is made for the element that it replaces
  obtain rfl : h = o.anchor := by
    cases hoffered
    rfl
  -- where one element is enough, one is too many only if there may be none at all
  have hone : (s.workspace.model.occurs a).contains 1 = true ↔
      (s.workspace.model.occurs a).max ≠ some 0 := by
    have hmin1 : (s.workspace.model.occurs a).min ≤ 1 := by
      cases hoffered with
      | chooseAlternative _ _ ha _ =>
        refine hmin a (ContentModel.isInChoice_of_mem_alternatives (k := a) ?_)
        rw [hready.treeShaped.alternatives_congr ha]
        exact ha
    rw [Schema.Occurs.contains_iff]
    constructor
    · rintro ⟨-, hmax⟩ hzero
      have := hmax 0 hzero
      omega
    · intro hmax
      refine ⟨hmin1, ?_⟩
      intro n hn
      by_contra hlt
      obtain rfl : n = 0 := by omega
      exact hmax hn
  obtain ⟨new, s', hdone, hiff⟩ := chooseAlternative_conforming_iff hready hconf hb hin hoffered
  rw [take, if_pos hcurrent, hchoose, perform, hdone, ← hone]
  exact ⟨⟨some new, rfl⟩, hiff⟩

/-- The offer to choose mail in the place of the first phone of a letter. -/
def mailOffer (revision : Nat) : Offer where
  objective := "mail"
  anchor := ⟨2⟩
  revision := revision
  action := .chooseAlternative ⟨4⟩ ⟨1⟩ none ⟨2⟩

/-- The offer to add a second phone to a letter. -/
def phoneOffer : Offer where
  objective := "phone"
  anchor := ⟨2⟩
  revision := 0
  action := .addSibling ⟨3⟩ ⟨1⟩ ⟨2⟩

theorem reached_newLetter : Reached guided (newLetter.offers ⟨2⟩).1 [phoneOffer, mailOffer 0] :=
  (Reached.created create_letter).asked (r := .look ⟨2⟩) trivial

theorem letter_with_mail :
    (∃ k, ((newLetter.offers ⟨2⟩).1.take (mailOffer 0)).2 = .ok k) ∧
      (((newLetter.offers ⟨2⟩).1.take (mailOffer 0)).1.IsConforming ↔
        (newLetter.offers ⟨2⟩).1.document.runLength ⟨2⟩ = 1 ∧ (letter.occurs ⟨4⟩).max ≠ some 0) := by
  refine conforming_of_choose_iff reached_newLetter built_letter flatUnambiguous_letter
    modestChoices_letter ?_ (by decide) (by decide) rfl
  exact (sameSeats_offers newLetter ⟨2⟩).isConforming isConforming_newLetter

/-- A letter with two phones, whose first phone was looked at before the second one came and
after. -/
def twoPhones : Session :=
  (((newLetter.offers ⟨2⟩).1.take phoneOffer).1.offers ⟨2⟩).1

theorem reached_twoPhones : ∃ remove, Reached guided twoPhones
    [phoneOffer, mailOffer 0, remove, mailOffer 1] :=
  ⟨_, (reached_newLetter.asked (r := .take phoneOffer) (List.mem_cons_self ..)).asked
    (r := .look ⟨2⟩) trivial⟩

theorem isConforming_twoPhones : twoPhones.IsConforming := by
  have hready := reached_newLetter.ready built_letter.treeShaped flatUnambiguous_letter
  have hbefore := (sameSeats_offers newLetter ⟨2⟩).isConforming isConforming_newLetter
  have hphone := isConforming_take hready modestChoices_letter hbefore
    (reached_newLetter.staleOrFresh.2.2 phoneOffer (List.mem_cons_self ..)) (by decide) nofun
  exact (sameSeats_offers _ ⟨2⟩).isConforming hphone.2

/-- Mail in the place of one of two phones leaves the other phone beside it. -/
theorem mail_beside_phone : (∃ seen, Reached guided twoPhones seen ∧ mailOffer 1 ∈ seen) ∧
    twoPhones.workspace.model.Built ∧ twoPhones.workspace.model.FlatUnambiguous ∧
    twoPhones.workspace.model.ModestChoices ∧ twoPhones.IsConforming ∧
    twoPhones.isCurrent (mailOffer 1) = true ∧
    ¬ (twoPhones.take (mailOffer 1)).1.IsConforming := by
  refine ⟨?_, built_letter, flatUnambiguous_letter, modestChoices_letter, isConforming_twoPhones,
    by decide, ?_⟩
  · obtain ⟨remove, hreached⟩ := reached_twoPhones
    exact ⟨_, hreached, by simp⟩
  · -- the choice has a phone and mail, so no alternative is there alone
    rintro ⟨r, htop, -, hconf⟩
    have hr : (twoPhones.take (mailOffer 1)).1.document.elements Document.top = [⟨1⟩] := rfl
    obtain rfl : (⟨1⟩ : Handle) = r := List.head_eq_of_cons_eq (hr.symm.trans htop)
    cases hconf with
    | intro hsuits _ =>
      have hchoice := hsuits.content.choice ⟨3⟩ (by decide) (by decide)
      revert hchoice
      unfold ContentModel.Excuse.strict
      decide

end Session

end GuidedXml
