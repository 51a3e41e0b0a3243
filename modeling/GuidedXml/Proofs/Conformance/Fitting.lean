/-
# Missing elements that fit

An element is offered to be added inside another one only if there is none of its name, there may be
one, and no alternative to it is there. What is asked of a content is more than that: all names have
to stand in its order, as often as its bounds say.

The main statement says that in a conforming document of a guided run a missing element is offered
exactly if it fits somewhere among the elements that are there, and that it fits where it is
offered.
-/
import Mathlib.Data.List.TakeWhile
import GuidedXml.Proofs.Conformance.Choosing
import GuidedXml.Proofs.Conformance.Legality

namespace GuidedXml

open Schema (ConstraintId ContentModel)
open Schema.ContentModel (Fills)

namespace Document

variable {d : Document} {xs : List Handle}

/-- A list can be split behind any node of it, and in front of all. -/
theorem exists_split_behind (hs : List Handle) (q : Option Handle)
    (hq : ∀ x, q = some x → x ∈ hs) :
    ∃ xs ys, hs = xs ++ ys ∧ xs.getLast? = q := by
  cases q with
  | none => exact ⟨[], hs, rfl, rfl⟩
  | some x =>
    obtain ⟨xs, ys, rfl⟩ := List.append_of_mem (hq x rfl)
    exact ⟨xs ++ [x], ys, by rw [List.append_assoc, List.singleton_append], List.getLast?_concat⟩

/-- The last node is the last element if it is one. -/
theorem getLast?_filter_isElement (he : ∀ k, xs.getLast? = some k → d.isElement k = true) :
    (xs.filter d.isElement).getLast? = xs.getLast? := by
  cases hlast : xs.getLast? with
  | none =>
    rw [List.getLast?_eq_none_iff.mp hlast]
    rfl
  | some k =>
    obtain ⟨xs, rfl⟩ := List.getLast?_eq_some_iff.mp hlast
    rw [List.filter_append, List.filter_cons_of_pos (he k hlast)]
    exact List.getLast?_concat

end Document

namespace Session

variable {s : Session} {h p : Handle} {a c : ConstraintId} {after : Option Handle} {o : Offer}
  {es xs ys : List Handle} {before cs rest : List ConstraintId} {seen : List Offer}

/-! ## Elements that fit -/

/-- One element of the constraint `a` between the elements `xs` and `ys` makes up the content of the
constraint `c`. -/
def Fits (s : Session) (c a : ConstraintId) (xs ys : List Handle) : Prop :=
  Fills .strict s.workspace.model (s.workspace.model.contentElements c)
    (xs.map s.document.name ++ s.workspace.model.name a :: ys.map s.document.name)

/-- None of the elements inside the element has the name of the constraint. -/
def Misses (s : Session) (h : Handle) (a : ConstraintId) : Prop :=
  ∀ k ∈ s.document.elements h, s.document.name k ≠ s.workspace.model.name a

instance : Decidable (s.Misses h a) :=
  inferInstanceAs (Decidable (∀ k ∈ s.document.elements h,
    s.document.name k ≠ s.workspace.model.name a))

theorem Misses.tally_eq_zero (hm : s.Misses h a) :
    s.workspace.model.tally ((s.document.elements h).map s.document.name) a = 0 := by
  rw [ContentModel.tally, List.count_eq_zero]
  intro hmem
  obtain ⟨k, hk, hname⟩ := List.mem_map.mp hmem
  exact hm k hk hname

theorem Misses.firstRun_eq_zero (hm : s.Misses h a) :
    s.document.firstRun (s.workspace.model.name a) (s.document.elements h) = 0 := by
  have hdrop : ((s.document.elements h).filter s.document.isElement).dropWhile
      (fun k => !decide (s.document.name k = s.workspace.model.name a)) = [] := by
    rw [List.dropWhile_eq_nil_iff]
    intro k hk
    simpa using hm k (List.mem_filter.mp hk).1
  simp only [Document.firstRun, hdrop, List.takeWhile_nil, List.length_nil]

/-- An element that fits can be added inside. -/
theorem canAddInside_of_fits (hr : s.Ready) (hb : s.workspace.binding? h = some c)
    (he : s.document.isElement h = true) (ha : a ∈ s.workspace.model.contentElements c)
    (hm : s.Misses h a) (hes : s.document.elements h = xs ++ ys) (hfits : s.Fits c a xs ys) :
    s.canAddInside (s.document.elements h) a = true := by
  have hcontent := hr.isContent hb he
  have hnames : (s.document.elements h).map s.document.name =
      xs.map s.document.name ++ ys.map s.document.name := by
    rw [hes, List.map_append]
  have hzero := hm.tally_eq_zero
  rw [hnames] at hzero
  have hone := ContentModel.tally_insert_self hcontent ha (xs.map s.document.name)
    (ys.map s.document.name)
  rw [hzero] at hone
  have hcounts := hfits.contains hcontent ha (by omega)
  rw [hone] at hcounts
  rw [canAddInside, hm.firstRun_eq_zero]
  simp only [Bool.and_eq_true, true_and, Bool.not_eq_true', decide_true]
  refine ⟨?_, ?_⟩
  · rw [Schema.Occurs.allowsMore_eq]
    rw [Schema.Occurs.contains, Bool.and_eq_true] at hcounts
    exact hcounts.2
  · -- an alternative that is there would be there beside the new element
    rw [List.any_eq_false]
    intro k hk hbound
    obtain ⟨j, hj, hbk, hname⟩ := hr.bound_of_mem hb he hk
    rw [boundTo, hbk] at hbound
    have halt : j ∈ s.workspace.model.alternatives a := List.contains_iff_mem.mp hbound
    have hne : j ≠ a := by
      rintro rfl
      exact hm k hk hname
    have hgone := hfits.alone hcontent ha halt hne (by omega)
    rw [ContentModel.tally_insert_of_ne hcontent ha hj hne, ContentModel.tally, ← hnames,
      ← hname, List.count_eq_zero] at hgone
    exact hgone (List.mem_map_of_mem hk)

/-- An element that can be added inside fits behind the last of those that come before it. -/
theorem fits_of_canAddInside (hr : s.Ready) (hb : s.workspace.binding? h = some c)
    (he : s.document.isElement h = true)
    (hsuits : s.document.Suits .strict s.workspace.model s.workspace.whitelist h c)
    (hmin : s.workspace.model.ModestChoices)
    (hcs : s.workspace.model.contentElements c = before ++ a :: rest)
    (hcan : s.canAddInside (s.document.elements h) a = true) :
    ∃ xs ys, s.document.elements h = xs ++ ys ∧
      xs.getLast? = ((s.document.elements h).filter (s.boundTo before)).getLast? ∧
      s.Fits c a xs ys := by
  obtain ⟨xs, ys, hchildren, hlast⟩ := Document.exists_split_behind (s.document.children h)
    ((s.document.elements h).filter (s.boundTo before)).getLast?
    fun x hx => (Document.mem_elements.mp (List.mem_filter.mp (List.mem_of_getLast? hx)).1).1
  refine ⟨xs.filter s.document.isElement, ys.filter s.document.isElement, ?_, ?_, ?_⟩
  · rw [Document.elements, hchildren, List.filter_append]
  · rw [← hlast]
    refine Document.getLast?_filter_isElement fun q hq => ?_
    rw [hlast] at hq
    exact (Document.mem_elements.mp (List.mem_filter.mp (List.mem_of_getLast? hq)).1).2
  · exact fills_new hr hb he hsuits hcs hcan hchildren hlast (hmin a)

/-! ## Elements that are offered -/

/-- Each element that can be added is among the actions. -/
theorem mem_childActionsAux (hcan : s.canAddInside es a = true)
    (before mid rest : List ConstraintId) :
    ∃ x ∈ s.childActionsAux h es before (mid ++ a :: rest),
      x.2 = .addChild a h (es.filter (s.boundTo (before ++ mid))).getLast? := by
  induction mid generalizing before with
  | nil =>
    rw [List.nil_append, childActionsAux, if_pos hcan, List.append_nil]
    exact ⟨_, List.mem_cons_self .., rfl⟩
  | cons c mid ih =>
    obtain ⟨x, hx, haction⟩ := ih (before ++ [c])
    rw [List.append_assoc] at haction
    refine ⟨x, ?_, haction⟩
    rw [List.cons_append, childActionsAux]
    split
    · exact List.mem_cons_of_mem _ hx
    · exact hx

/-- What is shown for a bound node is what would be made for it. -/
theorem offers_eq_makeOffers (hf : s.Fresh) (hb : s.workspace.binding? h = some c) :
    (s.offers h).2 = s.makeOffers h c := by
  unfold offers
  cases hos : s.workspace.offers.get? h with
  | some os =>
    obtain ⟨c', hc', heq⟩ := hf h os hos
    rw [Option.some.inj (hb.symm.trans hc')]
    exact heq
  | none =>
    rw [hb]

/-- A missing element is offered exactly if it can be added inside. -/
theorem exists_offer_iff (he : s.document.isElement h = true)
    (ha : a ∈ s.workspace.model.contentElements c) :
    (∃ o ∈ s.makeOffers h c, ∃ p after, o.action = .addChild a p after) ↔
      s.canAddInside (s.document.elements h) a = true := by
  constructor
  · rintro ⟨o, ho, p, after, haction⟩
    have hoffered := offered_of_mem_makeOffers ho
    rw [haction] at hoffered
    cases hoffered with
    | addChild _ _ hcan => exact hcan
  · intro hcan
    obtain ⟨mid, rest, hcs⟩ := List.append_of_mem ha
    obtain ⟨x, hx, haction⟩ := mem_childActionsAux (h := h) hcan [] mid rest
    refine ⟨_, List.mem_map_of_mem ?_, h, _, haction⟩
    rw [if_pos he]
    refine List.mem_append_left _ (List.mem_append_right _ ?_)
    rw [childActions, hcs]
    exact hx

/-! ## Offers and elements that fit -/

/-- In a conforming document that is reached by a guided run every element is bound. An element that
is missing inside is offered exactly if it fits somewhere among the elements that are there, and the
place where it is offered is one where it fits. -/
theorem offered_iff_fits (hr : Reached guided s seen) (hm : s.workspace.model.Built)
    (hf : s.workspace.model.FlatUnambiguous) (hmin : s.workspace.model.ModestChoices)
    (hconf : s.IsConforming) (he : s.document.isElement h = true) :
    ∃ c, s.workspace.binding? h = some c ∧
      ∀ a ∈ s.workspace.model.contentElements c, s.Misses h a →
        ((∃ o ∈ (s.offers h).2, ∃ p after, o.action = .addChild a p after) ↔
          ∃ xs ys, s.document.elements h = xs ++ ys ∧ s.Fits c a xs ys) ∧
        ∀ o ∈ (s.offers h).2, ∀ p after, o.action = .addChild a p after →
          p = h ∧ ∃ xs ys, s.document.elements h = xs ++ ys ∧ after = xs.getLast? ∧
            s.Fits c a xs ys := by
  have hready := hr.ready hm.treeShaped hf
  have hkempt : Kempt False False s := hr.kempt hm.treeShaped False.elim
  have hw := hkempt.tended.within_top_of_isElement hkempt.poised he nofun
  obtain ⟨c, hb, hsuits, -⟩ := conforms_of_within hready hconf hw he
  rw [offers_eq_makeOffers hr.staleOrFresh.2.1 hb]
  refine ⟨c, hb, ?_⟩
  intro a ha hmiss
  refine ⟨?_, ?_⟩
  · rw [exists_offer_iff he ha]
    constructor
    · intro hcan
      obtain ⟨before, rest, hcs⟩ := List.append_of_mem ha
      obtain ⟨xs, ys, hes, -, hfits⟩ := fits_of_canAddInside hready hb he hsuits hmin hcs hcan
      exact ⟨xs, ys, hes, hfits⟩
    · rintro ⟨xs, ys, hes, hfits⟩
      exact canAddInside_of_fits hready hb he ha hmiss hes hfits
  · intro o ho p after haction
    have hoffered := offered_of_mem_makeOffers ho
    rw [haction] at hoffered
    cases hoffered with
    | addChild _ hcs hcan =>
      obtain ⟨xs, ys, hes, hlast, hfits⟩ := fits_of_canAddInside hready hb he hsuits hmin hcs hcan
      exact ⟨rfl, xs, ys, hes, hlast.symm, hfits⟩

/-- A note is offered for a new letter exactly if it fits, and it fits behind the phone. -/
theorem note_offered : ∃ c, newLetter.workspace.binding? ⟨1⟩ = some c ∧
    ⟨5⟩ ∈ newLetter.workspace.model.contentElements c ∧ newLetter.Misses ⟨1⟩ ⟨5⟩ ∧
    ((∃ o ∈ (newLetter.offers ⟨1⟩).2, ∃ p after, o.action = .addChild ⟨5⟩ p after) ↔
      ∃ xs ys, newLetter.document.elements ⟨1⟩ = xs ++ ys ∧ newLetter.Fits c ⟨5⟩ xs ys) ∧
    ∃ xs ys, newLetter.document.elements ⟨1⟩ = xs ++ ys ∧ some ⟨2⟩ = xs.getLast? ∧
      newLetter.Fits c ⟨5⟩ xs ys := by
  obtain ⟨c, hb, hoffered⟩ := offered_iff_fits (.created create_letter) built_letter
    flatUnambiguous_letter modestChoices_letter isConforming_newLetter (h := ⟨1⟩) (by decide)
  obtain rfl : ContentModel.root = c := Option.some.inj hb
  have hmiss : newLetter.Misses ⟨1⟩ ⟨5⟩ := by decide
  obtain ⟨hiff, hplace⟩ := hoffered ⟨5⟩ (by decide) hmiss
  exact ⟨_, hb, by decide, hmiss, hiff, (hplace noteOffer (by decide) _ _ rfl).2⟩

end Session

end GuidedXml
