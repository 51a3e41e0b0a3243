/-
# Stale offers

An offer that was shown at some time is later either refused as stale, or it is still among those
that would be made for its node afresh.

The main statement says this for every run.
-/
import GuidedXml.Proofs.Editing.Run

namespace GuidedXml.Session

open Schema (ConstraintId ContentModel)

variable {s s' : Session} {h k : Handle}

/-! ## Showing offers -/

/-- Keeping the offers that were made changes nothing that offers are made from. -/
theorem unmoved_of_offers (s : Session) (t : Table Handle (List Offer)) (h : Handle) :
    Unmoved s { s with workspace := { s.workspace with offers := t } } h :=
  ⟨rfl, Document.Undisturbed.refl _ h, rfl, fun _ _ => rfl, rfl⟩

/-- Showing offers keeps the session tidy and what it keeps fresh. -/
theorem fresh_offers (hs : s.Tidy) (hf : s.Fresh) (h : Handle) :
    (s.offers h).1.Tidy ∧ (s.offers h).1.Fresh ∧
      (∀ o, s.StaleOrFresh o → (s.offers h).1.StaleOrFresh o) ∧
      ∀ o ∈ (s.offers h).2, (s.offers h).1.StaleOrFresh o := by
  have hmember : ∀ c, s.workspace.binding? h = some c → ∀ o ∈ s.makeOffers h c,
      s.StaleOrFresh o := by
    intro c hc o ho
    have hanchor := (anchor_of_mem_makeOffers ho).1
    rw [← hanchor] at hc
    refine ⟨Document.index_lt_of_contains (hs.contains_of_bound hc), fun _ => Or.inr ⟨c, hc, ?_⟩⟩
    rw [hanchor]
    exact ho
  unfold offers
  cases hos : s.workspace.offers.get? h with
  | some os =>
    obtain ⟨c, hc, heq⟩ := hf h os hos
    refine ⟨hs, hf, fun _ ho => ho, ?_⟩
    intro o ho
    exact hmember c hc o (heq ▸ ho)
  | none =>
    cases hc : s.workspace.binding? h with
    | none => exact ⟨hs, hf, fun _ ho => ho, by simp⟩
    | some c =>
      dsimp only
      have hsame := unmoved_of_offers s (s.workspace.offers.insert h (s.makeOffers h c))
      -- keeping the offers changes nothing that offers depend on
      generalize hs' : ({ s with workspace := { s.workspace with
        offers := s.workspace.offers.insert h (s.makeOffers h c) } } : Session) = s' at hsame
      have hkept : ∀ k os, s'.workspace.offers.get? k = some os →
          (k = h ∧ os = s.makeOffers h c) ∨ s.workspace.offers.get? k = some os := by
        intro k os hk
        rw [← hs'] at hk
        simp only [Table.get?_insert] at hk
        split at hk
        · rename_i hkh
          exact Or.inl ⟨hkh, (Option.some.inj hk).symm⟩
        · exact Or.inr hk
      -- so no offer that was stale or fresh becomes anything else
      have hfresh : ∀ o, s.StaleOrFresh o → s'.StaleOrFresh o := by
        intro o ho
        refine ⟨?_, ?_⟩
        · rw [← hs']
          exact ho.known
        · intro hlive
          rw [← hs'] at hlive
          rcases ho.fresh hlive with hlt | ⟨i, hi, hmem⟩
          · exact Or.inl ((hsame _).revision ▸ hlt)
          · exact Or.inr ⟨i, (hsame _).binding?.trans hi,
              (makeOffers_congr (hsame _) i).symm ▸ hmem⟩
      refine ⟨?_, ?_, hfresh, fun o ho => hfresh o (hmember c hc o ho)⟩
      · refine ⟨by rw [← hs']; exact ⟨hs.orderly, fun hb => hs.contains_of_bound hb⟩, ?_⟩
        intro k os hk
        rcases hkept k os hk with ⟨rfl, -⟩ | hk
        · exact ⟨c, (hsame _).binding?.trans hc⟩
        · obtain ⟨i, hi⟩ := hs.bound_of_kept hk
          exact ⟨i, (hsame _).binding?.trans hi⟩
      · intro k os hk
        rcases hkept k os hk with ⟨rfl, rfl⟩ | hk
        · exact ⟨c, (hsame _).binding?.trans hc, (makeOffers_congr (hsame _) c).symm⟩
        · obtain ⟨i, hi, heq⟩ := hf k os hk
          exact ⟨i, (hsame _).binding?.trans hi, heq.trans (makeOffers_congr (hsame _) i).symm⟩

/-! ## Runs -/

/-- A request keeps the session tidy, what it keeps fresh, and every offer stale or fresh. -/
theorem staleOrFresh_answer (hs : s.Tidy) (hf : s.Fresh) (r : Request) :
    (s.answer r).1.Tidy ∧ (s.answer r).1.Fresh ∧
      (∀ o, s.StaleOrFresh o → (s.answer r).1.StaleOrFresh o) ∧
      ∀ o ∈ (s.answer r).2, (s.answer r).1.StaleOrFresh o := by
  by_cases hlook : ∃ h, r = .look h
  · obtain ⟨h, rfl⟩ := hlook
    exact fresh_offers hs hf h
  · obtain ⟨hd, hnone⟩ := drifts_answer hs r fun h hr => hlook ⟨h, hr⟩
    refine ⟨hd.tidy, hd.fresh hs hf, fun o ho => hd.staleOrFresh ho, ?_⟩
    rw [hnone]
    simp

/-- Every session that is reached is tidy and keeps fresh offers, and every offer that was shown is
stale or fresh. -/
theorem Reached.staleOrFresh {allowed : List Offer → Request → Prop} {seen : List Offer}
    (hr : Reached allowed s seen) : s.Tidy ∧ s.Fresh ∧ ∀ o ∈ seen, s.StaleOrFresh o := by
  have hopened : ∀ {s : Session}, s.Opened →
      s.Tidy ∧ s.Fresh ∧ ∀ o ∈ ([] : List Offer), s.StaleOrFresh o := by
    intro s ho
    refine ⟨ho.tidy, ?_, by simp⟩
    intro h os hos
    rw [ho.offers] at hos
    simp at hos
  induction hr with
  | created hc => exact hopened (opened_create hc)
  | loaded hl => exact hopened (opened_load hl)
  | @asked s seen r _ _ ih =>
    obtain ⟨hs, hf, hseen⟩ := ih
    obtain ⟨hs', hf', hold, hnew⟩ := staleOrFresh_answer hs hf r
    refine ⟨hs', hf', ?_⟩
    intro o ho
    rcases List.mem_append.mp ho with ho | ho
    · exact hold o (hseen o ho)
    · exact hnew o ho

/-- An offer that is neither stale nor refused would be made afresh. -/
theorem StaleOrFresh.take_or_mem {o : Offer} (ho : s.StaleOrFresh o) :
    s.take o = (s, .error (.staleOffer o.description)) ∨
      ∃ c, s.workspace.binding? o.anchor = some c ∧ o ∈ s.makeOffers o.anchor c := by
  unfold take
  split
  · rename_i hcurrent
    right
    simp only [isCurrent, Bool.and_eq_true, decide_eq_true_eq] at hcurrent
    obtain ⟨⟨hlive, -⟩, hrev⟩ := hcurrent
    rcases ho.fresh hlive with hlt | hmem
    · omega
    · exact hmem
  · exact Or.inl rfl

/-- Whatever was asked of a session, an offer that it showed at any time is now refused as stale or
would be made for its node afresh, and the offers that it keeps are the fresh ones. -/
theorem offers_stale_or_fresh {seen : List Offer} (hr : Reached anything s seen) :
    (∀ o ∈ seen, s.take o = (s, .error (.staleOffer o.description)) ∨
      ∃ c, s.workspace.binding? o.anchor = some c ∧ o ∈ s.makeOffers o.anchor c) ∧
    ∀ h os, s.workspace.offers.get? h = some os →
      ∃ c, s.workspace.binding? h = some c ∧ os = s.makeOffers h c := by
  obtain ⟨-, hf, hseen⟩ := hr.staleOrFresh
  exact ⟨fun o ho => (hseen o ho).take_or_mem, hf⟩

/-- A content model with one kind of element inside the root, any number of times. -/
def shelf : ContentModel :=
  ((ContentModel.ofRoot (.ofElement "shelf" .once)).add ContentModel.root
    (.ofElement "book" .any)).1

/-- The session of a new shelf. -/
def newShelf : Session :=
  match create shelf {} {} with
  | .ok s => s
  | .error _ => start .empty shelf {} {}

theorem create_shelf : create shelf {} {} = .ok newShelf := rfl

/-- The offer to put a first book on the shelf. -/
def bookOffer : Offer where
  objective := "book"
  anchor := ⟨1⟩
  revision := 0
  action := .addChild ⟨1⟩ ⟨1⟩ none

/-- The shelf once its offers were looked at and the book was put on it. -/
def shelfWithBook : Session :=
  ((newShelf.offers ⟨1⟩).1.take bookOffer).1

theorem reached_shelfWithBook : Reached anything shelfWithBook [bookOffer] :=
  ((Reached.created create_shelf).asked (r := .look ⟨1⟩) trivial).asked
    (r := .take bookOffer) trivial

theorem book_offer_stale_or_fresh :
    (∀ o ∈ [bookOffer], shelfWithBook.take o =
        (shelfWithBook, .error (.staleOffer o.description)) ∨
      ∃ c, shelfWithBook.workspace.binding? o.anchor = some c ∧
        o ∈ shelfWithBook.makeOffers o.anchor c) ∧
    ∀ h os, shelfWithBook.workspace.offers.get? h = some os →
      ∃ c, shelfWithBook.workspace.binding? h = some c ∧ os = shelfWithBook.makeOffers h c :=
  offers_stale_or_fresh reached_shelfWithBook

end GuidedXml.Session
