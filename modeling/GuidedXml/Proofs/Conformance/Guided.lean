/-
# Guided runs

In a guided run a document is changed by taking offers that were shown, and by setting values. In a
steady one no other alternatives are chosen.

The main statements say that bound elements always sit where their constraints are in guided runs,
that conforming documents stay so in steady ones, and what one offer does.
-/
import GuidedXml.Proofs.Conformance.Opening
import GuidedXml.Proofs.Conformance.Taking
import GuidedXml.Proofs.Editing.Staleness

namespace GuidedXml.Session

open Schema (ConstraintId ContentModel)

variable {s s' : Session} {h : Handle} {c : ConstraintId} {o : Offer} {r : Request}
  {seen seen' : List Offer}

/-! ## Runs -/

/-- Offers that were shown may be taken, and values set; the document may be looked at in every
way. -/
def guided (seen : List Offer) : Request → Prop
  | .look _ => True
  | .take o => o ∈ seen
  | .setValue _ _ => True
  | .judge _ _ => True
  | .revalidate => True
  | .addNode _ _ _ => False
  | .addAttribute _ _ => False
  | .remove _ => False
  | .choose _ _ _ _ => False
  | .replace _ _ _ _ => False

/-- As in a guided run, but no offer to choose another alternative is taken. -/
def steady (seen : List Offer) (r : Request) : Prop :=
  guided seen r ∧ ∀ o a p after replaced, r = .take o →
    o.action ≠ .chooseAlternative a p after replaced

/-- An offer that is not stale is among those that would be made for its node. -/
theorem StaleOrFresh.offered (ho : s.StaleOrFresh o) (hcurrent : s.isCurrent o = true) :
    ∃ c, s.workspace.binding? o.anchor = some c ∧ s.Offered o.anchor c o.action := by
  rw [isCurrent, Bool.and_eq_true, Bool.and_eq_true, decide_eq_true_eq] at hcurrent
  obtain ⟨⟨hlive, -⟩, hrev⟩ := hcurrent
  -- a stale offer has an older revision than its node, and this one has the same
  rcases ho.fresh hlive with hlt | ⟨c, hb, hmem⟩
  · omega
  · exact ⟨c, hb, offered_of_mem_makeOffers hmem⟩

/-- Content models stay what they are. -/
theorem model_answer (hs : s.Tidy) (r : Request) :
    (s.answer r).1.workspace.model = s.workspace.model := by
  by_cases hlook : ∃ h, r = .look h
  · obtain ⟨h, rfl⟩ := hlook
    exact (sameSeats_offers s h).model
  · exact (drifts_answer hs r fun h hr => hlook ⟨h, hr⟩).1.model

/-- A request of a guided run keeps bound elements where their constraints are. -/
theorem seated_answer (hr : s.Ready) (hseen : ∀ o ∈ seen, s.StaleOrFresh o)
    (hguided : guided seen r) : (s.answer r).1.Seated := by
  cases r with
  | look h => exact (sameSeats_offers s h).seated hr.seated
  | take o =>
    show (s.take o).1.Seated
    unfold take
    split
    · rename_i hcurrent
      obtain ⟨c, hb, ho⟩ := (hseen o hguided).offered hcurrent
      exact (ready_perform hr hb ho).seated
    · exact hr.seated
  | setValue h value =>
    have hset := reshapes_setValue hr.tidy h value
    have hdrift := drifts_setValue hr.tidy h value
    refine hset.seated_root hdrift hr.tidy not_false hr.seated ?_
    exact hset.seated hdrift hr.seated.nodes fun p hp => hp.elim
  | judge h deep => exact (alike_verdictOn s h deep).sameSeats.seated hr.seated
  | revalidate => exact (alike_revalidate s).sameSeats.seated hr.seated
  | addNode => exact hguided.elim
  | addAttribute => exact hguided.elim
  | remove => exact hguided.elim
  | choose => exact hguided.elim
  | replace => exact hguided.elim

/-- Every session that is reached by a guided run is ready for offers. -/
theorem Reached.ready (hr : Reached guided s seen) (htree : s.workspace.model.TreeShaped)
    (hflat : s.workspace.model.FlatUnambiguous) : s.Ready := by
  refine ⟨hr.staleOrFresh.1, htree, hflat, ?_⟩
  -- by induction on the run; that a request keeps the seats needs all that was shown to be stale
  -- or fresh, which is known of every session on the way
  induction hr with
  | created hc =>
    rw [model_create hc] at htree hflat
    exact (conforming_create htree hflat hc).1
  | loaded hl =>
    obtain ⟨d, m, hd, ho⟩ := load_eq_ok hl
    exact seated_ofDocument (Document.orderly_of_read hd).forest ho
  | @asked s seen r hreached hguided ih =>
    obtain ⟨htidy, -, hseen⟩ := hreached.staleOrFresh
    rw [model_answer htidy] at htree hflat
    exact seated_answer ⟨htidy, htree, hflat, ih htree hflat⟩ hseen hguided

/-! ## Conforming documents -/

/-- Setting a value keeps a document conforming. -/
theorem isConforming_setValue (hr : s.Ready) (hconf : s.IsConforming) (h : Handle)
    (value : String) : (s.setValue h value).1.IsConforming := by
  have hset := reshapes_setValue hr.tidy h value
  have hdrift := drifts_setValue hr.tidy h value
  have hseat := hset.seated_root hdrift hr.tidy not_false hr.seated
    (hset.seated hdrift hr.seated.nodes fun p hp => hp.elim)
  exact hset.isConforming hdrift hr.tidy not_false hr.treeShaped hr.flat hr.seated hseat
    (fun p hp => hp.elim) hconf

/-- Taking an offer that is not stale succeeds and keeps a document conforming, unless the offer is
to choose another alternative. -/
theorem isConforming_take (hr : s.Ready) (hmin : s.workspace.model.ModestChoices)
    (hconf : s.IsConforming) (ho : s.StaleOrFresh o) (hcurrent : s.isCurrent o = true)
    (hother : ∀ a p after replaced, o.action ≠ .chooseAlternative a p after replaced) :
    (∃ k, (s.take o).2 = .ok k) ∧ (s.take o).1.IsConforming := by
  obtain ⟨c, hb, hoffered⟩ := ho.offered hcurrent
  have hin : s.document.isAttached o.anchor = true := by
    rw [isCurrent, Bool.and_eq_true, Bool.and_eq_true] at hcurrent
    exact hcurrent.1.2
  rw [take, if_pos hcurrent]
  exact isConforming_perform hr hb hoffered hin hmin hother hconf

/-- A request of a steady run keeps a document conforming. -/
theorem isConforming_answer (hr : s.Ready) (hmin : s.workspace.model.ModestChoices)
    (hconf : s.IsConforming) (hseen : ∀ o ∈ seen, s.StaleOrFresh o) (hsteady : steady seen r) :
    (s.answer r).1.IsConforming := by
  obtain ⟨hguided, hother⟩ := hsteady
  cases r with
  | look h => exact (sameSeats_offers s h).isConforming hconf
  | take o =>
    show (s.take o).1.IsConforming
    cases hcurrent : s.isCurrent o with
    | true =>
      exact (isConforming_take hr hmin hconf (hseen o hguided) hcurrent
        fun a p after replaced => hother o a p after replaced rfl).2
    | false =>
      rw [take, hcurrent]
      exact hconf
  | setValue h value => exact isConforming_setValue hr hconf h value
  | judge h deep => exact (alike_verdictOn s h deep).sameSeats.isConforming hconf
  | revalidate => exact (alike_revalidate s).sameSeats.isConforming hconf
  | addNode => exact hguided.elim
  | addAttribute => exact hguided.elim
  | remove => exact hguided.elim
  | choose => exact hguided.elim
  | replace => exact hguided.elim

/-! ## Steady runs -/

/-- Requests of the kind allowed lead from one session to another one, with the offers shown until
then. -/
inductive Leads (allowed : List Offer → Request → Prop) (s : Session) (seen : List Offer) :
    Session → List Offer → Prop
  | still : Leads allowed s seen s seen
  | asked {s' : Session} {seen' : List Offer} {r : Request} :
      Leads allowed s seen s' seen' → allowed seen' r →
      Leads allowed s seen (s'.answer r).1 (seen' ++ (s'.answer r).2)

theorem Leads.mono {allowed allowed' : List Offer → Request → Prop}
    (hl : Leads allowed s seen s' seen') (hallowed : ∀ seen r, allowed seen r → allowed' seen r) :
    Leads allowed' s seen s' seen' := by
  induction hl with
  | still => exact .still
  | asked _ hr ih => exact ih.asked (hallowed _ _ hr)

theorem Leads.of_steady (hl : Leads steady s seen s' seen') : Leads guided s seen s' seen' :=
  hl.mono fun _ _ hsteady => hsteady.1

theorem Leads.reached {allowed : List Offer → Request → Prop} (hl : Leads allowed s seen s' seen')
    (hr : Reached allowed s seen) : Reached allowed s' seen' := by
  induction hl with
  | still => exact hr
  | asked _ hallowed ih => exact ih.asked hallowed

theorem Leads.model {allowed : List Offer → Request → Prop} (hl : Leads allowed s seen s' seen')
    (hr : Reached allowed s seen) : s'.workspace.model = s.workspace.model := by
  induction hl with
  | still => rfl
  | @asked s' seen' r hl _ ih => rw [model_answer (hl.reached hr).staleOrFresh.1, ih]

/-- A conforming document stays so in a steady run. -/
theorem Leads.isConforming (hl : Leads steady s seen s' seen') (hr : Reached guided s seen)
    (htree : s.workspace.model.TreeShaped) (hflat : s.workspace.model.FlatUnambiguous)
    (hmin : s.workspace.model.ModestChoices) (hconf : s.IsConforming) : s'.IsConforming := by
  induction hl with
  | still => exact hconf
  | @asked s' seen' r hl hsteady ih =>
    have hreached := hl.of_steady.reached hr
    rw [← hl.of_steady.model hr] at htree hflat hmin
    exact isConforming_answer (hreached.ready htree hflat) hmin ih hreached.staleOrFresh.2.2 hsteady

/-- A document that began as a new one conforms as long as the run is steady. -/
theorem isConforming_of_create {m : ContentModel} {rules : RuleBook} {settings : Settings}
    (hc : create m rules settings = .ok s) (htree : m.TreeShaped) (hflat : m.FlatUnambiguous)
    (hmin : m.ModestChoices) (hl : Leads steady s [] s' seen) : s'.IsConforming := by
  have hconf := (conforming_create htree hflat hc).2
  rw [← model_create hc] at htree hflat hmin
  exact hl.isConforming (.created hc) htree hflat hmin hconf

/-! ## One offer -/

/-- In a guided run, taking an offer that is not stale succeeds and keeps a conforming document
conforming, unless the offer is to choose another alternative. -/
theorem conforming_of_take (hr : Reached guided s seen) (hm : s.workspace.model.Built)
    (hf : s.workspace.model.FlatUnambiguous) (hmin : s.workspace.model.ModestChoices)
    (hconf : s.IsConforming) (ho : o ∈ seen) (hcurrent : s.isCurrent o = true)
    (hother : ∀ a p after replaced, o.action ≠ .chooseAlternative a p after replaced) :
    (∃ k, (s.take o).2 = .ok k) ∧ (s.take o).1.IsConforming :=
  isConforming_take (hr.ready hm.treeShaped hf) hmin hconf (hr.staleOrFresh.2.2 o ho) hcurrent
    hother

/-! ## A letter -/

/-- A content model with a choice before something that may be there any number of times. -/
def letter : ContentModel :=
  let m := (ContentModel.ofRoot (.ofElement "letter" .once)).add ContentModel.root
    { kind := .sequence }
  let m := m.1.add ⟨1⟩ { kind := .choice }
  let m := m.1.add ⟨2⟩ (.ofElement "phone" ⟨1, some 2⟩)
  let m := m.1.add ⟨2⟩ (.ofElement "mail" .once)
  (m.1.add ⟨1⟩ (.ofElement "note" .any)).1

theorem built_letter : letter.Built := by
  refine .add (.add (.add (.add (.add (.ofRoot rfl) ?_) ?_) ?_) ?_) ?_ <;> decide

theorem flatUnambiguous_letter : letter.FlatUnambiguous := by
  decide

theorem modestChoices_letter : letter.ModestChoices := by
  decide

/-- The session of a new letter, which has one phone. -/
def newLetter : Session :=
  match create letter {} {} with
  | .ok s => s
  | .error _ => start .empty letter {} {}

theorem create_letter : create letter {} {} = .ok newLetter := rfl

theorem isConforming_newLetter : newLetter.IsConforming :=
  (conforming_create built_letter.treeShaped flatUnambiguous_letter create_letter).2

/-- The offer to put a first note into the letter. -/
def noteOffer : Offer where
  objective := "note"
  anchor := ⟨1⟩
  revision := 0
  action := .addChild ⟨5⟩ ⟨1⟩ (some ⟨2⟩)

theorem letter_with_note :
    (∃ k, ((newLetter.offers ⟨1⟩).1.take noteOffer).2 = .ok k) ∧
      ((newLetter.offers ⟨1⟩).1.take noteOffer).1.IsConforming := by
  have hreached : Reached guided (newLetter.offers ⟨1⟩).1 [noteOffer] :=
    (Reached.created create_letter).asked (r := .look ⟨1⟩) trivial
  refine conforming_of_take hreached built_letter flatUnambiguous_letter modestChoices_letter
    ?_ (List.mem_singleton_self _) (by decide) nofun
  exact (sameSeats_offers newLetter ⟨1⟩).isConforming isConforming_newLetter

end GuidedXml.Session
