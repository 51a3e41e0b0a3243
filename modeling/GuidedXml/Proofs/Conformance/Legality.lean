/-
# Offers that can be carried out

What is offered in a guided run can be done at once, with one exception: an alternative may be
offered that is a compositor, which has no node of its own that could be put in the place of another.

The main statement says exactly which offers succeed, in every guided run.
-/
import GuidedXml.Proofs.Conformance.Attributes

namespace GuidedXml

open Schema (ConstraintId ContentModel)

/-- What is in the content of a constraint are elements. -/
theorem Schema.ContentModel.TreeShaped.kind?_of_mem_contentElements {m : ContentModel}
    {i j : ConstraintId} (hm : m.TreeShaped) (hj : j ∈ m.contentElements i) :
    m.kind? j = some .element := by
  -- what is inside came later, so the induction is on the number of later constraints
  obtain ⟨n, hn⟩ : ∃ n, m.entries.size - i.index ≤ n := ⟨_, Nat.le_refl _⟩
  induction n generalizing i with
  | zero =>
    rw [ContentModel.contentElements_eq hm, ContentModel.children_eq_nil_of_le (by omega)] at hj
    simp at hj
  | succ n ih =>
    rw [ContentModel.contentElements_eq hm] at hj
    obtain ⟨c, hc, hj⟩ := List.mem_flatMap.mp hj
    have hlt := hm.index_lt_of_mem hc
    unfold ContentModel.contentPart at hj
    split at hj
    · rename_i hkind
      exact List.mem_singleton.mp hj ▸ hkind
    · simp at hj
    · exact ih hj (by omega)
    · simp at hj

namespace Session

open Workspace (ComesAlong)

variable {s s' : Session} {h k p : Handle} {c : ConstraintId} {o : Offer} {seen : List Offer}
  {r : Request}

/-! ## Places of attributes -/

/-- Every attribute has its place at an element, or it came along with one. -/
def AttributesPlaced (s : Session) : Prop :=
  ∀ k, s.document.isAttribute k = true →
    ComesAlong s.workspace k ∨ s.document.parent? k ≠ none

theorem LeavesAlone.attributesPlaced {strict : Prop} (ha : LeavesAlone strict s s')
    (hp : s.AttributesPlaced) : s'.AttributesPlaced := by
  intro k hk
  have hlive := Workspace.contains_of_kinds (Or.inr hk)
  cases hc : s.document.contains k with
  | false => exact (ha.ofAttribute k hc hk).imp_right And.right
  | true =>
    have hold := hp k ((Document.isAttribute_congr (ha.kind? k hc hlive)).symm.trans hk)
    exact hold.imp (fun hcomes => hcomes.congr ha.model (ha.binding? k hc hlive))
      (ha.placed k hc hk)

/-- Everything in a document that was read is attached. -/
theorem rooted_of_load {xml : String} {modelOf : String → Except Schema.SchemaFault ContentModel}
    {rules : RuleBook} {settings : Settings} (hl : load xml modelOf rules settings = .ok s) :
    s.document.Rooted fun _ => False := by
  obtain ⟨d, m, hread, ho⟩ := load_eq_ok hl
  obtain ⟨root, hproper, hkind, rfl⟩ := Document.eq_ofTree_of_read hread
  obtain ⟨r, w, -, -, halike⟩ := ofDocument_eq_ok ho
  have hdoc : s.document = Document.ofTree root := halike.document
  rw [hdoc]
  exact Document.rooted_ofTree hproper hkind

theorem Reached.attributesPlaced (hr : Reached guided s seen) (hm : s.workspace.model.Built) :
    s.AttributesPlaced := by
  induction hr with
  | created hc =>
    rw [model_create hc] at hm
    exact fun k hk => Or.inl ((comesAlong_of_create hm False.elim hc).1 k hk)
  | @loaded xml modelOf rules settings s hl =>
    intro k hk
    refine Or.inr fun hnone => ?_
    rcases rooted_of_load hl k (Workspace.contains_of_kinds (Or.inr hk)) hnone with rfl | hfalse
    · rw [Document.isAttribute, (opened_load hl).tidy.linked.kind?_top] at hk
      simp at hk
    · exact hfalse
  | @asked s seen r hr hguided ih =>
    obtain ⟨htidy, hfresh, hseen⟩ := hr.staleOrFresh
    rw [model_answer htidy r] at hm
    have hkempt : Kempt False False s := hr.kempt hm.treeShaped False.elim
    have halone : LeavesAlone False s (s.answer r).1 :=
      leavesAlone_answer htidy hm False.elim hkempt.poised.sane hfresh hseen hguided
    exact halone.attributesPlaced (ih hm)

/-! ## Offers that are shown -/

/-- What is shown is what would be made now. -/
theorem mem_makeOffers_of_mem_offers (hf : s.Fresh) (ho : o ∈ (s.offers h).2) :
    ∃ c, (s.offers h).1.workspace.binding? h = some c ∧ o ∈ (s.offers h).1.makeOffers h c := by
  unfold offers at ho ⊢
  cases hos : s.workspace.offers.get? h with
  | some os =>
    rw [hos] at ho
    obtain ⟨c, hc, heq⟩ := hf h os hos
    exact ⟨c, hc, heq ▸ ho⟩
  | none =>
    rw [hos] at ho
    cases hc : s.workspace.binding? h with
    | none =>
      rw [hc] at ho
      simp at ho
    | some c =>
      rw [hc] at ho
      refine ⟨c, hc, ?_⟩
      rw [makeOffers_congr (unmoved_of_offers s _ h) c]
      exact ho

/-- A node that something is offered for is attached. -/
theorem isAttached_of_offered {strict sparing : Prop} (hk : Kempt strict sparing s)
    (hp : s.AttributesPlaced) (hb : s.workspace.binding? h = some c)
    (ho : s.Offered h c o.action) (hleaves : LeavesAttributes s.workspace.model c o.action) :
    s.document.isAttached h = true := by
  have horder := hk.poised.sane.orderly
  have helement : ∀ {k}, s.document.isElement k = true → s.document.Within Document.top k :=
    fun he => hk.tended.within_top_of_isElement hk.poised he nofun
  refine (Document.isAttached_iff horder).mpr ?_
  generalize o.action = action at ho hleaves
  cases ho with
  | addSibling he => exact helement he
  | addChild he => exact helement he
  | addAttribute he => exact helement he
  | remove he => exact helement he
  | chooseAlternative he => exact helement he
  | removeAttribute ha =>
    -- an attribute that is offered to be removed did not come along, so it has its place
    obtain ⟨e, he, hfree⟩ := hleaves
    have hplaced : s.document.parent? h ≠ none := by
      rcases hp h ha with ⟨e', he', -, hcomes⟩ | hplaced
      · rw [Workspace.constraint?, hb, Option.bind_some, he] at he'
        obtain rfl := Option.some.inj he'
        rw [Schema.Constraint.isFreeOptional_of_comesAlong hcomes] at hfree
        simp at hfree
      · exact hplaced
    obtain ⟨p, hpar⟩ := Option.ne_none_iff_exists'.mp hplaced
    have hel : s.document.isElement p = true := by
      rcases Document.mem_inside.mp (horder.mem_of_parent? hpar) with hmem | hmem
      · exact (horder.kinds_of_attribute hmem).2
      · have hno := horder.toLinked.not_isAttribute_of_mem_children hmem
        rw [ha] at hno
        simp at hno
    exact (helement hel).step hpar

/-! ## Carrying out what is offered -/

/-- The action would put something else than an element in the place of one. -/
def PlacesCompositor (m : ContentModel) (action : Action) : Prop :=
  ∃ a p after replaced, action = .chooseAlternative a p after replaced ∧
    m.kind? a ≠ some .element

/-- There is no way to put a compositor in the place of an element, and trying changes nothing. -/
theorem perform_of_compositor {a : ConstraintId} {p replaced : Handle} {after : Option Handle}
    (hk : s.workspace.model.kind? a ≠ some .element) :
    s.perform (.chooseAlternative a p after replaced) = (s, .error (s.unsupported a)) := by
  have hadd : s.addNode a p after = (s, .error (s.unsupported a)) := by simp [addNode, hk]
  rw [perform, chooseAlternative, hadd]
  rfl

/-- Everything else that is offered for an attached node can be done. -/
theorem perform_of_offered {action : Action} (hs : s.Tidy) (htree : s.workspace.model.TreeShaped)
    (hl : Workspace.Labelled s.workspace s.document h) (hb : s.workspace.binding? h = some c)
    (hin : s.document.isAttached h = true) (ho : s.Offered h c action)
    (hplain : ¬ PlacesCompositor s.workspace.model action) :
    ∃ k, (s.perform action).2 = .ok k := by
  cases ho with
  | addSibling he hpe _ =>
    obtain ⟨c', hb', hkind, -⟩ := hl.element he
    obtain rfl := Option.some.inj (hb.symm.trans hb')
    obtain ⟨hmem, hep⟩ := mem_elements_of_parentElement? hs he hpe
    have hafter := fun x (hx : some h = some x) =>
      (Document.mem_elements.mp (Option.some.inj hx ▸ hmem)).1
    obtain ⟨d, s', -, hadd, -⟩ := exists_addNode hs hkind hep hafter
    rw [perform, hadd]
    exact ⟨_, rfl⟩
  | @addChild before rest a he hcs hcan =>
    have hkind := htree.kind?_of_mem_contentElements (i := c) (j := a) (by rw [hcs]; simp)
    have hafter : ∀ x, ((s.document.elements h).filter (s.boundTo before)).getLast? = some x →
        x ∈ s.document.children h := fun x hx =>
      (Document.mem_elements.mp (List.mem_filter.mp (List.mem_of_getLast? hx)).1).1
    obtain ⟨d, s', -, hadd, -⟩ := exists_addNode hs hkind he hafter
    rw [perform, hadd]
    exact ⟨_, rfl⟩
  | addAttribute he hmem hnone =>
    obtain ⟨d, s', -, hadd, -⟩ :=
      exists_addAttribute hs (htree.kind?_of_mem_attributes hmem) he hnone
    rw [perform, hadd]
    exact ⟨_, rfl⟩
  | remove he hpe _ =>
    obtain ⟨s', hrem, -⟩ := removed_of_parentElement hs hpe
    rw [perform, hrem]
    exact ⟨_, rfl⟩
  | removeAttribute ha =>
    obtain ⟨p, hpe⟩ := exists_parentElement? hs ha hin
    obtain ⟨s', hrem, -⟩ := removed_of_parentElement hs hpe
    rw [perform, hrem]
    exact ⟨_, rfl⟩
  | @chooseAlternative p a he hpe _ _ =>
    -- an alternative that is no element is what the hypothesis leaves out
    have hkind : s.workspace.model.kind? a = some .element := by
      by_contra hno
      exact hplain ⟨_, _, _, _, rfl, hno⟩
    obtain ⟨s₁, s₂, -, -, -, -, hchoose⟩ := exists_chooseAlternative hs hkind he hpe
    rw [perform, hchoose]
    exact ⟨_, rfl⟩

/-- What is shown in a guided run is not stale. It succeeds when it is taken at once, unless it would
put a compositor in the place of an element: that is refused, and nothing changes. -/
theorem take_of_mem_offers (hr : Reached guided s seen) (hm : s.workspace.model.Built)
    (ho : o ∈ (s.offers h).2) :
    ((∃ k, ((s.offers h).1.take o).2 = .ok k) ↔
      ¬ PlacesCompositor s.workspace.model o.action) ∧
    ∀ a p after replaced, o.action = .chooseAlternative a p after replaced →
      s.workspace.model.kind? a ≠ some .element → (s.offers h).1.take o =
        ((s.offers h).1, .error (.unsupportedConstraint (s.workspace.model.name a))) := by
  have hshown : Reached guided (s.offers h).1 (seen ++ (s.offers h).2) :=
    hr.asked (r := .look h) trivial
  have hmodel : (s.offers h).1.workspace.model = s.workspace.model := (sameSeats_offers s h).model
  obtain ⟨c, hb, hmem⟩ := mem_makeOffers_of_mem_offers hr.staleOrFresh.2.1 ho
  generalize (s.offers h).1 = t at hshown hmodel hb hmem ⊢
  rw [← hmodel] at hm ⊢
  have htidy := hshown.staleOrFresh.1
  have hkempt : Kempt False False t := hshown.kempt hm.treeShaped False.elim
  have hoffered := offered_of_mem_makeOffers hmem
  have hin := isAttached_of_offered hkempt (hshown.attributesPlaced hm) hb hoffered
    (leavesAttributes_of_mem_makeOffers hmem)
  -- it is of the present revision of its node
  have hcurrent : t.isCurrent o = true := by
    obtain ⟨hanchor, hrev⟩ := anchor_of_mem_makeOffers hmem
    rw [isCurrent, hanchor, hrev, htidy.contains_of_bound hb, hin]
    simp
  rw [take, if_pos hcurrent]
  have hrefused : ∀ a p after replaced, o.action = .chooseAlternative a p after replaced →
      t.workspace.model.kind? a ≠ some .element →
      t.perform o.action = (t, .error (.unsupportedConstraint (t.workspace.model.name a))) := by
    intro a p after replaced haction hno
    rw [haction, perform_of_compositor hno]
    rfl
  refine ⟨⟨?_, perform_of_offered htidy hm.treeShaped (hkempt.tended.labelled h) hb hin hoffered⟩,
    hrefused⟩
  rintro ⟨k, hok⟩ ⟨a, p, after, replaced, haction, hno⟩
  rw [hrefused a p after replaced haction hno] at hok
  simp at hok

/-! ## A card -/

/-- A content model with either a phone, which may have a kind, or a mail and a page. -/
def card : ContentModel :=
  let m := (ContentModel.ofRoot (.ofElement "card" .once)).add ContentModel.root
    { kind := .choice }
  let m := m.1.add ⟨1⟩ (.ofElement "phone" .once)
  let m := m.1.add ⟨1⟩ { kind := .sequence }
  let m := m.1.add ⟨3⟩ (.ofElement "mail" .once)
  let m := m.1.add ⟨3⟩ (.ofElement "page" .once)
  (m.1.add ⟨2⟩ (.ofAttribute "kind" .optional)).1

theorem built_card : card.Built := by
  refine .add (.add (.add (.add (.add (.add (.ofRoot rfl) ?_) ?_) ?_) ?_) ?_) ?_ <;> decide

/-- The session of a new card, which has a phone. -/
def newCard : Session :=
  match create card {} {} with
  | .ok s => s
  | .error _ => start .empty card {} {}

theorem create_card : create card {} {} = .ok newCard := rfl

/-- The offer to put a mail and a page in the place of the phone. -/
def mailAndPageOffer : Offer where
  objective := ""
  anchor := ⟨2⟩
  revision := 0
  action := .chooseAlternative ⟨3⟩ ⟨1⟩ none ⟨2⟩

/-- The offer to give the phone a kind. -/
def kindOffer : Offer where
  objective := "kind"
  anchor := ⟨2⟩
  revision := 0
  action := .addAttribute ⟨6⟩ ⟨2⟩

/-- An offer that is shown for the phone of a new card is refused when it is taken at once. -/
theorem mailAndPage_refused : card.Built ∧ create card {} {} = .ok newCard ∧
    mailAndPageOffer ∈ (newCard.offers ⟨2⟩).2 ∧
    ((newCard.offers ⟨2⟩).1.take mailAndPageOffer).2 = .error (.unsupportedConstraint "") := by
  refine ⟨built_card, create_card, ?_, ?_⟩ <;> decide +kernel

/-- The phone can be given a kind, but no mail and page can be put in its place. -/
theorem kind_of_phone_taken :
    (∃ k, ((newCard.offers ⟨2⟩).1.take kindOffer).2 = .ok k) ∧
      ¬ ∃ k, ((newCard.offers ⟨2⟩).1.take mailAndPageOffer).2 = .ok k := by
  have hreached : Reached guided newCard [] := .created create_card
  have hmodel : newCard.workspace.model = card := model_create create_card
  have hbuilt : newCard.workspace.model.Built := hmodel ▸ built_card
  constructor
  · refine (take_of_mem_offers hreached hbuilt (o := kindOffer) (by decide +kernel)).1.mpr ?_
    rintro ⟨a, p, after, replaced, haction, -⟩
    simp [kindOffer] at haction
  · refine fun hok => (take_of_mem_offers hreached hbuilt (o := mailAndPageOffer)
      (by decide +kernel)).1.mp hok ⟨⟨3⟩, ⟨1⟩, none, ⟨2⟩, rfl, ?_⟩
    decide +kernel

end Session

end GuidedXml
