/-
# Runs of sessions

A run opens a session and then asks it for one thing after the other. Offers that were shown are
remembered, so that it can be told which of them are still good.

The main statements say that opened sessions are tidy, and what one request and a whole run preserve.
-/
import GuidedXml.Proofs.Editing.Edits
import GuidedXml.Proofs.Markup.Reading

namespace GuidedXml

open Schema (ConstraintId ContentModel SchemaFault)

namespace Session

variable {s s' : Session}

/-! ## Opening -/

/-- A session that has just begun: nothing is offered yet. -/
structure Opened (s : Session) : Prop where
  tidy : s.Tidy
  offers : ∀ h, s.workspace.offers.get? h = none

/-- At the start a session has just begun. -/
theorem opened_start {d : Document} (hd : d.Orderly) (m : ContentModel) (rules : RuleBook)
    (settings : Settings) : (start d m rules settings).Opened := by
  have hunbound : ∀ k, (start d m rules settings).workspace.binding? k = none := fun _ => rfl
  refine ⟨⟨⟨hd, ?_⟩, ?_⟩, fun _ => rfl⟩
  · intro k c hk
    rw [hunbound] at hk
    simp at hk
  · intro h os hos
    replace hos : none = some os := hos
    simp at hos

/-- What drifts from a session without offers has none. -/
theorem Opened.drift {D : Handle → Prop} (hs : s.Opened) (hd : Drifts D s s') : s'.Opened where
  tidy := hd.tidy
  offers := by
    intro h
    cases ho : s'.workspace.offers.get? h with
    | none => rfl
    | some os =>
      have := hd.kept h os ho
      rw [hs.offers] at this
      simp at this

/-- Where there is no outermost element, installing one places it below the document. -/
theorem setRoot_of_root?_eq_none {d d' : Document} {h : Handle} (hr : d.root? = none)
    (hs : d.setRoot h = (d', .ok ())) : d.append Document.top h = .ok d' := by
  unfold Document.setRoot at hs
  rw [hr] at hs
  simp only at hs
  cases ha : d.append Document.top h with
  | error fault => rw [ha] at hs; simp at hs
  | ok d'' =>
    rw [ha] at hs
    simp only [Prod.mk.injEq, and_true] at hs
    rw [hs]

/-- A new session begins with the element that was created for the root as its outermost one. -/
theorem create_eq_begin {m : ContentModel} {rules : RuleBook} {settings : Settings}
    (hc : create m rules settings = .ok s) : ∃ stage h d,
      (start .empty m rules settings).workspace.create .empty ContentModel.root =
        (stage, some h) ∧ stage.2.append Document.top h = .ok d ∧
      s = begin { (start .empty m rules settings).withStage stage with document := d } := by
  have hstart := opened_start Document.orderly_empty m rules settings
  obtain ⟨hg, -⟩ := Workspace.create_loose hstart.tidy.sound ContentModel.root
  have hempty : (start .empty m rules settings).document = .empty := rfl
  unfold create at hc
  dsimp only at hc
  rw [hempty] at hc hg
  generalize (start .empty m rules settings).workspace.create .empty ContentModel.root =
    created at hc hg ⊢
  obtain ⟨stage, node⟩ := created
  cases node with
  | none => simp at hc
  | some h =>
    dsimp only at hc
    have hroot : stage.2.root? = none := by
      have hold := (hg.document.lookups hstart.tidy.linked.contains_top).2.2.2.2
      rw [Document.root?, Document.elements, hold]
      rfl
    cases hset : stage.2.setRoot h with
    | mk d result =>
      have hset' : (withStage (start .empty m rules settings) stage).document.setRoot h =
        (d, result) := hset
      rw [hset'] at hc
      cases result with
      | error fault => simp at hc
      | ok u =>
        obtain rfl := Except.ok.inj hc
        exact ⟨stage, h, d, rfl, setRoot_of_root?_eq_none hroot hset, rfl⟩

/-- A session is created by creating the root, putting it into the document and checking. -/
theorem create_eq_ok {m : ContentModel} {rules : RuleBook} {settings : Settings}
    (hc : create m rules settings = .ok s) : ∃ stage h d,
      (start .empty m rules settings).workspace.create .empty ContentModel.root =
        (stage, some h) ∧ stage.2.append Document.top h = .ok d ∧
      Alike { (start .empty m rules settings).withStage stage with document := d } s := by
  obtain ⟨stage, h, d, hcreate, happend, rfl⟩ := create_eq_begin hc
  exact ⟨stage, h, d, hcreate, happend, alike_begin _⟩

/-- A session that was created has just begun. -/
theorem opened_create {m : ContentModel} {rules : RuleBook} {settings : Settings}
    (hc : create m rules settings = .ok s) : s.Opened := by
  have hstart := opened_start Document.orderly_empty m rules settings
  obtain ⟨hg, hloose⟩ := Workspace.create_loose hstart.tidy.sound ContentModel.root
  obtain ⟨stage, h, d, hcreate, happend, halike⟩ := create_eq_ok hc
  have hempty : (start .empty m rules settings).document = .empty := rfl
  rw [hempty] at hg hloose
  rw [hcreate] at hg hloose
  have hl := hloose h rfl
  have hgrown := drifts_of_grows hstart.tidy hg
  obtain ⟨hr, hpl, -⟩ := Document.relinked_append hgrown.tidy.linked happend
  have horder : d.Orderly := by
    refine hr.orderly hgrown.tidy.orderly ?_ (by intro x hx; simp at hx)
    intro x hx
    obtain rfl := Option.some.inj hx
    exact ⟨hpl.canHold, Nat.lt_of_lt_of_le
      (Document.index_lt_of_contains hstart.tidy.linked.contains_top) hl.new⟩
  have hrooted := hgrown.trans (drifts_of_relinked hgrown.tidy hr horder)
  exact hstart.drift (hrooted.alike halike)

/-- A session with a given document begins with that document, bound completely. -/
theorem ofDocument_eq_begin {d : Document} {m : ContentModel} {rules : RuleBook}
    {settings : Settings} (ho : ofDocument d m rules settings = .ok s) : ∃ r w,
      d.root? = some r ∧
      (start d m rules settings).workspace.bind d r ContentModel.root = (w, true) ∧
      s = begin { start d m rules settings with workspace := w } := by
  unfold ofDocument at ho
  cases hr : d.root? with
  | none => rw [hr] at ho; simp at ho
  | some r =>
    rw [hr] at ho
    simp only at ho
    cases hb : (start d m rules settings).workspace.bind d r ContentModel.root with
    | mk w bound =>
      rw [hb] at ho
      cases bound with
      | false => simp at ho
      | true =>
        obtain rfl := Except.ok.inj ho
        exact ⟨r, w, rfl, hb, rfl⟩

/-- A session on a document is one whose root was bound, and that was checked then. -/
theorem ofDocument_eq_ok {d : Document} {m : ContentModel} {rules : RuleBook}
    {settings : Settings} (ho : ofDocument d m rules settings = .ok s) : ∃ r w,
      d.root? = some r ∧
      (start d m rules settings).workspace.bind d r ContentModel.root = (w, true) ∧
      Alike { start d m rules settings with workspace := w } s := by
  obtain ⟨r, w, hr, hb, rfl⟩ := ofDocument_eq_begin ho
  exact ⟨r, w, hr, hb, alike_begin _⟩

/-- A session on an orderly document has just begun. -/
theorem opened_ofDocument {d : Document} (hd : d.Orderly) {m : ContentModel} {rules : RuleBook}
    {settings : Settings} (ho : ofDocument d m rules settings = .ok s) : s.Opened := by
  have hstart := opened_start hd m rules settings
  obtain ⟨r, w, -, hb, halike⟩ := ofDocument_eq_ok ho
  have hrebinds := Workspace.rebinds_bind hd.toLinked (start d m rules settings).workspace r
    ContentModel.root
  rw [hb] at hrebinds
  have hbound : Opened { start d m rules settings with workspace := w } := by
    refine ⟨⟨⟨hd, ?_⟩, ?_⟩, ?_⟩
    · intro k c hk
      by_cases hkr : d.Within r k
      · exact hkr.contains
      · exact hstart.tidy.contains_of_bound ((hrebinds.binding? k hkr).symm.trans hk)
    · intro h os hos
      replace hos : w.offers.get? h = some os := hos
      rw [hrebinds.offers] at hos
      replace hos : none = some os := hos
      simp at hos
    · intro h
      exact (congrArg (fun t : Table Handle (List Offer) => t.get? h) hrebinds.offers)
  exact hbound.drift (halike.drifts hbound.tidy)

/-- A loaded session has the document that was written. -/
theorem load_eq_ok {xml : String} {modelOf : String → Except SchemaFault ContentModel}
    {rules : RuleBook} {settings : Settings} (hl : load xml modelOf rules settings = .ok s) :
    ∃ d m, Document.read xml = .ok d ∧ ofDocument d m rules settings = .ok s := by
  unfold load at hl
  cases hd : Document.read xml with
  | error fault => rw [hd] at hl; simp at hl
  | ok d =>
    rw [hd] at hl
    simp only at hl
    cases hr : d.root? with
    | none => rw [hr] at hl; simp at hl
    | some r =>
      rw [hr] at hl
      simp only at hl
      cases hm : modelOf (d.name r) with
      | error fault => rw [hm] at hl; simp at hl
      | ok m =>
        rw [hm] at hl
        exact ⟨d, m, rfl, hl⟩

/-- A session on a document that was read has just begun. -/
theorem opened_load {xml : String} {modelOf : String → Except SchemaFault ContentModel}
    {rules : RuleBook} {settings : Settings} (hl : load xml modelOf rules settings = .ok s) :
    s.Opened := by
  obtain ⟨d, m, hd, ho⟩ := load_eq_ok hl
  exact opened_ofDocument (Document.orderly_of_read hd) ho

/-! ## Requests -/

/-- What a session can be asked for. A document that nodes are copied from has its links in
order. -/
inductive Request where
  /-- Show the offers for a node. -/
  | look (node : Handle)
  | take (offer : Offer)
  | addNode (constraint : ConstraintId) (parent : Handle) (after : Option Handle)
  | addAttribute (constraint : ConstraintId) (element : Handle)
  | remove (node : Handle)
  | choose (constraint : ConstraintId) (parent : Handle) (after : Option Handle)
      (replaced : Handle)
  | setValue (node : Handle) (value : String)
  | replace (old : Handle) (source : Document) (linked : source.Linked) (node : Handle)
  | judge (node : Handle) (deep : Bool)
  | revalidate

/-- The session after a request, done or refused, and the offers shown. -/
def answer (s : Session) : Request → Session × List Offer
  | .look h => s.offers h
  | .take o => ((s.take o).1, [])
  | .addNode c parent after => ((s.addNode c parent after).1, [])
  | .addAttribute c element => ((s.addAttribute c element).1, [])
  | .remove h => ((s.removeNode h).1, [])
  | .choose c parent after replaced => ((s.chooseAlternative c parent after replaced).1, [])
  | .setValue h value => ((s.setValue h value).1, [])
  | .replace old source _ h => ((s.replace old source h).1, [])
  | .judge h deep => ((s.verdictOn h deep).1, [])
  | .revalidate => (s.revalidate.1, [])

/-- A run that opened a session and asked it for requests of the kind allowed leads to this session,
and showed these offers on the way. -/
inductive Reached (allowed : List Offer → Request → Prop) : Session → List Offer → Prop
  | created {m : ContentModel} {rules : RuleBook} {settings : Settings} {s : Session} :
      create m rules settings = .ok s → Reached allowed s []
  | loaded {xml : String} {modelOf : String → Except SchemaFault ContentModel} {rules : RuleBook}
      {settings : Settings} {s : Session} :
      load xml modelOf rules settings = .ok s → Reached allowed s []
  | asked {s : Session} {seen : List Offer} {r : Request} :
      Reached allowed s seen → allowed seen r →
      Reached allowed (s.answer r).1 (seen ++ (s.answer r).2)

/-- Any request is allowed. -/
def anything (_ : List Offer) (_ : Request) : Prop :=
  True

/-- A request that shows no offers leaves nothing dirty. -/
theorem drifts_answer (hs : s.Tidy) (r : Request) (hr : ∀ h, r ≠ .look h) :
    Drifts (fun _ => False) s (s.answer r).1 ∧ (s.answer r).2 = [] := by
  cases r with
  | look h => exact absurd rfl (hr h)
  | take o => exact ⟨drifts_take hs o, rfl⟩
  | addNode c parent after => exact ⟨drifts_addNode hs c parent after, rfl⟩
  | addAttribute c element => exact ⟨drifts_addAttribute hs c element, rfl⟩
  | remove h => exact ⟨drifts_removeNode hs h, rfl⟩
  | choose c parent after replaced =>
    exact ⟨drifts_chooseAlternative hs c parent after replaced, rfl⟩
  | setValue h value => exact ⟨drifts_setValue hs h value, rfl⟩
  | replace old source linked h => exact ⟨drifts_replace hs old linked h, rfl⟩
  | judge h deep => exact ⟨(alike_verdictOn s h deep).drifts hs, rfl⟩
  | revalidate => exact ⟨(alike_revalidate s).drifts hs, rfl⟩

end Session

end GuidedXml
