/-
# Outcomes of edits

What an edit comes to, with its branches peeled off: it is refused at once, or it goes through a few
stages, none of which can fail. Beside the moves that an edit is made of, this tells which rules it
checks and which verdicts it finds.

The main statements say this for each of the edits, and that every session of a run is poised.
-/
import GuidedXml.Proofs.Conformance.Kempt

namespace GuidedXml.Session

open Schema (ConstraintId ContentModel)

variable {s s' : Session} {d d' : Document} {h k p parent : Handle} {c : ConstraintId}
  {allowed : Session → Request → Prop}

/-! ## Poised sessions -/

/-- A session is poised when it begins. -/
theorem poised_begin (hs : Poised (s, none)) : Poised (s.begin, none) := by
  let u : Session :=
    { s with workspace := { s.workspace with outline := .ofDocument s.document } }
  have hu : Poised (u, none) := ⟨hs.sane.outline _, hs.hand⟩
  have hm : Move True True (u, none) (s.begin, none) := .judge (judges_checkRules u u.rules.ids)
  exact hm.poised hu

/-- A session that was created is poised. -/
theorem poised_create {m : ContentModel} {rules : RuleBook} {settings : Settings}
    (hc : create m rules settings = .ok s) : Poised (s, none) := by
  obtain ⟨t, h, d, hcreate, happend, rfl⟩ := create_eq_begin hc
  have hstart : Poised (start .empty m rules settings, none) :=
    poised_start Document.orderly_empty
  have hmake : Move True True (start .empty m rules settings, none)
      ((start .empty m rules settings).withStage t, some h) := .make hcreate
  have hmade := hmake.poised hstart
  obtain ⟨hr, hpl, -⟩ := Document.relinked_append hmade.sane.orderly.toLinked happend
  have horder : d.Orderly := by
    refine hr.orderly hmade.sane.orderly ?_ (by intro x hx; simp at hx)
    intro x hx
    obtain rfl := Option.some.inj hx
    have hne := (hmade.hand h rfl).ne_top
    exact ⟨hpl.canHold, Nat.pos_of_ne_zero fun h0 => hne (congrArg Handle.mk h0)⟩
  exact poised_begin ⟨hmade.sane.relinked hr horder, by simp⟩

/-- A session on an orderly document is poised. -/
theorem poised_ofDocument {m : ContentModel} {rules : RuleBook} {settings : Settings}
    (hd : d.Orderly) (ho : ofDocument d m rules settings = .ok s) : Poised (s, none) := by
  obtain ⟨r, w, -, hbind, rfl⟩ := ofDocument_eq_begin ho
  have hstart : Poised (start d m rules settings, none) := poised_start hd
  have hbuilds := Workspace.builds_bind (w := (start d m rules settings).workspace) (n := 0)
    (h := r) hd (Nat.zero_le _) (fun _ _ => rfl) ContentModel.root
  rw [hbind] at hbuilds
  have hw := hbuilds.workspace
  dsimp only [start] at hw
  refine poised_begin ⟨Workspace.sane_of_blank (hbuilds.sound hstart.sane.toSound)
    (hbuilds.regular hstart.sane.toSound hstart.sane.toRegular) ?_, by simp⟩
  show w = _
  rw [hw]

/-- Whatever was asked for, between two requests everything is sane and nothing is in hand. -/
theorem Arises.poised (ha : Arises allowed s) : Poised (s, none) := by
  induction ha with
  | created hc => exact poised_create hc
  | loaded hl =>
    obtain ⟨d, m, hread, ho⟩ := load_eq_ok hl
    exact poised_ofDocument (Document.orderly_of_read hread) ho
  | @asked s r _ _ ih =>
    have hm : Moves False True (s, none) ((s.answer r).1, none) :=
      moves_answer ih r not_false.elim fun _ _ _ => trivial
    exact hm.poised ih
  | notified n _ ih => exact ⟨ih.sane, ih.hand⟩
  | noticed _ ih => exact ⟨ih.sane, ih.hand⟩

/-! ## Stages of edits -/

/-- Finding verdicts changes nothing but verdicts. -/
theorem validateAll_eq (s : Session) (hs : List Handle) :
    s.validateAll hs = { s with workspace := { s.workspace with
      verdicts := (s.validateAll hs).workspace.verdicts } } := by
  have hone : ∀ (s : Session) (h : Handle), s.validate h = { s with workspace := { s.workspace with
      verdicts := (s.validate h).workspace.verdicts } } := by
    intro s h
    unfold validate
    split_ifs <;> rfl
  unfold validateAll
  induction hs generalizing s with
  | nil => rfl
  | cons h hs ih =>
    rw [List.foldl_cons, ih, hone s h]

/-- Looking at a node changes nothing but the offers that are kept. -/
theorem exists_offers (s : Session) (h : Handle) : ∃ os, (s.offers h).1 =
    { s with workspace := { s.workspace with offers := os } } := by
  unfold offers
  split
  · exact ⟨s.workspace.offers, rfl⟩
  · split
    · exact ⟨s.workspace.offers, rfl⟩
    · exact ⟨_, rfl⟩

/-- The session once a node is forgotten and discarded. -/
def letGo (s : Session) (h : Handle) (d : Document) : Session :=
  s.withStage ((s.workspace.forget s.document h).1, d)

/-- The session once a node is out of its place in the document, and no longer shown. -/
def takeOut (s : Session) (h : Handle) (d : Document) : Session :=
  let outline := if d.isElement h then s.workspace.outline.detach h else s.workspace.outline
  s.withStage ({ s.workspace with outline := outline }, d)

/-- The session once a new element is shown instead of an old one. -/
def showInstead (s : Session) (old new : Handle) : Session :=
  { s with workspace := { s.workspace with
    outline := (s.workspace.outline.detach old).attach s.document new } }

/-- The session once an old node is out of its place: the rules about it are checked, and the offers
around it are given up. -/
def partWith (s : Session) (old parent : Handle) : Session :=
  let s := s.checkRules (s.workspace.rulesOfSubtree s.document old)
  { s with workspace := s.workspace.invalidate s.document parent }

/-- Parting with a node leaves the document. -/
theorem document_partWith (s : Session) (old parent : Handle) :
    (s.partWith old parent).document = s.document :=
  (judges_checkRules s _).document

/-- Parting with a node leaves the session poised. -/
theorem poised_partWith {x : Option Handle} (hs : Poised (s, x)) (old parent : Handle) :
    Poised (s.partWith old parent, x) := by
  have hm : Moves False True (s, x) (s.partWith old parent, x) :=
    ((Moves.refl _).judge (judges_checkRules s _)).giveUp parent
  exact hm.poised hs

/-- What is in hand is let go, and the nodes that come to own names by that are validated. -/
theorem forgetForGood_eq (hs : Poised (s, some h)) : ∃ d, s.document.discard h = .ok d ∧
    s.forgetForGood h =
      ((s.letGo h d).validateAll (s.workspace.forget s.document h).2, .ok ()) := by
  obtain ⟨d, hd⟩ := hs.exists_discard
  refine ⟨d, hd, ?_⟩
  unfold forgetForGood
  rw [hd]
  rfl

/-! ## Additions -/

/-- Adding an element is refused at once, or the element is made, and then it finds no place and is
let go, or it is adopted. -/
theorem addNode_cases (hs : Poised (s, none)) (c : ConstraintId) (parent : Handle)
    (after : Option Handle) :
    (∃ fault, s.addNode c parent after = (s, .error fault)) ∨
      ∃ t, s.workspace.create s.document c = (t, some s.document.next) ∧
        t.2.isElement s.document.next = true ∧
        ((∃ d fault, t.2.discard s.document.next = .ok d ∧ s.addNode c parent after =
            ((s.withStage t).letGo s.document.next d, .error fault)) ∨
          ∃ d, t.2.insertAfter parent after s.document.next = .ok d ∧ s.addNode c parent after =
            ((((s.withStage t).adoptElement d parent s.document.next).checkMissing).validate
              s.document.next, .ok s.document.next)) := by
  unfold addNode
  split
  · exact Or.inl ⟨_, rfl⟩
  · rename_i hk
    rw [not_not] at hk
    cases hf : s.elementFault? parent with
    | some fault => exact Or.inl ⟨_, rfl⟩
    | none =>
      obtain ⟨e, he, hkind⟩ := exists_of_kind? hk
      obtain ⟨hsome, hraise, -⟩ := Workspace.create_of_element hs.sane.toSound he hkind
      obtain ⟨t, ht⟩ : ∃ t, s.workspace.create s.document c = (t, some s.document.next) :=
        ⟨_, Prod.ext rfl hsome⟩
      have hmake : Move False True (s, none) (s.withStage t, some s.document.next) := .make ht
      rw [ht] at hraise ⊢
      refine Or.inr ⟨t, rfl, hraise.isElement, ?_⟩
      dsimp only
      split
      · rename_i fault _
        obtain ⟨d, hd⟩ := (hmake.poised hs).exists_discard
        refine Or.inl ⟨d, .document fault, hd, ?_⟩
        unfold takeBack
        rw [hd]
        rfl
      · rename_i d hd
        exact Or.inr ⟨d, hd, rfl⟩

/-- The session once an attribute has its place, and the one that it displaced is let go. -/
inductive Cleared (s : Session) (d : Document) : Option Handle → Session → Prop
  | nothing : Cleared s d none { s with document := d }
  | displaced {old : Handle} {d' : Document} : d.discard old = .ok d' → Cleared s d (some old)
      ((letGo { s with document := d } old d').validateAll (s.workspace.forget d old).2)

/-- Adding an attribute is refused at once, or done. -/
theorem addAttribute_cases (hs : Poised (s, none)) (c : ConstraintId) (element : Handle) :
    (∃ fault, s.addAttribute c element = (s, .error fault)) ∨
      ∃ t d displaced u, s.workspace.create s.document c = (t, some s.document.next) ∧
        t.2.placeAttribute element s.document.next = .ok (d, displaced) ∧
        Poised ({ s.withStage t with document := d }, displaced) ∧
        Cleared (s.withStage t) d displaced u ∧ s.addAttribute c element =
          ((({ u with workspace := u.workspace.invalidate u.document element }).checkMissing).validate
            s.document.next, .ok s.document.next) := by
  unfold addAttribute
  split
  · exact Or.inl ⟨_, rfl⟩
  · rename_i hk
    rw [not_not] at hk
    cases hf : s.elementFault? element with
    | some fault => exact Or.inl ⟨_, rfl⟩
    | none =>
      obtain ⟨e, he, hkind⟩ := exists_of_kind? hk
      obtain ⟨hsome, hg, hl, hattr, -⟩ := Workspace.create_of_attribute hs.sane.toSound he hkind
      obtain ⟨t, ht⟩ : ∃ t, s.workspace.create s.document c = (t, some s.document.next) :=
        ⟨_, Prod.ext rfl hsome⟩
      rw [ht] at hg hl hattr ⊢
      -- the attribute is in hand between the two moves
      have hmake : Move False True (s, none) (s.withStage t, some s.document.next) := .make ht
      have helement := isElement_of_elementFault? hf
      have hlive := Document.contains_of_isElement helement
      rw [← Document.isElement_congr (hg.document.lookups hlive).1] at helement
      obtain ⟨⟨d, displaced⟩, hplace⟩ :=
        Document.placeAttribute_of_canHold helement hattr hl.detached
      have hgive : Move False True (s.withStage t, some s.document.next)
          ({ s.withStage t with document := d }, displaced) :=
        .give (Document.index_lt_of_contains hlive) hplace
      have hgiven := hgive.poised (hmake.poised hs)
      refine Or.inr ⟨t, d, displaced, ?_⟩
      dsimp only
      rw [show (s.withStage t).document.placeAttribute element s.document.next =
        .ok (d, displaced) from hplace]
      dsimp only
      cases displaced with
      | none => exact ⟨_, rfl, hplace, hgiven, .nothing, rfl⟩
      | some old =>
        obtain ⟨d', hd', heq⟩ := forgetForGood_eq hgiven
        dsimp only
        rw [heq]
        exact ⟨_, rfl, hplace, hgiven, .displaced hd', rfl⟩

/-! ## Removals -/

/-- Removing a node is refused at once, or done. -/
theorem removeNode_cases (hs : Poised (s, none)) (h : Handle) :
    (∃ fault, s.removeNode h = (s, .error fault)) ∨
      ∃ p d d' u, s.parentElement? h = some p ∧ s.document.detach h = .ok d ∧
        Poised (s.takeOut h d, some h) ∧ u = (s.takeOut h d).partWith h p ∧
        u.document.discard h = .ok d' ∧ s.removeNode h =
          ((u.letGo h d').validateAll (u.workspace.forget u.document h).2, .ok ()) := by
  unfold removeNode
  split
  · exact Or.inl ⟨_, rfl⟩
  · cases hpe : s.parentElement? h with
    | none => exact Or.inl ⟨_, rfl⟩
    | some p =>
      obtain ⟨hp, -⟩ := parent?_of_parentElement? hpe
      obtain ⟨d, hdetach, -⟩ := Document.relinked_detach hs.sane.orderly.toLinked hp
      have hmove : Move False True (s, none) (s.takeOut h d, some h) :=
        .detach hpe not_false.elim hdetach
      have htaken := hmove.poised hs
      obtain ⟨d', hd', heq⟩ := forgetForGood_eq (poised_partWith htaken h p)
      refine Or.inr ⟨p, d, d', _, rfl, hdetach, htaken, rfl, hd', ?_⟩
      dsimp only
      rw [hdetach]
      exact heq

/-! ## Replacements -/

/-- Taking over from an old element cannot fail. -/
theorem takeOver_eq {old new : Handle} (hs : Poised (s.showInstead old new, some old))
    (parent : Handle) :
    ∃ d u, u = (s.showInstead old new).partWith old parent ∧ u.document.discard old = .ok d ∧
      s.takeOver parent old new = (((u.letGo old d).checkMissing.validate new).validateAll
        (u.workspace.forget u.document old).2, .ok new) := by
  obtain ⟨d, hd⟩ := (poised_partWith hs old parent).exists_discard
  refine ⟨d, _, rfl, hd, ?_⟩
  unfold takeOver
  dsimp only
  split
  · rename_i hfail
    cases hfail.symm.trans hd
  · rename_i hdone
    obtain rfl := Except.ok.inj (hdone.symm.trans hd)
    rfl

/-- A replacement is refused without any change, or the copy is shown instead of the old element,
which is then parted with and let go. -/
theorem replace_steps (hs : Poised (s, none)) {source : Document} (hsource : source.Linked)
    (old node : Handle) :
    (∃ s' fault, s.replace old source node = (s', .error fault) ∧ s.Unchanged s') ∨
      ∃ c p d d' e w new u, s.workspace.binding? old = some c ∧
        Swapped s.workspace p old new s.document d d' ∧
        s.workspace.bind d' new c = (w, true) ∧
        Poised ((s.withStage (w, d')).showInstead old new, some old) ∧
        u = ((s.withStage (w, d')).showInstead old new).partWith old p ∧
        u.document.discard old = .ok e ∧ s.replace old source node =
          (((u.letGo old e).checkMissing.validate new).validateAll
            (u.workspace.forget u.document old).2, .ok new) := by
  rcases replace_cases hs.sane hsource old node with
    hrefused | ⟨c, p, d, d', w, new, hb, hp, hcopy, hreplace, hbind, heq⟩
  · exact Or.inl hrefused
  · have hmove : Move False True (s, none) ((s.withStage (w, d')).showInstead old new, some old) :=
      .exchange hsource hb hp hcopy hreplace hbind
    have hposed := hmove.poised hs
    obtain ⟨e, u, hu, he, htake⟩ := takeOver_eq hposed p
    exact Or.inr ⟨c, p, d, d', e, w, new, u, hb, hs.swapped hsource hp hcopy hreplace, hbind,
      hposed, hu, he, heq.trans htake⟩

/-! ## Values -/

/-- The session once a node shows another value, and its claims are changed accordingly. -/
def rewritten (s : Session) (h : Handle) (c : ConstraintId) (value : String) (d : Document) :
    Session :=
  if s.workspace.isNaming c && s.document.value h ≠ value then
    claimName { s.giveUpName h with document := d } h value
  else { s with document := d }

/-- Where a value was written, the document changes and what is known of names. -/
theorem rewritten_eq (s : Session) (h : Handle) (c : ConstraintId) (value : String)
    (d : Document) : s.rewritten h c value d = { s with
      document := d
      workspace := { s.workspace with
        claims := s.reclaimed h c value
        verdicts := (s.rewritten h c value d).workspace.verdicts } } := by
  have hgiven : s.giveUpName h = { s with workspace := { s.workspace with
      claims := (s.workspace.claims.release (s.document.value h) h).1
      verdicts := (s.giveUpName h).workspace.verdicts } } := validateAll_eq _ _
  unfold rewritten reclaimed
  split_ifs
  · unfold claimName
    rw [hgiven]
  · rfl

/-- Setting a value is refused at once, or done. -/
theorem setValue_eq (hs : Poised (s, none)) (h : Handle) (value : String) :
    (∃ fault, s.setValue h value = (s, .error fault)) ∨
      ∃ c d u, s.workspace.binding? h = some c ∧ s.document.setValue h value = .ok d ∧
        u = s.rewritten h c value d ∧ s.setValue h value =
          ((u.checkRules (u.workspace.rulesOf h)).validate h, .ok ()) := by
  unfold setValue
  cases hb : s.workspace.binding? h with
  | none => exact Or.inl ⟨_, rfl⟩
  | some c =>
    dsimp only
    split
    · exact Or.inl ⟨_, rfl⟩
    · obtain ⟨d, hd⟩ := Document.exists_setValue hs.sane.orderly (hs.sane.kinds hb) value
      refine Or.inr ⟨c, d, _, rfl, hd, rfl, ?_⟩
      dsimp only at hd
      unfold rewritten
      by_cases hren : (s.workspace.isNaming c && s.document.value h ≠ value) = true
      · rw [if_pos hren, (judges_giveUpName s h).document]
        dsimp only
        rw [hd]
        dsimp only
        rw [if_pos hren, if_pos hren]
      · rw [if_neg hren, hd]
        dsimp only
        rw [if_neg hren, if_neg hren]

end GuidedXml.Session
