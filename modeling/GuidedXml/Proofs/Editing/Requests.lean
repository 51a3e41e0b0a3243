/-
# Requests as moves

Every request, whether it is done or refused, is a run of moves that begins and ends with nothing in
hand. What moves keep is kept by requests for that reason.

The main statements say this for all requests, and that most edits change nothing when they are
refused. Requests that spare texts are runs of sparing moves.
-/
import GuidedXml.Proofs.Editing.Run
import GuidedXml.Proofs.Editing.Undoing

namespace GuidedXml.Session

open Schema (ConstraintId ContentModel SchemaFault)

variable {sparing writing : Prop} {s s' : Session} {t t' : Stance} {x : Option Handle}
  {d : Document} {h k p parent : Handle} {c : ConstraintId}

/-! ## Common steps -/

/-- Judging may follow any moves. -/
theorem Moves.judge (hm : Moves sparing writing t (s, x)) (hj : Judges s s') :
    Moves sparing writing t (s', x) :=
  hm.tail (.judge hj)

/-- Giving up offers may follow any moves. -/
theorem Moves.giveUp (hm : Moves sparing writing t (s, x)) (p : Handle) : Moves sparing writing t
    ({ s with workspace := s.workspace.invalidate s.document p }, x) :=
  hm.tail (.giveUp p)

/-- An edit is clean if it is refused without any change, or done in moves. -/
inductive Clean (sparing writing : Prop) (s : Session) {α : Type} : Edited α → Prop
  | refused {s' : Session} {fault : EditFault} : s.Unchanged s' →
      Clean sparing writing s (s', .error fault)
  | done {s' : Session} {a : α} : Moves sparing writing (s, none) (s', none) →
      Clean sparing writing s (s', .ok a)

/-- What is done cleanly is done by moves. -/
theorem Clean.moves {α : Type} {r : Edited α} (hc : Clean sparing writing s r) :
    Moves sparing writing (s, none) (r.1, none) := by
  cases hc with
  | refused hu => exact Moves.single (.undo hu)
  | done hm => exact hm

/-- What fails cleanly leaves everything unchanged. -/
theorem Clean.unchanged {α : Type} {fault : EditFault}
    (hc : Clean sparing writing s ((s', .error fault) : Edited α)) : s.Unchanged s' := by
  cases hc with
  | refused hu => exact hu

/-- What is in hand can be forgotten for good. -/
theorem moves_forgetForGood (sparing writing : Prop) (hs : Poised (s, some h)) :
    ∃ s', s.forgetForGood h = (s', .ok ()) ∧ Moves sparing writing (s, some h) (s', none) := by
  obtain ⟨d, hdiscard⟩ := hs.exists_discard
  unfold forgetForGood
  rw [hdiscard]
  exact ⟨_, rfl, (Moves.single (.discard hdiscard)).judge (judges_validateAll _ _)⟩

/-! ## Additions -/

/-- A node made in vain is taken back by moves. -/
theorem moves_takeBack (hs : Poised (s, some h)) (fault : Fault) :
    Moves sparing writing (s, some h) ((s.takeBack h fault).1, none) := by
  obtain ⟨d, hdiscard⟩ := hs.exists_discard
  unfold takeBack
  rw [hdiscard]
  exact Moves.single (.discard hdiscard)

/-- A node is added by moves. -/
theorem moves_addNode (hs : Poised (s, none)) (c : ConstraintId) (parent : Handle)
    (after : Option Handle) :
    Moves sparing writing (s, none) ((s.addNode c parent after).1, none) := by
  unfold addNode
  split
  · exact Moves.refl _
  · rename_i hk
    rw [not_not] at hk
    cases hf : s.elementFault? parent with
    | some fault => exact Moves.refl _
    | none =>
      obtain ⟨e, he, hkind⟩ := exists_of_kind? hk
      obtain ⟨hsome, hraise, -⟩ := Workspace.create_of_element hs.sane.toSound he hkind
      obtain ⟨t, ht⟩ : ∃ t, s.workspace.create s.document c = (t, some s.document.next) :=
        ⟨_, Prod.ext rfl hsome⟩
      rw [ht] at hraise ⊢
      have hmake : Move sparing writing (s, none) (s.withStage t, some s.document.next) := .make ht
      have hmade := hmake.poised hs
      have hparent := isElement_of_elementFault? hf
      have hlive := Document.contains_of_isElement hparent
      rw [← Document.isElement_congr (hraise.document.lookups hlive).1] at hparent
      dsimp only
      -- there may be no place behind the node that was named, and then the new one is taken back
      split
      · exact (Moves.single hmake).trans (moves_takeBack hmade _)
      · rename_i d hd
        have hinsert : Move sparing writing (s.withStage t, _) _ := .insert hparent
          hraise.isElement (Document.index_lt_of_contains hlive) hd
        exact (((Moves.single hmake).tail hinsert).giveUp parent).judge
          ((judges_checkMissing _).trans (judges_validate _ _))

/-- Attributes are added unless it is clear from the beginning that they cannot be. -/
theorem clean_addAttribute (hs : Poised (s, none)) (c : ConstraintId) (element : Handle) :
    Clean sparing writing s (s.addAttribute c element) := by
  unfold addAttribute
  split
  · exact .refused (Unchanged.refl s)
  · rename_i hk
    rw [not_not] at hk
    cases hf : s.elementFault? element with
    | some fault => exact .refused (Unchanged.refl s)
    | none =>
      obtain ⟨e, he, hkind⟩ := exists_of_kind? hk
      obtain ⟨hsome, hg, hl, hattr, -⟩ := Workspace.create_of_attribute hs.sane.toSound he hkind
      obtain ⟨t, ht⟩ : ∃ t, s.workspace.create s.document c = (t, some s.document.next) :=
        ⟨_, Prod.ext rfl hsome⟩
      rw [ht] at hg hl hattr ⊢
      have hmake : Move sparing writing (s, none) (s.withStage t, some s.document.next) := .make ht
      have helement := isElement_of_elementFault? hf
      have hlive := Document.contains_of_isElement helement
      rw [← Document.isElement_congr (hg.document.lookups hlive).1] at helement
      obtain ⟨⟨d, displaced⟩, hplace⟩ :=
        Document.placeAttribute_of_canHold helement hattr hl.detached
      have hgive : Move sparing writing (s.withStage t, some s.document.next)
          ({ s.withStage t with document := d }, displaced) :=
        .give (Document.index_lt_of_contains hlive) hplace
      have hmoves := (Moves.single hmake).tail hgive
      dsimp only
      rw [show (s.withStage t).document.placeAttribute element s.document.next =
        .ok (d, displaced) from hplace]
      dsimp only
      -- an attribute that lost its place is in hand now, and has to be forgotten
      cases displaced with
      | none =>
        exact .done ((hmoves.giveUp element).judge
          ((judges_checkMissing _).trans (judges_validate _ _)))
      | some old =>
        obtain ⟨s', hforget, hm⟩ := moves_forgetForGood sparing writing (hmoves.poised hs)
        dsimp only
        rw [hforget]
        exact .done (((hmoves.trans hm).giveUp element).judge
          ((judges_checkMissing _).trans (judges_validate _ _)))

/-! ## Removals -/

/-- What is inside an element can be removed, and nothing else. -/
theorem clean_removeNode (hs : Poised (s, none)) (h : Handle)
    (hspare : sparing → s.document.isText h = false) :
    Clean sparing writing s (s.removeNode h) := by
  unfold removeNode
  split
  · exact .refused (Unchanged.refl s)
  · cases hpe : s.parentElement? h with
    | none => exact .refused (Unchanged.refl s)
    | some parent =>
      obtain ⟨hp, he⟩ := parent?_of_parentElement? hpe
      obtain ⟨d, hdetach, -⟩ := Document.relinked_detach hs.sane.orderly.toLinked hp
      dsimp only
      rw [hdetach]
      let outline := if d.isElement h then s.workspace.outline.detach h else s.workspace.outline
      let u := s.withStage ({ s.workspace with outline := outline }, d)
      have hmove : Move sparing writing (s, none) (u, some h) := .detach hpe hspare hdetach
      have hmoves := ((Moves.single hmove).judge
        (judges_checkRules u (u.workspace.rulesOfSubtree u.document h))).giveUp parent
      obtain ⟨s', hforget, hm⟩ := moves_forgetForGood sparing writing (hmoves.poised hs)
      have hdone := Clean.done (a := ()) (hmoves.trans hm)
      rw [← hforget] at hdone
      exact hdone

/-! ## Replacements -/

/-- An alternative is chosen by moves. -/
theorem moves_chooseAlternative (hs : Poised (s, none)) (c : ConstraintId) (parent : Handle)
    (after : Option Handle) (replaced : Handle)
    (hspare : sparing → ∀ s' k, s.addNode c parent after = (s', .ok k) →
      s'.document.isText replaced = false) :
    Moves sparing writing (s, none) ((s.chooseAlternative c parent after replaced).1, none) := by
  have hadd : Moves sparing writing (s, none) ((s.addNode c parent after).1, none) :=
    moves_addNode hs c parent after
  unfold chooseAlternative
  split
  · rename_i s₁ fault heq
    rw [heq] at hadd
    exact hadd
  · rename_i s₁ h heq
    rw [heq] at hadd
    have hremove := hadd.trans (clean_removeNode (hadd.poised hs) replaced
      fun hsp => hspare hsp s₁ h heq).moves
    split
    · rename_i s₂ fault heq₂
      rw [heq₂] at hremove
      exact hremove
    · rename_i s₂ heq₂
      rw [heq₂] at hremove
      exact hremove.giveUp parent

/-- Once the copy is bound, it takes over. -/
theorem moves_takeOver (sparing writing : Prop) (parent : Handle) {old new : Handle}
    (hs : Poised ({ s with workspace := { s.workspace with
      outline := (s.workspace.outline.detach old).attach s.document new } }, some old)) :
    ∃ s', s.takeOver parent old new = (s', .ok new) ∧
      Moves sparing writing ({ s with workspace := { s.workspace with
        outline := (s.workspace.outline.detach old).attach s.document new } }, some old)
        (s', none) := by
  generalize hu : ({ s with workspace := { s.workspace with
    outline := (s.workspace.outline.detach old).attach s.document new } } : Session) = u at hs ⊢
  unfold takeOver
  dsimp only
  rw [hu]
  generalize hv : u.checkRules _ = v
  have hjudged : Judges u v := hv ▸ judges_checkRules u _
  have hstill : Moves sparing writing (u, some old) (u, some old) := Moves.refl _
  have hgiven := (hstill.judge hjudged).giveUp parent
  generalize v.workspace.invalidate v.document parent = w at hgiven ⊢
  obtain ⟨d, hdiscard⟩ := (hgiven.poised hs).exists_discard
  have hdone := hgiven.tail (.discard hdiscard)
  dsimp only at hdiscard
  rw [hdiscard]
  exact ⟨_, rfl, hdone.judge (((judges_checkMissing _).trans (judges_validate _ new)).trans
    (judges_validateAll _ _))⟩

/-- A node is replaced cleanly. -/
theorem clean_replace (hs : Poised (s, none)) {source : Document} (hsource : source.Linked)
    (old node : Handle) : Clean sparing writing s (s.replace old source node) := by
  rcases replace_cases hs.sane hsource old node with
    ⟨s', fault, heq, hun⟩ | ⟨c, p, d, d', w, new, hb, hp, hcopy, hreplace, hbind, heq⟩
  · rw [heq]
    exact .refused hun
  · have hmove : Move sparing writing (s, none) _ :=
      .exchange hsource hb hp hcopy hreplace hbind
    obtain ⟨s', htake, hm⟩ := moves_takeOver sparing writing p (s := s.withStage (w, d'))
      (hmove.poised hs)
    rw [heq, htake]
    exact .done ((Moves.single hmove).trans hm)

/-! ## Values -/

/-- A value is set cleanly. -/
theorem clean_setValue (hs : Poised (s, none)) (hwrite : writing) (h : Handle) (value : String) :
    Clean sparing writing s (s.setValue h value) := by
  rcases setValue_cases hs.sane h value with ⟨fault, heq⟩ | ⟨s', heq, -⟩
  · rw [heq]
    exact .refused (Unchanged.refl s)
  · rw [heq]
    exact .done (Moves.single (.setValue hwrite heq))

/-! ## Sparing requests -/

/-- The action removes no text: it may remove elements and attributes. -/
def Spares (s : Session) : Action → Prop
  | .remove h | .removeAttribute h => s.document.isText h = false
  | .chooseAlternative c parent after replaced => ∀ s' k, s.addNode c parent after = (s', .ok k) →
    s'.document.isText replaced = false
  | .addSibling _ _ _ | .addChild _ _ _ | .addAttribute _ _ => True

/-- The request removes no text. -/
def SparesTexts (s : Session) : Request → Prop
  | .take o => s.isCurrent o = true → s.Spares o.action
  | .remove h => s.Spares (.remove h)
  | .choose c parent after replaced => s.Spares (.chooseAlternative c parent after replaced)
  | .look _ | .addNode _ _ _ | .addAttribute _ _ | .setValue _ _ | .replace _ _ _ _ | .judge _ _
  | .revalidate => True

/-- Every action that is allowed is done by moves. -/
theorem moves_perform (hs : Poised (s, none)) {a : Action} (hspare : sparing → s.Spares a) :
    Moves sparing writing (s, none) ((s.perform a).1, none) := by
  cases a with
  | addSibling c parent after => exact moves_addNode hs c parent _
  | addChild c parent after => exact moves_addNode hs c parent after
  | addAttribute c element => exact (clean_addAttribute hs c element).moves
  | remove node => exact (clean_removeNode hs node hspare).moves
  | removeAttribute node => exact (clean_removeNode hs node hspare).moves
  | chooseAlternative c parent after replaced =>
    exact moves_chooseAlternative hs c parent after replaced hspare

/-- Every request is a run of moves. Requests that spare texts are runs of sparing moves, and no
request but one to set a value is writing. -/
theorem moves_answer (hs : Poised (s, none)) (r : Request) (hspare : sparing → s.SparesTexts r)
    (hwrite : ∀ h value, r = .setValue h value → writing) :
    Moves sparing writing (s, none) ((s.answer r).1, none) := by
  cases r with
  | look h => exact Moves.single (.look h)
  | take o =>
    show Moves sparing writing (s, none) ((s.take o).1, none)
    unfold take
    split
    · rename_i hcur
      exact moves_perform hs fun hsp => hspare hsp hcur
    · exact Moves.refl _
  | addNode c parent after => exact moves_addNode hs c parent after
  | addAttribute c element => exact (clean_addAttribute hs c element).moves
  | remove h => exact (clean_removeNode hs h hspare).moves
  | choose c parent after replaced =>
    exact moves_chooseAlternative hs c parent after replaced hspare
  | setValue h value => exact (clean_setValue hs (hwrite h value rfl) h value).moves
  | replace old source linked h => exact (clean_replace hs linked old h).moves
  | judge h deep => exact Moves.single (.judge (judges_verdictOn s h deep))
  | revalidate => exact Moves.single (.judge (judges_revalidate s))

/-! ## Runs -/

/-- A run leads to this session: it is opened and then asked for requests, each of them allowed at
the time. Meanwhile others may tell the user something, and the user may take the notices. -/
inductive Arises (allowed : Session → Request → Prop) : Session → Prop
  | created {m : ContentModel} {rules : RuleBook} {settings : Settings} {s : Session} :
      create m rules settings = .ok s → Arises allowed s
  | loaded {xml : String} {modelOf : String → Except SchemaFault ContentModel} {rules : RuleBook}
      {settings : Settings} {s : Session} :
      load xml modelOf rules settings = .ok s → Arises allowed s
  | asked {s : Session} {r : Request} :
      Arises allowed s → allowed s r → Arises allowed (s.answer r).1
  | notified {s : Session} (n : Notice) : Arises allowed s → Arises allowed (s.notify n)
  | noticed {s : Session} : Arises allowed s → Arises allowed s.takeNotices.1

/-- What arises by some requests arises where more are allowed. -/
theorem Arises.mono {allowed allowed' : Session → Request → Prop} (ha : Arises allowed s)
    (hallowed : ∀ s r, allowed s r → allowed' s r) : Arises allowed' s := by
  induction ha with
  | created hc => exact .created hc
  | loaded hl => exact .loaded hl
  | asked _ hr ih => exact ih.asked (hallowed _ _ hr)
  | notified n _ ih => exact ih.notified n
  | noticed _ ih => exact ih.noticed

/-- Any request is allowed at any time. -/
def atWill (_ : Session) (_ : Request) : Prop :=
  True

/-- What is reached by offers arises by requests. -/
theorem Reached.arises {allowed : List Offer → Request → Prop} {seen : List Offer}
    (hr : Reached allowed s seen) : Arises atWill s := by
  induction hr with
  | created hc => exact .created hc
  | loaded hl => exact .loaded hl
  | asked _ _ ih => exact ih.asked trivial

end GuidedXml.Session
