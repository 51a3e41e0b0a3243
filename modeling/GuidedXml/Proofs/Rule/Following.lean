/-
# Rules that follow the document

An edit does not check all rules again. One that adds nodes checks the rules that are short of
nodes, as it can supply one; one that removes nodes checks the rules that led to these. So an edit
can pass over a rule whose parameters lead elsewhere afterwards: one with positions, or one whose
first node comes to stand behind another.

The main statement says that nothing else can happen: as long as the edits of a run do not pass
over a rule in this way, whether the rule is satisfied and which nodes are recorded for it is what
the document says. A revalidation makes good what was passed over before.
-/
import GuidedXml.Proofs.Rule.Checking
import GuidedXml.Proofs.Rule.Comparing

namespace GuidedXml

open Document (Within)
open Schema (Constraint ConstraintId ContentModel SchemaFault)

/-! ## Edits that pass over a rule -/

/-- The parameters of the rule lead elsewhere after an edit that had no occasion to check it: none
of its nodes is gone, and, if the edit added something, the rule was not short of nodes. -/
structure Rule.PassedOver (r : Rule) (adds : Prop) (d d' : Document) : Prop where
  kept : ∀ k ∈ r.nodes d, d'.contains k = true
  full : adds → r.parameters.length ≤ (r.nodes d).length
  moved : ¬ r.Stays d d'

namespace Session

variable {s s' : Session} {r : Rule} {b : Bool} {d : Document} {h : Handle} {c : ConstraintId}
  {ns : List Handle}

/-- The rule is passed over in an action. Choosing an alternative is an addition and then a
removal. -/
def PassesOver (s : Session) (r : Rule) : Action → Prop
  | .addSibling c parent after =>
    r.PassedOver True s.document (s.addNode c parent (some after)).1.document
  | .addChild c parent after => r.PassedOver True s.document (s.addNode c parent after).1.document
  | .addAttribute c element =>
    r.PassedOver True s.document (s.addAttribute c element).1.document
  | .remove h | .removeAttribute h => r.PassedOver False s.document (s.removeNode h).1.document
  | .chooseAlternative c parent after replaced =>
    r.PassedOver True s.document (s.addNode c parent after).1.document ∨
      r.PassedOver False (s.addNode c parent after).1.document
        (s.chooseAlternative c parent after replaced).1.document

/-- The rule is passed over while a request is answered. -/
def Neglects (s : Session) (r : Rule) : Request → Prop
  | .take o => s.isCurrent o = true ∧ s.PassesOver r o.action
  | .addNode c parent after => s.PassesOver r (.addChild c parent after)
  | .addAttribute c element => s.PassesOver r (.addAttribute c element)
  | .remove h => s.PassesOver r (.remove h)
  | .choose c parent after replaced => s.PassesOver r (.chooseAlternative c parent after replaced)
  | .replace old source _ node =>
    r.PassedOver True s.document (s.replace old source node).1.document
  | .look _ | .setValue _ _ | .judge _ _ | .revalidate => False

/-! ## What the document says -/

/-- What the session takes to be so of the rule is what the document says. -/
def Follows (s : Session) (r : Rule) : Prop :=
  s.Takes r (r.holds s.document) (r.nodes s.document)

/-- What is taken to be so still follows the document if the rule stays. -/
theorem Takes.follows (ht : s.Takes r (r.holds d) (r.nodes d)) (hst : r.Stays d s.document) :
    s.Follows r := by
  unfold Follows
  rw [hst.holds, hst.nodes]
  exact ht

/-- Nodes that lie elsewhere do not belong to the rule. -/
theorem filter_nodes_of_out {d' : Document} (hd' : d'.Forest)
    (hout : ∀ k ∈ r.nodes d, ¬ d'.Within h k) :
    ((r.nodes d).filter fun k => k ∉ d'.subtree h) = r.nodes d := by
  rw [List.filter_eq_self]
  intro k hk
  rw [decide_eq_true_eq, Document.mem_subtree_iff hd']
  exact hout k hk

/-- After a check of the rules that are short of nodes, only a rule that was passed over can be
behind. -/
theorem Takes.follows_checkMissing {P : Handle → Bool}
    (ht : s.Takes r (r.holds d) ((r.nodes d).filter P))
    (hno : ¬ r.PassedOver True d s.document)
    (hkept : ∀ k ∈ r.nodes d, P k = true → s.document.contains k = true) :
    s.checkMissing.Follows r := by
  have hdoc : s.checkMissing.document = s.document := (judges_checkMissing s).document
  rcases ht.checkMissing with hnow | ⟨hfull, hold⟩
  · unfold Follows
    rw [hdoc]
    exact hnow
  · -- none of the nodes is gone, because there are still as many as there are parameters
    have hle := r.length_nodes_le d
    have hall : ∀ k ∈ r.nodes d, P k = true := by
      rw [← List.length_filter_eq_length_iff]
      have := List.length_filter_le P (r.nodes d)
      omega
    rw [List.filter_eq_self.mpr hall] at hold hfull
    refine hold.follows ?_
    rw [hdoc]
    by_contra hmoved
    exact hno ⟨fun k hk => hkept k hk (hall k hk), fun _ => hfull, hmoved⟩

/-- Nothing is behind where nothing has changed. -/
theorem Follows.unchanged (hf : s.Follows r) (hd : s.document.Linked) (hu : s.Unchanged s') :
    s'.Follows r := by
  have ht : s'.Takes r (r.holds s.document) (r.nodes s.document) :=
    Takes.congr hf (by rw [hu.rules]) (hu.workspace.recorded _)
  exact ht.follows (Rule.stays_of_keeps (fun k _ => hu.node? k) hd r)

/-- Every rule is followed after all were checked. -/
theorem follows_checkAllRules (s : Session) (r : Rule) : s.checkAllRules.Follows r := by
  have hdoc : s.checkAllRules.document = s.document := (judges_checkRules s _).document
  unfold Follows
  rw [hdoc]
  exact takes_checkAllRules s r

/-- A rule is followed after missing nodes were looked for. -/
theorem Follows.checkMissing (hf : s.Follows r) : s.checkMissing.Follows r := by
  unfold Follows
  rw [(judges_checkMissing s).document]
  exact (Takes.checkMissing hf).elim id And.right

/-- A rule is followed after a node was validated. -/
theorem Follows.validate (hf : s.Follows r) (h : Handle) : (s.validate h).Follows r := by
  unfold Follows
  rw [(judges_validate s h).document]
  exact Takes.validateAll hf [h]

/-- A rule is followed after several nodes were validated. -/
theorem Follows.validateAll (hf : s.Follows r) (hs : List Handle) :
    (s.validateAll hs).Follows r := by
  unfold Follows
  rw [(judges_validateAll s hs).document]
  exact Takes.validateAll hf hs

/-- What is in hand can be let go, as no parameter leads there. -/
theorem Follows.letGo (hf : s.Follows r) (hs : Poised (s, some h))
    (hd : s.document.discard h = .ok d) : (s.letGo h d).Follows r := by
  have hheld := hs.hand h rfl
  have hgone := Takes.letGo hf hs.sane.traced h d
  have hlinked : s.document.Linked := hs.sane.orderly.toLinked
  rw [filter_nodes_of_out hs.sane.orderly.forest fun k hk => hlinked.not_within_of_detached
    (Rule.within_of_mem_nodes hlinked hk) hheld.detached hheld.ne_top] at hgone
  exact hgone.follows (Rule.stays_of_keeps ((hs.pruned hd).keeps hlinked hheld.detached
    hheld.ne_top) hlinked r)

/-! ## Additions -/

/-- Nodes that were made belong to no rule yet. -/
theorem Takes.made {t : Workspace.Stage} {x : Option Handle} (ht : s.Takes r b ns)
    (hs : Poised (s, none)) (hc : s.workspace.create s.document c = (t, x)) :
    (s.withStage t).Takes r b ns := by
  have hb := (Workspace.builds_create hs.sane.toSound c).workspace
  rw [hc] at hb
  refine ht.congr rfl ?_
  show t.1.recorded.get? r.id = _
  rw [hb]

/-- A node that was made is in hand, and all others are as before. -/
theorem poised_made {t : Workspace.Stage} (hs : Poised (s, none))
    (hc : s.workspace.create s.document c = (t, some h)) :
    Poised (s.withStage t, some h) ∧ s.document.Extends t.2 := by
  have hmake : Move False True (s, none) (s.withStage t, some h) := .make hc
  have hgrows := (Workspace.create_loose hs.sane.toSound c).1
  rw [hc] at hgrows
  exact ⟨hmake.poised hs, hgrows.document⟩

/-- What lived before a creation lives after its result was linked. -/
theorem contains_of_relinked {t : Workspace.Stage} {k p : Handle} {taken given : Option Handle}
    (he : s.document.Extends t.2) (hr : t.2.Relinked d p taken given)
    (hk : s.document.contains k = true) : d.contains k = true := by
  rw [Document.contains_congr (hr.kind? k), Document.contains_congr (he.lookups hk).1]
  exact hk

/-- A rule is followed after a node was added, unless it was passed over. -/
theorem follows_addNode (hs : Poised (s, none)) (hf : s.Follows r) (c : ConstraintId)
    (parent : Handle) (after : Option Handle)
    (hno : ¬ r.PassedOver True s.document (s.addNode c parent after).1.document) :
    (s.addNode c parent after).1.Follows r := by
  have hlinked : s.document.Linked := hs.sane.orderly.toLinked
  rcases addNode_cases hs c parent after with ⟨fault, heq⟩ | ⟨t, ht, -, hrest⟩
  · rw [heq]
    exact hf
  · obtain ⟨hmade, hext⟩ := poised_made hs ht
    have htakes := Takes.made hf hs ht
    rcases hrest with ⟨d, fault, hd, heq⟩ | ⟨d, hd, heq⟩
    · -- what was made is let go again, and never had a place in the document
      rw [heq]
      have hstill : (s.withStage t).Follows r :=
        htakes.follows (Rule.stays_of_keeps hext.keeps hlinked r)
      exact hstill.letGo hmade hd
    · obtain ⟨hr, -⟩ := Document.relinked_insertAfter hmade.sane.orderly.toLinked hd
      rw [heq] at hno ⊢
      have hadopted : ((s.withStage t).adoptElement d parent s.document.next).Takes r
          (r.holds s.document) (r.nodes s.document) :=
        Takes.giveUp (s := s.withStage ({ t.1 with outline := t.1.outline.attach d _ }, d))
          (htakes.congr rfl rfl) parent
      rw [← List.filter_true (r.nodes s.document)] at hadopted
      refine (hadopted.follows_checkMissing ?_ ?_).validate _
      · rwa [(judges_validate _ _).document, (judges_checkMissing _).document] at hno
      · intro k hk _
        exact contains_of_relinked hext hr (Rule.within_of_mem_nodes hlinked hk).contains

/-- A rule is followed after an attribute was added, unless it was passed over. -/
theorem follows_addAttribute (hs : Poised (s, none)) (hf : s.Follows r) (c : ConstraintId)
    (element : Handle)
    (hno : ¬ r.PassedOver True s.document (s.addAttribute c element).1.document) :
    (s.addAttribute c element).1.Follows r := by
  have hlinked : s.document.Linked := hs.sane.orderly.toLinked
  rcases addAttribute_cases hs c element with
    ⟨fault, heq⟩ | ⟨t, d, displaced, u, ht, hplace, hposed, hcleared, heq⟩
  · rw [heq]
    exact hf
  · obtain ⟨hmade, hext⟩ := poised_made hs ht
    obtain ⟨hr, -⟩ := Document.relinked_placeAttribute hmade.sane.orderly.toLinked hplace
    have hplaced : Takes { s.withStage t with document := d } r (r.holds s.document)
        (r.nodes s.document) := (Takes.made hf hs ht).congr rfl rfl
    have hlive := fun k hk => contains_of_relinked (k := k) hext hr
      (Rule.within_of_mem_nodes (r := r) hlinked hk).contains
    -- the nodes of the rule are still there, but for those that were displaced
    obtain ⟨P, hu, hP⟩ : ∃ P : Handle → Bool,
        u.Takes r (r.holds s.document) ((r.nodes s.document).filter P) ∧
          ∀ k ∈ r.nodes s.document, P k = true → u.document.contains k = true := by
      cases hcleared with
      | nothing =>
        refine ⟨fun _ => true, ?_, fun k hk _ => hlive k hk⟩
        rw [List.filter_true]
        exact hplaced
      | @displaced old d' hd' =>
        have hpruned := hposed.pruned hd'
        refine ⟨fun k => k ∉ d.subtree old, ?_, ?_⟩
        · exact (Takes.letGo hplaced hposed.sane.traced old d').validateAll _
        · intro k hk hout
          rw [decide_eq_true_eq, Document.mem_subtree_iff hposed.sane.orderly.forest] at hout
          rw [(judges_validateAll _ _).document]
          exact hpruned.contains_iff.mpr ⟨hlive k hk, hout⟩
    rw [heq] at hno ⊢
    refine ((hu.giveUp element).follows_checkMissing ?_ hP).validate _
    rwa [(judges_validate _ _).document, (judges_checkMissing _).document] at hno

/-! ## Removals -/

/-- Once an old node is parted with, the session says of the rule what the document says, unless
none of the nodes of the rule is below the old one. -/
theorem Takes.partWith_held (ht : s.Takes r b (r.nodes d)) (hs : Poised (s, some h))
    (parent : Handle) :
    (s.partWith h parent).Follows r ∨
      (∀ k ∈ r.nodes d, ¬ s.document.Within h k) ∧ (s.partWith h parent).Takes r b (r.nodes d) := by
  rcases ht.partWith hs.sane.traced h parent with hnow | ⟨hout, hold⟩
  · left
    unfold Follows
    rw [document_partWith]
    exact hnow
  · refine Or.inr ⟨fun k hk hw => hout k hk ?_, hold⟩
    exact (Document.mem_subtree_iff hs.sane.orderly.forest).mpr hw

/-- A rule is followed after a node was removed, unless it was passed over. -/
theorem follows_removeNode (hs : Poised (s, none)) (hf : s.Follows r) (h : Handle)
    (hno : ¬ r.PassedOver False s.document (s.removeNode h).1.document) :
    (s.removeNode h).1.Follows r := by
  have hlinked : s.document.Linked := hs.sane.orderly.toLinked
  rcases removeNode_cases hs h with
    ⟨fault, heq⟩ | ⟨p, d, d', u, hp, hd, hposed, rfl, hd', heq⟩
  · rw [heq]
    exact hf
  · have htaken : (s.takeOut h d).Takes r (r.holds s.document) (r.nodes s.document) :=
      hf.congr rfl rfl
    have hparted := poised_partWith hposed h p
    rw [heq] at hno ⊢
    rw [(judges_validateAll _ _).document] at hno
    refine Follows.validateAll ?_ _
    rcases htaken.partWith_held hposed p with hnow | ⟨hout, hold⟩
    · exact hnow.letGo hparted hd'
    · -- the rule has kept its nodes, so it was passed over unless its parameters stay
      have hpruned := hparted.pruned hd'
      rw [document_partWith] at hpruned
      obtain ⟨hr, -⟩ := hs.relinked hp hd
      have hgone := hold.letGo hparted.sane.traced h d'
      rw [document_partWith, filter_nodes_of_out hposed.sane.orderly.forest hout] at hgone
      refine hgone.follows ?_
      by_contra hmoved
      refine hno ⟨fun k hk => hpruned.contains_iff.mpr ⟨?_, hout k hk⟩, not_false.elim, hmoved⟩
      show d.contains k = true
      rw [Document.contains_congr (hr.kind? k)]
      exact (Rule.within_of_mem_nodes hlinked hk).contains

/-- A rule is followed after an alternative was chosen, unless it was passed over. -/
theorem follows_chooseAlternative (hs : Poised (s, none)) (hf : s.Follows r) (c : ConstraintId)
    (parent : Handle) (after : Option Handle) (replaced : Handle)
    (hno : ¬ s.PassesOver r (.chooseAlternative c parent after replaced)) :
    (s.chooseAlternative c parent after replaced).1.Follows r := by
  obtain ⟨hadd, hremove⟩ := not_or.mp hno
  have hadded := follows_addNode hs hf c parent after hadd
  have hm : Moves False True (s, none) ((s.addNode c parent after).1, none) :=
    moves_addNode hs c parent after
  have hposed := hm.poised hs
  unfold chooseAlternative at hremove ⊢
  generalize s.addNode c parent after = added at hadded hposed hremove ⊢
  obtain ⟨u, fault | h⟩ := added
  · exact hadded
  · dsimp only at hremove hadded hposed ⊢
    have hdone := follows_removeNode hposed hadded replaced
    generalize u.removeNode replaced = removed at hremove hdone ⊢
    obtain ⟨u', fault | ⟨⟩⟩ := removed
    · exact hdone hremove
    · exact Takes.giveUp (hdone hremove) parent

/-! ## Replacements -/

/-- A rule is followed after a node was replaced, unless it was passed over. -/
theorem follows_replace (hs : Poised (s, none)) (hf : s.Follows r) (old node : Handle)
    {source : Document} (hsource : source.Linked)
    (hno : ¬ r.PassedOver True s.document (s.replace old source node).1.document) :
    (s.replace old source node).1.Follows r := by
  have hlinked : s.document.Linked := hs.sane.orderly.toLinked
  rcases replace_steps hs hsource old node with
    ⟨s', fault, heq, hun⟩ | ⟨c, p, d, d', e, w, new, u, -, hsw, hbind, hposed, rfl, he, heq⟩
  · rw [heq]
    exact hf.unchanged hlinked hun
  · have hparted := poised_partWith hposed old p
    have hshown : ((s.withStage (w, d')).showInstead old new).Takes r (r.holds s.document)
        (r.nodes s.document) := by
      have hw := (hsw.builds hs.sane c).workspace
      rw [hbind] at hw
      dsimp only at hw
      refine hf.congr rfl ?_
      show w.recorded.get? r.id = _
      rw [hw]
    rw [heq] at hno ⊢
    rw [(judges_validateAll _ _).document, (judges_validate _ _).document,
      (judges_checkMissing _).document] at hno
    refine Follows.validateAll (Follows.validate ?_ _) _
    rcases hshown.partWith_held hposed p with hnow | ⟨hout, hold⟩
    · exact (hnow.letGo hparted he).checkMissing
    · have hpruned := hparted.pruned he
      have hgone := hold.letGo hparted.sane.traced old e
      rw [document_partWith] at hpruned hgone
      rw [filter_nodes_of_out hposed.sane.orderly.forest hout,
        ← List.filter_true (r.nodes s.document)] at hgone
      refine hgone.follows_checkMissing hno fun k hk _ => ?_
      have hlive := (Rule.within_of_mem_nodes hlinked hk).contains
      refine hpruned.contains_iff.mpr ⟨?_, hout k hk⟩
      show d'.contains k = true
      rw [Document.contains_congr (hsw.kind? hlive)]
      exact hlive

/-! ## Values -/

/-- Setting a value is never neglect: the rules that led to the node are checked. -/
theorem follows_setValue (hs : Poised (s, none)) (hf : s.Follows r) (h : Handle)
    (value : String) : (s.setValue h value).1.Follows r := by
  rcases setValue_eq hs h value with ⟨fault, heq⟩ | ⟨c, d, u, hbound, hd, hu, heq⟩
  · rw [heq]
    exact hf
  · have heq' := s.rewritten_eq h c value d
    rw [← hu] at heq'
    have hwritten : u.Takes r (r.holds s.document) (r.nodes s.document) := by
      rw [heq']
      exact hf.congr rfl rfl
    have hdoc : u.document = d := by rw [heq']
    have hchecked : (u.checkRules (u.workspace.rulesOf h)).document = d :=
      (judges_checkRules u _).document.trans hdoc
    rw [heq]
    refine Follows.validate ?_ h
    by_cases hid : r.id ∈ u.workspace.rulesOf h
    · have hnow := takes_checkRules_of_mem u hid
      unfold Follows
      rw [hchecked, ← hdoc]
      exact hnow
    · -- a rule in force that the node does not know of has not led there
      intro b hb
      have hforce := hb
      rw [state?_checkRules, if_neg hid] at hforce
      have hout : h ∉ r.nodes s.document := by
        intro hmem
        have hrec : h ∈ s.workspace.recorded.getD r.id [] := by
          rw [heq'] at hforce
          rw [Table.getD, (hf b hforce).2]
          exact hmem
        refine hid ?_
        rw [heq']
        exact hs.sane.traced.mem_rulesOf hrec
      have htext := Workspace.not_isText_of_kinds (hs.sane.kinds hbound)
      refine (hwritten.checkRules hid).follows ?_ b hb
      rw [hchecked]
      exact Rule.stays_of_setValue hs.sane.orderly hd htext hout

/-! ## Runs -/

/-- A revalidation checks all rules. -/
theorem follows_revalidate (s : Session) (r : Rule) : s.revalidate.1.Follows r :=
  revalidate_induction (P := fun s => s.Follows r) (fun _ h hf => hf.validate h) s
    (follows_checkAllRules s r)

/-- A request keeps what is known of a rule right, unless it neglects the rule. -/
theorem follows_answer (hs : Poised (s, none)) (hf : s.Follows r) (q : Request)
    (hno : ¬ s.Neglects r q) : (s.answer q).1.Follows r := by
  have hperform : ∀ a, ¬ s.PassesOver r a → (s.perform a).1.Follows r := by
    intro a hno
    cases a with
    | addSibling c parent after => exact follows_addNode hs hf c parent _ hno
    | addChild c parent after => exact follows_addNode hs hf c parent after hno
    | addAttribute c element => exact follows_addAttribute hs hf c element hno
    | remove node => exact follows_removeNode hs hf node hno
    | removeAttribute node => exact follows_removeNode hs hf node hno
    | chooseAlternative c parent after replaced =>
      exact follows_chooseAlternative hs hf c parent after replaced hno
  cases q with
  | look h =>
    obtain ⟨os, heq⟩ := exists_offers s h
    show (s.offers h).1.Follows r
    rw [heq]
    exact hf.congr rfl rfl
  | take o =>
    show (s.take o).1.Follows r
    unfold take
    split
    · rename_i hcur
      exact hperform _ fun ha => hno ⟨hcur, ha⟩
    · exact hf
  | addNode c parent after => exact follows_addNode hs hf c parent after hno
  | addAttribute c element => exact follows_addAttribute hs hf c element hno
  | remove h => exact follows_removeNode hs hf h hno
  | choose c parent after replaced =>
    exact follows_chooseAlternative hs hf c parent after replaced hno
  | setValue h value => exact follows_setValue hs hf h value
  | replace old source linked h => exact follows_replace hs hf old h linked hno
  | judge h deep =>
    exact verdictOn_induction (P := fun s => s.Follows r) (fun _ h hf => hf.validate h) s h deep hf
  | revalidate => exact follows_revalidate s r

/-- Every rule is followed when a session begins. -/
theorem follows_begin (s : Session) (r : Rule) : s.begin.Follows r :=
  follows_checkAllRules _ r

/-- A run leads to this session that has neglected the rule at no time since the session was opened
or all rules were last checked. -/
inductive Minded (r : Rule) : Session → Prop
  | created {m : ContentModel} {rules : RuleBook} {settings : Settings} {s : Session} :
      create m rules settings = .ok s → Minded r s
  | loaded {xml : String} {modelOf : String → Except SchemaFault ContentModel} {rules : RuleBook}
      {settings : Settings} {s : Session} :
      load xml modelOf rules settings = .ok s → Minded r s
  | revalidated {s : Session} : Arises atWill s → Minded r (s.answer .revalidate).1
  | asked {s : Session} {q : Request} :
      Minded r s → ¬ s.Neglects r q → Minded r (s.answer q).1
  | notified {s : Session} (n : Notice) : Minded r s → Minded r (s.notify n)
  | noticed {s : Session} : Minded r s → Minded r s.takeNotices.1

/-- A session where a rule was minded arises by requests. -/
theorem Minded.arises (hm : Minded r s) : Arises atWill s := by
  induction hm with
  | created hc => exact .created hc
  | loaded hl => exact .loaded hl
  | revalidated ha => exact .asked ha trivial
  | asked _ _ ih => exact .asked ih trivial
  | notified n _ ih => exact .notified n ih
  | noticed _ ih => exact .noticed ih

/-- As long as a run does not neglect the rule, what is known of it is right. -/
theorem Minded.follows (hm : Minded r s) : s.Follows r := by
  induction hm with
  | created hc =>
    obtain ⟨t, h, d, -, -, rfl⟩ := create_eq_begin hc
    exact follows_begin _ r
  | loaded hl =>
    obtain ⟨d, m, -, ho⟩ := load_eq_ok hl
    obtain ⟨root, w, -, -, rfl⟩ := ofDocument_eq_begin ho
    exact follows_begin _ r
  | revalidated ha => exact follows_revalidate _ r
  | @asked s q hm hq ih => exact follows_answer hm.arises.poised ih q hq
  | notified n _ ih => exact ih
  | noticed _ ih => exact ih

/-- In every session of a run that does not neglect a rule in force: the rule is satisfied exactly
if it holds of the document, and the nodes recorded for it are those that its parameters lead to. -/
theorem isSatisfied_eq_holds (hm : Minded r s) {e : RuleBook.Entry}
    (he : s.rules.get? r.id = some e) (hr : e.rule = r) :
    s.rules.isSatisfied r.id = r.holds s.document ∧
      s.workspace.recorded.get? r.id = some (r.nodes s.document) := by
  have hstate : s.rules.state? r.id = some (r, e.satisfied) := by
    rw [RuleBook.state?, he, Option.map_some, hr]
  obtain ⟨hsat, hrec⟩ := hm.follows _ hstate
  exact ⟨(RuleBook.isSatisfied_of_state? hstate).trans hsat, hrec⟩

/-! ## A scan -/

/-- A content model with any number of blocks, each of which can say how fast it is. -/
def scan : ContentModel :=
  let m := (ContentModel.ofRoot (.ofElement "scan" .once)).add ContentModel.root
    { kind := .sequence }
  let m := m.1.add ⟨1⟩ (.ofElement "block" ⟨1, none⟩)
  let m := m.1.add ⟨2⟩ { kind := .sequence }
  (m.1.add ⟨3⟩ ((Constraint.ofElement "tr" .optional).typed "string")).1

/-- Checking a rule that holds tells the user nothing. -/
theorem checkRules_of_holds {id : RuleId} {e : RuleBook.Entry} (he : s.rules.get? id = some e)
    (hh : e.rule.holds s.document = true) (hw : e.waiting = []) :
    s.checkRules [id] = { s with
      workspace := s.workspace.recordRule id (e.rule.nodes s.document)
      rules := { s.rules with entries := s.rules.entries.insert id { e with satisfied := true } }
      diagnostics := s.diagnostics.insert id (e.rule.diagnostics s.document) } := by
  unfold checkRules
  simp only [RuleBook.evaluate, he, List.foldl_cons, List.foldl_nil]
  unfold noteEvaluation
  simp [RuleBook.isSatisfied, RuleBook.get?, RuleBook.Entry.evaluation, RuleBook.Entry.after, hh, hw]

/-- The first block to say how fast it is has to be fast. -/
def fastRule : Rule where
  id := "fast"
  parameters := [⟨"TR", "tr", "scan.block.tr.CONTENT"⟩]
  conclusion := [⟨"edlValidation_strIsEqual(TR, 'fast')"⟩]
  message := "too slow"

/-- The rule holds exactly if the value of its parameter is the text that it asks for. -/
theorem holds_fastRule {v : String} (hv : fastRule.values d "TR" = some v) :
    fastRule.holds d = decide (v = "fast") := by
  have ht := Literal.truth_of_comparison (l := ⟨"edlValidation_strIsEqual(TR, 'fast')"⟩)
    (t := "fast") (by decide +kernel) (by decide) hv
  simp only [Rule.holds, Rule.premiseHolds, Rule.literalHolds, fastRule, List.all_nil,
    List.all_cons, Bool.not_true, Bool.false_or, Bool.and_true] at ht ⊢
  rw [ht]
  split <;> simp [*]

/-- A scan whose second block is fast. -/
def fastScan : Document :=
  match Document.read "<scan><block/><block><tr>fast</tr></block></scan>" with
  | .ok d => d
  | .error _ => .empty

/-- The text of the scan is read as its document. -/
theorem read_fastScan :
    Document.read "<scan><block/><block><tr>fast</tr></block></scan>" = .ok fastScan := by
  have hok : (Document.read "<scan><block/><block><tr>fast</tr></block></scan>").toBool = true := by
    decide +kernel
  unfold fastScan
  generalize Document.read "<scan><block/><block><tr>fast</tr></block></scan>" = read at hok
  cases read with
  | ok d => rfl
  | error fault => cases hok

/-- The session of the scan before the rule is checked. -/
def unchecked : Session :=
  let s := start fastScan scan (.ofRules [fastRule]) {}
  { s with workspace :=
      { (s.workspace.bind fastScan ⟨1⟩ ContentModel.root).1 with outline := .ofDocument fastScan } }

/-- The session of the scan. -/
def scanned : Session :=
  { unchecked with
    workspace := unchecked.workspace.recordRule "fast" [⟨4⟩]
    rules := { unchecked.rules with
      entries := unchecked.rules.entries.insert "fast" { rule := fastRule, satisfied := true } }
    diagnostics := unchecked.diagnostics.insert "fast" (fastRule.diagnostics fastScan) }

/-- Checking all rules leads to the scan that was opened. -/
theorem checkAllRules_unchecked : unchecked.checkAllRules = scanned := by
  have hdoc : unchecked.document = fastScan := rfl
  have hvalue : fastRule.values unchecked.document "TR" = some "fast" := by
    decide +kernel
  have hnodes : fastRule.nodes fastScan = [⟨4⟩] := by
    decide +kernel
  have hforce : unchecked.rules.get? "fast" = some { rule := fastRule } := rfl
  have hchecked := checkRules_of_holds hforce (holds_fastRule hvalue) rfl
  rw [hdoc, hnodes] at hchecked
  exact hchecked

/-- The scan is opened by reading its text. -/
theorem load_scanned :
    load "<scan><block/><block><tr>fast</tr></block></scan>" (fun _ => .ok scan)
      (.ofRules [fastRule]) {} = .ok scanned := by
  have hroot : fastScan.root? = some ⟨1⟩ := by
    decide +kernel
  have hbound : ((start fastScan scan (.ofRules [fastRule]) {}).workspace.bind fastScan ⟨1⟩
      ContentModel.root).2 = true := by
    decide +kernel
  rw [← checkAllRules_unchecked]
  simp only [load, read_fastScan, hroot, ofDocument, unchecked]
  generalize Workspace.bind _ _ _ _ = bound at hbound
  obtain ⟨w, ok⟩ := bound
  cases hbound
  rfl

/-- The scan once the first block says something, too. -/
def rescan : Session :=
  (scanned.answer (.addNode ⟨4⟩ ⟨2⟩ none)).1

/-- A rule is passed over when its parameter leads to a new node before the old one. -/
theorem isSatisfied_rescan :
    Arises atWill rescan ∧ (rescan.rules.get? "fast").map RuleBook.Entry.rule = some fastRule ∧
      rescan.rules.isSatisfied "fast" = true ∧ fastRule.holds rescan.document = false ∧
      rescan.workspace.recorded.get? "fast" = some [⟨4⟩] ∧
      fastRule.nodes rescan.document = [⟨6⟩] := by
  obtain ⟨hforce, hsatisfied, hrecorded, hnodes, hvalue⟩ :
      (rescan.rules.get? "fast").map RuleBook.Entry.rule = some fastRule ∧
        rescan.rules.isSatisfied "fast" = true ∧
        rescan.workspace.recorded.get? "fast" = some [⟨4⟩] ∧
        fastRule.nodes rescan.document = [⟨6⟩] ∧
        fastRule.values rescan.document "TR" = some "" := by
    decide +kernel
  have harises : Arises atWill rescan :=
    .asked (s := scanned) (r := .addNode ⟨4⟩ ⟨2⟩ none) (.loaded load_scanned) trivial
  have hholds : fastRule.holds rescan.document = false := by
    rw [holds_fastRule hvalue]
    decide
  exact ⟨harises, hforce, hsatisfied, hholds, hrecorded, hnodes⟩

/-- The scan with a third block. -/
def widened : Session :=
  (scanned.answer (.addNode ⟨2⟩ ⟨1⟩ (some ⟨3⟩))).1

/-- A block behind the others does not lead the parameter elsewhere. -/
theorem minded_widened : Minded fastRule widened := by
  have hstays : fastRule.Stays scanned.document
      (scanned.addNode ⟨2⟩ ⟨1⟩ (some ⟨3⟩)).1.document := by
    decide +kernel
  have hno : ¬ scanned.Neglects fastRule (.addNode ⟨2⟩ ⟨1⟩ (some ⟨3⟩)) := fun hp => hp.moved hstays
  exact .asked (s := scanned) (q := .addNode ⟨2⟩ ⟨1⟩ (some ⟨3⟩)) (.loaded load_scanned) hno

/-- After the rule was minded, the session says of it what the document says. -/
theorem isSatisfied_widened :
    widened.rules.isSatisfied fastRule.id = fastRule.holds widened.document ∧
      widened.workspace.recorded.get? fastRule.id = some (fastRule.nodes widened.document) := by
  have hforce : (widened.rules.get? fastRule.id).map RuleBook.Entry.rule = some fastRule := by
    decide +kernel
  obtain ⟨e, he, hr⟩ := Option.map_eq_some_iff.mp hforce
  exact isSatisfied_eq_holds minded_widened he hr

end Session

end GuidedXml
