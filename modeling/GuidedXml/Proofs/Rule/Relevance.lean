/-
# Which rules are about which nodes

That a rule is about a node is written down three times: among the rules of the node, among the
nodes that the rule has led to, and in the verdict kept for the node. Evaluating rules, finding
verdicts and forgetting nodes have to change all of them alike.

The main statements say that the three accounts agree in every session that arises, and that rules
have led to nodes of the document alone. Meanwhile a rule may have led to what is in hand, as rules
are evaluated before a node that lost its place is forgotten.
-/
import GuidedXml.Proofs.Rule.Notifying

namespace GuidedXml

open Document (Within)
open Schema (ConstraintId ContentModel)

/-! ## Accounts -/

namespace Workspace

variable {w w' : Workspace} {d : Document} {h k : Handle} {r : RuleId}

/-- The verdicts kept name the rules about their nodes, in the same order. -/
def Quoted (w : Workspace) : Prop :=
  ∀ k v, w.verdicts.get? k = some v → v.rules = w.rulesOf k

/-- A rule is about the nodes that it has led to and no others, it is listed once for each of them,
and the verdicts say the same. -/
structure Accounted (w : Workspace) : Prop where
  mem_iff : ∀ r k, r ∈ w.rulesOf k ↔ k ∈ w.recorded.getD r []
  nodup : ∀ k, (w.rulesOf k).Nodup
  quoted : w.Quoted

/-- An empty workspace is accounted for. -/
theorem accounted_empty (m : ContentModel) (whitelist : List String) :
    Accounted { model := m, whitelist := whitelist } where
  mem_iff := fun _ _ => iff_of_false List.not_mem_nil List.not_mem_nil
  nodup := fun _ => List.nodup_nil
  quoted := by
    intro k v hv
    replace hv : none = some v := hv
    simp at hv

/-- The accounts of the two workspaces are the same. -/
structure SameAccounts (w w' : Workspace) : Prop where
  verdicts : ∀ k, w'.verdicts.get? k = w.verdicts.get? k
  relevant : ∀ k, w'.relevant.get? k = w.relevant.get? k
  recorded : ∀ r, w'.recorded.get? r = w.recorded.get? r

theorem SameAccounts.of_eq (hv : w'.verdicts = w.verdicts) (hrel : w'.relevant = w.relevant)
    (hrec : w'.recorded = w.recorded) : w.SameAccounts w' :=
  ⟨fun _ => by rw [hv], fun _ => by rw [hrel], fun _ => by rw [hrec]⟩

/-- The same workspace has the same accounts. -/
theorem Same.accounts (hw : w.Same w') : w.SameAccounts w' :=
  ⟨hw.verdicts, hw.relevant, hw.recorded⟩

/-- Giving up offers is no matter of accounts. -/
theorem sameAccounts_invalidate (w : Workspace) (d : Document) (p : Handle) :
    w.SameAccounts (w.invalidate d p) := by
  rw [invalidate_eq]
  exact .of_eq rfl rfl rfl

namespace SameAccounts

theorem trans {w'' : Workspace} (h₁ : w.SameAccounts w') (h₂ : w'.SameAccounts w'') :
    w.SameAccounts w'' :=
  ⟨fun k => (h₂.verdicts k).trans (h₁.verdicts k), fun k => (h₂.relevant k).trans (h₁.relevant k),
    fun r => (h₂.recorded r).trans (h₁.recorded r)⟩

theorem rulesOf (hs : w.SameAccounts w') (k : Handle) : w'.rulesOf k = w.rulesOf k := by
  rw [Workspace.rulesOf, Workspace.rulesOf, Table.getD, Table.getD, hs.relevant]

theorem nodesOf (hs : w.SameAccounts w') (r : RuleId) :
    w'.recorded.getD r [] = w.recorded.getD r [] := by
  rw [Table.getD, Table.getD, hs.recorded]

end SameAccounts

/-- A workspace with the same accounts is accounted for as well. -/
theorem Accounted.congr (ha : w.Accounted) (hs : w.SameAccounts w') : w'.Accounted where
  mem_iff := fun r k => by rw [hs.rulesOf, hs.nodesOf, ha.mem_iff]
  nodup := fun k => by rw [hs.rulesOf]; exact ha.nodup k
  quoted := fun k v hv => by rw [hs.rulesOf]; exact ha.quoted k v (hs.verdicts k ▸ hv)

/-! ## Recording -/

/-- Where a verdict is revised as the rules about its node are, verdicts name the rules. -/
theorem Quoted.revise (hq : w.Quoted) {f : Verdict → Verdict} {rs : List RuleId}
    (hverdicts : w'.verdicts = w.verdicts.modify h f)
    (hrules : ∀ k, w'.rulesOf k = if k = h then rs else w.rulesOf k)
    (hf : ∀ v, v.rules = w.rulesOf h → (f v).rules = rs) : w'.Quoted := by
  intro k v hv
  rw [hverdicts, Table.get?_modify] at hv
  rw [hrules]
  split_ifs at hv ⊢ with hk
  · obtain ⟨v', hv', rfl⟩ := Option.map_eq_some_iff.mp hv
    exact hf v' (hk ▸ hq k v' hv')
  · exact hq k v hv

theorem Quoted.dropRelevance (hq : w.Quoted) (r : RuleId) (h : Handle) :
    (w.dropRelevance r h).Quoted :=
  hq.revise (f := fun v => v.dropRule r) rfl (rulesOf_dropRelevance w r h) fun v hv => by
    rw [Verdict.dropRule, hv]

theorem Quoted.addRelevance (hq : w.Quoted) (r : RuleId) (h : Handle) :
    (w.addRelevance r h).Quoted :=
  hq.revise (f := fun v => v.addRule r) rfl (rulesOf_addRelevance w r h) fun v hv => by
    rw [Verdict.addRule, hv]

/-- What a verdict quotes stays so when a rule is recorded. -/
theorem Quoted.recordRule (hq : w.Quoted) (r : RuleId) (nodes : List Handle) :
    (w.recordRule r nodes).Quoted := by
  have hfold : ∀ {f : Workspace → Handle → Workspace}, (∀ w h, w.Quoted → (f w h).Quoted) →
      ∀ (hs : List Handle) (w : Workspace), w.Quoted → (hs.foldl f w).Quoted := by
    intro f hf hs
    induction hs with
    | nil => exact fun _ hq => hq
    | cons h hs ih => exact fun w hq => ih _ (hf w h hq)
  exact hfold (fun _ h hq => hq.addRelevance r h) _ _
    (hfold (fun _ h hq => hq.dropRelevance r h) _ w hq)

/-- For the rule the nodes that it has led to are recorded now, and for others those before. -/
theorem mem_recorded_recordRule (w : Workspace) (r : RuleId) (nodes : List Handle) (r' : RuleId)
    (k : Handle) : k ∈ (w.recordRule r nodes).recorded.getD r' [] ↔
      if r' = r then k ∈ nodes else k ∈ w.recorded.getD r' [] := by
  rw [recorded_recordRule, Table.getD, Table.get?_insert]
  split_ifs
  · exact List.mem_eraseDups
  · exact Iff.rfl

/-- Recording the nodes of a rule keeps the accounts in agreement. -/
theorem Accounted.recordRule (ha : w.Accounted) (r : RuleId) (nodes : List Handle) :
    (w.recordRule r nodes).Accounted where
  mem_iff := by
    intro r' k
    rw [mem_recorded_recordRule, mem_rulesOf_recordRule, ha.mem_iff]
    split_ifs with hr
    · subst hr
      tauto
    · tauto
  nodup := nodup_rulesOf_recordRule ha.nodup r nodes
  quoted := ha.quoted.recordRule r nodes

/-- A verdict that names the rules about its node can be kept. -/
theorem Accounted.find (ha : w.Accounted) {v : Verdict} (hv : v.rules = w.rulesOf h) :
    Accounted { w with verdicts := w.verdicts.insert h v } where
  mem_iff := ha.mem_iff
  nodup := ha.nodup
  quoted := by
    intro k v' hv'
    rw [Table.get?_insert] at hv'
    split_ifs at hv' with hk
    · rw [← Option.some.inj hv', hk]
      exact hv
    · exact ha.quoted k v' hv'

/-! ## Forgetting -/

theorem Accounted.forgetNode (ha : w.Accounted) (h : Handle) : (w.forgetNode d h).1.Accounted := by
  have hrules : ∀ k, (w.forgetNode d h).1.rulesOf k = if k = h then [] else w.rulesOf k := by
    intro k
    show (w.relevant.erase h).getD k [] = _
    rw [Table.getD, Table.get?_erase]
    split_ifs <;> rfl
  refine ⟨fun r k => ?_, fun k => ?_, fun k v hv => ?_⟩
  · rw [hrules, mem_recorded_forgetNode, ha.mem_iff, ← ha.mem_iff r k]
    by_cases hk : k = h
    · subst hk
      rw [if_pos rfl, ha.mem_iff]
      simp
    · simp [hk]
  · rw [hrules]
    split_ifs
    · exact List.nodup_nil
    · exact ha.nodup k
  · replace hv : (w.verdicts.erase h).get? k = some v := hv
    rw [Table.get?_erase] at hv
    split_ifs at hv with hk
    rw [hrules, if_neg hk]
    exact ha.quoted k v hv

/-- Accounts stay right when nodes are forgotten. -/
theorem Accounted.forgetNodes (ha : w.Accounted) (hs : List Handle) :
    (w.forgetNodes d hs).1.Accounted := by
  induction hs generalizing w with
  | nil => exact ha
  | cons h hs ih => exact ih (ha.forgetNode h)

/-- Forgetting a subtree keeps the accounts in agreement. -/
theorem Accounted.forget (ha : w.Accounted) (d : Document) (h : Handle) :
    (w.forget d h).1.Accounted := by
  have hdetached : Accounted { w with outline := w.outline.detach h } :=
    ha.congr (.of_eq rfl rfl rfl)
  exact hdetached.forgetNodes _

/-- Rules have led to no forgotten node, and to no others than before. -/
theorem Traced.mem_recorded_forget (ht : w.Traced d)
    (hk : k ∈ (w.forget d h).1.recorded.getD r []) :
    k ∈ w.recorded.getD r [] ∧ k ∉ d.subtree h := by
  rw [Table.getD, ht.recorded_forget] at hk
  rw [Table.getD]
  cases hr : w.recorded.get? r with
  | none => rw [hr] at hk; simp at hk
  | some ks => rw [hr] at hk; simpa using hk

end Workspace

/-! ## Sessions -/

namespace Session

variable {s s' : Session} {d : Document} {x : Option Handle} {h k p : Handle} {c : ConstraintId}

/-- The accounts of the session agree, and rules have led to nodes of the document, or to what is at
or below the node in hand. -/
structure Accounted (t : Stance) : Prop where
  accounts : t.1.workspace.Accounted
  within : ∀ r k, k ∈ t.1.workspace.recorded.getD r [] →
    t.1.document.Within Document.top k ∨ ∃ h, t.2 = some h ∧ t.1.document.Within h k

namespace Accounted

/-- With nothing in hand, rules have led to nodes of the document. -/
theorem within_top (ha : Accounted (s, none)) {r : RuleId}
    (hk : k ∈ s.workspace.recorded.getD r []) : s.document.Within Document.top k :=
  (ha.within r k hk).resolve_right fun ⟨_, hx, _⟩ => by simp at hx

/-- Nothing that was recorded need be below what is in hand. -/
theorem hold (ha : Accounted (s, none)) (x : Option Handle) : Accounted (s, x) where
  accounts := ha.accounts
  within := fun _ _ hk => Or.inl (ha.within_top hk)

/-! ### Steps -/

/-- Steps that leave the accounts alone, and everything attached that was. -/
theorem keep (ha : Accounted (s, none)) (hw : s.workspace.SameAccounts s'.workspace)
    (hd : ∀ k, s.document.Within Document.top k → s'.document.Within Document.top k) :
    Accounted (s', none) where
  accounts := ha.accounts.congr hw
  within := fun r k hk => Or.inl (hd k (ha.within_top (hw.nodesOf r ▸ hk)))

theorem giveUp (ha : Accounted (s, x)) (p : Handle) :
    Accounted ({ s with workspace := s.workspace.invalidate s.document p }, x) where
  accounts := ha.accounts.congr (Workspace.sameAccounts_invalidate ..)
  within := fun r k hk =>
    ha.within r k ((Workspace.sameAccounts_invalidate ..).nodesOf r ▸ hk)

/-- Rules are evaluated on the document, and a verdict names the rules of the moment. -/
theorem judgeStep (ha : Accounted (s, x)) (hd : s.document.Linked) (hj : JudgeStep s s') :
    Accounted (s', x) := by
  cases hj with
  | tell => exact ⟨ha.accounts, ha.within⟩
  | note rule r diagnostics =>
    refine ⟨ha.accounts.recordRule r _, fun r' k hk => ?_⟩
    rw [Workspace.mem_recorded_recordRule] at hk
    split_ifs at hk
    · exact Or.inl (Rule.within_of_mem_nodes hd hk)
    · exact ha.within r' k hk
  | find v hb hv => exact ⟨ha.accounts.find hv, ha.within⟩

/-- Accounts stay right through judging. -/
theorem judges (ha : Accounted (s, x)) (hd : s.document.Linked) (hj : Judges s s') :
    Accounted (s', x) := by
  induction hj with
  | refl => exact ha
  | @tail t t' hj hstep ih =>
    have hj' : Judges s t := hj
    exact ih.judgeStep (hj'.document ▸ hd) hstep

/-- What was judged is judged on the document that there still is. -/
theorem judged (ha : Accounted (s, x)) (hj : Judges s s') (hd : s'.document.Linked) :
    Accounted (s', x) :=
  ha.judges (hj.document ▸ hd) hj

/-- No rule has led to a node that was just made. -/
theorem made {t : Workspace.Stage} (ha : Accounted (s, none)) (hs : Poised (s, none))
    (hc : s.workspace.create s.document c = (t, some h)) : Accounted (s.withStage t, none) := by
  have hw := (Workspace.builds_create hs.sane.toSound c).workspace
  rw [hc] at hw
  have hext := (poised_made hs hc).2
  refine ha.keep ?_ fun k hk => (hext.within_iff hs.sane.orderly.toLinked hk.contains).mpr hk
  show s.workspace.SameAccounts t.1
  rw [hw]
  exact .of_eq rfl rfl rfl

/-- What was taken out of its place is in hand, and all rules have led to what is below it or to
what is still attached. -/
theorem relinked {given : Option Handle} (ha : Accounted (s, none)) (hd : s.document.Forest)
    (hr : s.document.Relinked s'.document p x given)
    (hgiven : ∀ c, given = some c → s.document.parent? c = none)
    (hw : s.workspace.SameAccounts s'.workspace) : Accounted (s', x) where
  accounts := ha.accounts.congr hw
  within := by
    intro r k hk
    have htop := ha.within_top (hw.nodesOf r ▸ hk)
    by_cases hout : ∀ c, x = some c → ¬ s.document.Within c k
    · exact Or.inl (hr.within_of_out hgiven htop hout)
    · simp only [not_forall, not_not] at hout
      obtain ⟨c, hc, hck⟩ := hout
      exact Or.inr ⟨c, hc, hr.within_taken hd.acyclic hgiven hc hck⟩

/-- A node without a place was given one. -/
theorem placed (ha : Accounted (s, none)) (hd : s.document.Forest)
    (hr : s.document.Relinked s'.document p x (some h)) (hh : s.document.parent? h = none)
    (hw : s.workspace.SameAccounts s'.workspace) : Accounted (s', x) := by
  refine ha.relinked hd hr (fun c hc => ?_) hw
  obtain rfl := Option.some.inj hc
  exact hh

/-- Once what is in hand is let go, rules have led to nodes of the document alone. -/
theorem letGo (ha : Accounted (s, some h)) (hs : Poised (s, some h))
    (hd : s.document.discard h = .ok d) : Accounted (s.letGo h d, none) where
  accounts := ha.accounts.forget s.document h
  within := by
    intro r k hk
    have hforest := hs.sane.orderly.forest
    have hheld := hs.hand h rfl
    obtain ⟨hrec, hout⟩ := hs.sane.traced.mem_recorded_forget hk
    rw [Document.mem_subtree_iff hforest] at hout
    left
    refine ((hs.pruned hd).within_top_iff hforest.toLinked hheld.detached hheld.ne_top).mpr ?_
    rcases ha.within r k hrec with htop | ⟨h', hh', hw⟩
    · exact htop
    · rw [← Option.some.inj hh'] at hw
      exact absurd hw hout

/-- The rules about what is in hand are checked once it has lost its place. -/
theorem partWith (ha : Accounted (s, x)) (hd : s.document.Linked) (old parent : Handle) :
    Accounted (s.partWith old parent, x) :=
  (ha.judges hd (judges_checkRules s _)).giveUp parent

end Accounted

/-! ### Edits -/

/-- Accounts stay right when a node is added. -/
theorem accounted_addNode (hs : Poised (s, none)) (ha : Accounted (s, none)) (c : ConstraintId)
    (parent : Handle) (after : Option Handle) :
    Accounted ((s.addNode c parent after).1, none) := by
  have hm : Moves False True (s, none) ((s.addNode c parent after).1, none) :=
    moves_addNode hs c parent after
  have hlinked := (hm.poised hs).sane.orderly.toLinked
  rcases addNode_cases hs c parent after with ⟨fault, heq⟩ | ⟨t, ht, -, hrest⟩
  · rw [heq]
    exact ha
  · obtain ⟨hmade, -⟩ := poised_made hs ht
    have hnew := ha.made hs ht
    rcases hrest with ⟨d, fault, hd, heq⟩ | ⟨d, hd, heq⟩
    · rw [heq]
      exact (hnew.hold _).letGo hmade hd
    · obtain ⟨hr, hpl, -⟩ := Document.relinked_insertAfter hmade.sane.orderly.toLinked hd
      have hadopted : Accounted ((s.withStage t).adoptElement d parent s.document.next, none) := by
        refine hnew.placed hmade.sane.orderly.forest hr hpl.detached ?_
        refine .trans ?_ (Workspace.sameAccounts_invalidate _ d parent)
        exact .of_eq rfl rfl rfl
      rw [heq] at hlinked ⊢
      exact hadopted.judged ((judges_checkMissing _).trans (judges_validate _ _)) hlinked

/-- Accounts stay right when an attribute is added. -/
theorem accounted_addAttribute (hs : Poised (s, none)) (ha : Accounted (s, none))
    (c : ConstraintId) (element : Handle) :
    Accounted ((s.addAttribute c element).1, none) := by
  have hm : Moves False True (s, none) ((s.addAttribute c element).1, none) :=
    (clean_addAttribute hs c element).moves
  have hlinked := (hm.poised hs).sane.orderly.toLinked
  rcases addAttribute_cases hs c element with
    ⟨fault, heq⟩ | ⟨t, d, displaced, u, ht, hplace, hposed, hcleared, heq⟩
  · rw [heq]
    exact ha
  · obtain ⟨hmade, -⟩ := poised_made hs ht
    obtain ⟨hr, hcan, -⟩ := Document.relinked_placeAttribute hmade.sane.orderly.toLinked hplace
    have hplaced : Accounted ({ s.withStage t with document := d }, displaced) :=
      (ha.made hs ht).placed hmade.sane.orderly.forest hr hcan.detached (.of_eq rfl rfl rfl)
    have hu : Accounted (u, none) := by
      cases hcleared with
      | nothing => exact hplaced
      | @displaced old d' hd' =>
        have hdiscard : Move False True ({ s.withStage t with document := d }, some old)
            (letGo { s.withStage t with document := d } old d', none) := .discard hd'
        exact (hplaced.letGo hposed hd').judges (hdiscard.poised hposed).sane.orderly.toLinked
          (judges_validateAll _ _)
    rw [heq] at hlinked ⊢
    exact (hu.giveUp element).judged ((judges_checkMissing _).trans (judges_validate _ _)) hlinked

/-- Accounts stay right when a node is removed. -/
theorem accounted_removeNode (hs : Poised (s, none)) (ha : Accounted (s, none)) (h : Handle) :
    Accounted ((s.removeNode h).1, none) := by
  have hm : Moves False True (s, none) ((s.removeNode h).1, none) :=
    (clean_removeNode hs h not_false.elim).moves
  have hlinked := (hm.poised hs).sane.orderly.toLinked
  rcases removeNode_cases hs h with ⟨fault, heq⟩ | ⟨p, d, d', u, hp, hd, hposed, rfl, hd', heq⟩
  · rw [heq]
    exact ha
  · have hr := (hs.relinked hp hd).1
    have htaken : Accounted (s.takeOut h d, some h) :=
      ha.relinked hs.sane.orderly.forest hr (by simp) (.of_eq rfl rfl rfl)
    have hgone := (htaken.partWith hposed.sane.orderly.toLinked h p).letGo
      (poised_partWith hposed h p) hd'
    rw [heq] at hlinked ⊢
    exact hgone.judged (judges_validateAll _ _) hlinked

/-- Accounts stay right when an alternative is chosen. -/
theorem accounted_chooseAlternative (hs : Poised (s, none)) (ha : Accounted (s, none))
    (c : ConstraintId) (parent : Handle) (after : Option Handle) (replaced : Handle) :
    Accounted ((s.chooseAlternative c parent after replaced).1, none) := by
  have hadded := accounted_addNode hs ha c parent after
  have hm : Moves False True (s, none) ((s.addNode c parent after).1, none) :=
    moves_addNode hs c parent after
  have hposed := hm.poised hs
  unfold chooseAlternative
  generalize s.addNode c parent after = added at hadded hposed ⊢
  obtain ⟨u, fault | h⟩ := added
  · exact hadded
  · have hdone := accounted_removeNode hposed hadded replaced
    dsimp only at hdone ⊢
    generalize u.removeNode replaced = removed at hdone ⊢
    obtain ⟨u', fault | ⟨⟩⟩ := removed
    · exact hdone
    · exact hdone.giveUp parent

/-- Accounts stay right when a node is replaced. -/
theorem accounted_replace (hs : Poised (s, none)) (ha : Accounted (s, none)) (old node : Handle)
    {source : Document} (hsource : source.Linked) :
    Accounted ((s.replace old source node).1, none) := by
  have hm : Moves False True (s, none) ((s.replace old source node).1, none) :=
    (clean_replace hs hsource old node).moves
  have hlinked := (hm.poised hs).sane.orderly.toLinked
  rcases replace_steps hs hsource old node with
    ⟨s', fault, heq, hun⟩ | ⟨c, p, d, d', e, w, new, u, hb, hsw, hbind, hposed, rfl, he, heq⟩
  · rw [heq]
    exact ha.keep hun.workspace.accounts fun k hk =>
      (hun.extends.within_iff hs.sane.orderly.toLinked hk.contains).mpr hk
  · have hw := (hsw.builds hs.sane c).workspace
    rw [hbind] at hw
    have hcopied : Accounted ({ s with document := d }, none) := ha.keep (.of_eq rfl rfl rfl)
      fun k hk => (hsw.grows.document.within_iff hs.sane.orderly.toLinked hk.contains).mpr hk
    have hshown : Accounted ((s.withStage (w, d')).showInstead old new, some old) := by
      refine hcopied.placed hsw.grows.sound.orderly.forest hsw.relinked hsw.parent?_new ?_
      show s.workspace.SameAccounts { w with outline := _ }
      dsimp only at hw
      rw [hw]
      exact .of_eq rfl rfl rfl
    have hgone := (hshown.partWith hposed.sane.orderly.toLinked old p).letGo
      (poised_partWith hposed old p) he
    rw [heq] at hlinked ⊢
    exact hgone.judged (((judges_checkMissing _).trans (judges_validate _ _)).trans
      (judges_validateAll _ _)) hlinked

/-- Accounts stay right when a value is set. -/
theorem accounted_setValue (hs : Poised (s, none)) (ha : Accounted (s, none)) (h : Handle)
    (value : String) : Accounted ((s.setValue h value).1, none) := by
  have hm : Moves False True (s, none) ((s.setValue h value).1, none) :=
    (clean_setValue hs trivial h value).moves
  have hlinked := (hm.poised hs).sane.orderly.toLinked
  rcases setValue_eq hs h value with ⟨fault, heq⟩ | ⟨c, d, u, hb, hd, rfl, heq⟩
  · rw [heq]
    exact ha
  · have horder := hs.sane.orderly
    have hlive : ∀ {k}, s.document.contains k = true → d.contains k = true := fun {k} hk => by
      rwa [Document.contains_congr ((Document.kind?_of_setValue horder hd).2 k
        (Document.index_lt_of_contains hk))]
    have hparent : ∀ k p, s.document.parent? k = some p → d.parent? k = some p := by
      intro k p hp
      have hk := Document.contains_of_parent? hp
      rcases Document.stays_or_isText_of_setValue horder hd (hlive hk) with
        ⟨-, -, -, hpar⟩ | ⟨hdead, -⟩
      · rw [hpar, hp]
      · rw [hk] at hdead
        simp at hdead
    -- the owner of a name that was given up is judged before the value changes
    have hwritten : Accounted (s.rewritten h c value d, none) := by
      unfold rewritten
      split_ifs
      · have hjudged := judges_giveUpName s h
        have hreleased : Accounted ({ s with workspace := { s.workspace with
            claims := (s.workspace.claims.release (s.document.value h) h).1 } }, none) :=
          ha.keep (.of_eq rfl rfl rfl) fun _ hk => hk
        have hgiven := hreleased.judges horder.toLinked hjudged
        refine hgiven.keep (.of_eq rfl rfl rfl) fun k hk => ?_
        rw [hjudged.document] at hk
        exact hk.carried hlive hparent
      · exact ha.keep (.of_eq rfl rfl rfl) fun k hk => hk.carried hlive hparent
    rw [heq] at hlinked ⊢
    exact hwritten.judged ((judges_checkRules _ _).trans (judges_validate _ _)) hlinked

/-! ### Runs -/

/-- Accounts stay right through every action. -/
theorem accounted_perform (hs : Poised (s, none)) (ha : Accounted (s, none)) (a : Action) :
    Accounted ((s.perform a).1, none) := by
  cases a with
  | addSibling c parent after => exact accounted_addNode hs ha c parent _
  | addChild c parent after => exact accounted_addNode hs ha c parent after
  | addAttribute c element => exact accounted_addAttribute hs ha c element
  | remove node => exact accounted_removeNode hs ha node
  | removeAttribute node => exact accounted_removeNode hs ha node
  | chooseAlternative c parent after replaced =>
    exact accounted_chooseAlternative hs ha c parent after replaced

/-- Every request, done or refused, keeps the accounts in agreement. -/
theorem accounted_answer (hs : Poised (s, none)) (ha : Accounted (s, none)) (r : Request) :
    Accounted ((s.answer r).1, none) := by
  cases r with
  | look h =>
    obtain ⟨os, hos⟩ := s.exists_offers h
    show Accounted ((s.offers h).1, none)
    rw [hos]
    exact ha.keep (.of_eq rfl rfl rfl) fun _ hk => hk
  | take o =>
    show Accounted ((s.take o).1, none)
    unfold take
    split
    · exact accounted_perform hs ha o.action
    · exact ha
  | addNode c parent after => exact accounted_addNode hs ha c parent after
  | addAttribute c element => exact accounted_addAttribute hs ha c element
  | remove h => exact accounted_removeNode hs ha h
  | choose c parent after replaced => exact accounted_chooseAlternative hs ha c parent after replaced
  | setValue h value => exact accounted_setValue hs ha h value
  | replace old source linked h => exact accounted_replace hs ha old h linked
  | judge h deep => exact ha.judges hs.sane.orderly.toLinked (judges_verdictOn s h deep)
  | revalidate => exact ha.judges hs.sane.orderly.toLinked (judges_revalidate s)

/-- At the beginning all rules are evaluated. -/
theorem accounted_begin (hd : s.document.Linked) (ha : Accounted (s, none)) :
    Accounted (s.begin, none) := by
  have hdrawn : Accounted ({ s with workspace := { s.workspace with
      outline := .ofDocument s.document } }, none) :=
    ha.keep (.of_eq rfl rfl rfl) fun _ hk => hk
  exact hdrawn.judges hd (judges_checkRules _ _)

theorem accounted_start (d : Document) (m : ContentModel) (rules : RuleBook)
    (settings : Settings) : Accounted (start d m rules settings, none) where
  accounts := Workspace.accounted_empty m settings.whitelist
  within := fun _ _ hk => absurd hk List.not_mem_nil

theorem accounted_create {m : ContentModel} {rules : RuleBook} {settings : Settings}
    (hc : create m rules settings = .ok s) : Accounted (s, none) := by
  have hlinked := (poised_create hc).sane.orderly.toLinked
  obtain ⟨t, h, d, hcreate, happend, rfl⟩ := create_eq_begin hc
  have hstart : Poised (start .empty m rules settings, none) :=
    poised_start Document.orderly_empty
  obtain ⟨hmade, -⟩ := poised_made hstart hcreate
  obtain ⟨hr, hpl, -⟩ := Document.relinked_append hmade.sane.orderly.toLinked happend
  have hplaced : Accounted ({ (start .empty m rules settings).withStage t with document := d },
      none) :=
    ((accounted_start .empty m rules settings).made hstart hcreate).placed
      hmade.sane.orderly.forest hr hpl.detached (.of_eq rfl rfl rfl)
  have halike := alike_begin { (start .empty m rules settings).withStage t with document := d }
  exact accounted_begin (halike.document ▸ hlinked) hplaced

theorem accounted_ofDocument {m : ContentModel} {rules : RuleBook} {settings : Settings}
    (hd : d.Orderly) (ho : ofDocument d m rules settings = .ok s) : Accounted (s, none) := by
  obtain ⟨r, w, -, hbind, rfl⟩ := ofDocument_eq_begin ho
  have hw := (Workspace.builds_bind (w := (start d m rules settings).workspace) (n := 0) (h := r)
    hd (Nat.zero_le _) (fun _ _ => rfl) ContentModel.root).workspace
  rw [hbind] at hw
  refine accounted_begin hd.toLinked ((accounted_start d m rules settings).keep ?_ fun _ hk => hk)
  dsimp only at hw ⊢
  rw [hw]
  exact .of_eq rfl rfl rfl

/-- In every session that arises the accounts agree. -/
theorem Arises.accounted {allowed : Session → Request → Prop} (ha : Arises allowed s) :
    Accounted (s, none) := by
  induction ha with
  | created hc => exact accounted_create hc
  | loaded hl =>
    obtain ⟨d, m, hread, ho⟩ := load_eq_ok hl
    exact accounted_ofDocument (Document.orderly_of_read hread) ho
  | asked ha _ ih => exact accounted_answer ha.poised ih _
  | notified n _ ih => exact ⟨ih.accounts, ih.within⟩
  | noticed _ ih => exact ⟨ih.accounts, ih.within⟩

/-- In every session that arises, whatever was asked for: a rule is about a node exactly if the node
is recorded for the rule, no rule is about a node twice, the verdict kept for a node names the rules
about it in their order, and every recorded node is in the document and attached. -/
theorem relevance_agrees (ha : Arises atWill s) :
    (∀ r k, r ∈ s.workspace.rulesOf k ↔ k ∈ s.workspace.recorded.getD r []) ∧
      (∀ k, (s.workspace.rulesOf k).Nodup) ∧
      (∀ k v, s.verdict? k = some v → v.rules = s.workspace.rulesOf k) ∧
      ∀ r k, k ∈ s.workspace.recorded.getD r [] →
        s.document.contains k = true ∧ s.document.isAttached k = true := by
  have hagree := ha.accounted
  refine ⟨hagree.accounts.mem_iff, hagree.accounts.nodup, hagree.accounts.quoted, ?_⟩
  intro r k hk
  have htop := hagree.within_top hk
  exact ⟨htop.contains, (Document.isAttached_iff ha.poised.sane.orderly).mpr htop⟩

/-- Once the run of the scan was judged, the verdict names the rule about it. -/
theorem rulesOf_judged_scan : Arises atWill (scanned.answer (.judge ⟨4⟩ false)).1 ∧
    (scanned.answer (.judge ⟨4⟩ false)).1.workspace.rulesOf ⟨4⟩ = ["fast"] ∧
    ∃ v, (scanned.answer (.judge ⟨4⟩ false)).1.verdict? ⟨4⟩ = some v ∧ v.rules = ["fast"] := by
  have harises : Arises atWill (scanned.answer (.judge ⟨4⟩ false)).1 :=
    .asked (.loaded load_scanned) trivial
  have hrules : (scanned.answer (.judge ⟨4⟩ false)).1.workspace.rulesOf ⟨4⟩ = ["fast"] := by
    decide +kernel
  have hfound : ((scanned.answer (.judge ⟨4⟩ false)).1.verdict? ⟨4⟩).isSome = true := by
    decide +kernel
  obtain ⟨v, hv⟩ := Option.isSome_iff_exists.mp hfound
  exact ⟨harises, hrules, v, hv, hrules ▸ (relevance_agrees harises).2.2.1 ⟨4⟩ v hv⟩

end Session

end GuidedXml
