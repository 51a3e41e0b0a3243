/-
# Verdicts that are kept

While a request is answered, verdicts are found on some nodes, and those on all other nodes are left
alone. Nodes whose constraints make names are set aside: the verdict on them is found anew whenever
they come to own a name.

The main statements say for each kind of request that the verdict on a node is kept, or that one that
is found says of the value what would be said of it now.
-/
import GuidedXml.Proofs.Editing.Current
import GuidedXml.Proofs.Editing.Titles

namespace GuidedXml.Session

open Schema (ConstraintId)

variable {s s' s'' u : Session} {d : Document} {h k p : Handle} {c : ConstraintId} {value : String}

/-! ## Verdicts that are kept -/

/-- The verdict on the node is kept, if at all, and so is its constraint; unless its constraint makes
it a name. -/
structure Keeps (h : Handle) (s s' : Session) : Prop where
  model : s'.workspace.model = s.workspace.model
  kept : s'.verdict? h = none ∨
    ((s'.verdict? h).map Verdict.typeOk = (s.verdict? h).map Verdict.typeOk ∧
      s'.workspace.binding? h = s.workspace.binding? h) ∨
    ∃ c, s'.workspace.binding? h = some c ∧ s'.workspace.isNaming c = true

namespace Keeps

/-- Where judging is the same matter, the verdict is kept. -/
theorem of_judgedAlike (ha : JudgedAlike h s s') : Keeps h s s' :=
  ⟨ha.model, Or.inr (Or.inl ⟨ha.typeOk, ha.binding?⟩)⟩

/-- Where model, verdict and constraint are the same, the verdict is kept. -/
theorem of_eq (hm : s'.workspace.model = s.workspace.model)
    (hv : s'.verdict? h = s.verdict? h)
    (hb : s'.workspace.binding? h = s.workspace.binding? h) : Keeps h s s' :=
  ⟨hm, Or.inr (Or.inl ⟨by rw [hv], hb⟩)⟩

theorem refl (h : Handle) (s : Session) : Keeps h s s :=
  of_eq rfl rfl rfl

theorem trans (h₁ : Keeps h s s') (h₂ : Keeps h s' s'') : Keeps h s s'' := by
  refine ⟨h₂.model.trans h₁.model, ?_⟩
  rcases h₂.kept with hnone | ⟨hok, hb⟩ | hname
  · exact Or.inl hnone
  · rw [hok, hb]
    rcases h₁.kept with hnone | ⟨hok', hb'⟩ | ⟨c, hc, hname⟩
    · rw [hnone, Option.map_none, Option.map_eq_none_iff] at hok
      exact Or.inl hok
    · exact Or.inr (Or.inl ⟨hok', hb'⟩)
    · rw [← Workspace.isNaming_congr h₂.model] at hname
      exact Or.inr (Or.inr ⟨c, hc, hname⟩)
  · exact Or.inr (Or.inr hname)

end Keeps

/-- The verdict that is kept for the node is what would be said of its value now, unless its
constraint makes it a name. -/
def Right (s : Session) (h : Handle) : Prop :=
  ∀ v c, s.verdict? h = some v → s.workspace.binding? h = some c →
    s.workspace.isNaming c = false → v.typeOk = s.valueIsValid h

/-- Without a verdict nothing is wrong. -/
theorem right_of_verdict?_eq_none (hv : s.verdict? h = none) : s.Right h := by
  intro v c hv'
  rw [hv] at hv'
  simp at hv'

/-- Where there is no verdict and it is kept, nothing is wrong. -/
theorem Keeps.right (hk : Keeps h s s') (hv : s.verdict? h = none) : s'.Right h := by
  intro v c hv' hb hc
  rcases hk.kept with hnone | ⟨hok, -⟩ | ⟨i, hi, hname⟩
  · rw [hnone] at hv'
    simp at hv'
  · rw [hv, hv'] at hok
    simp at hok
  · obtain rfl := Option.some.inj (hb.symm.trans hi)
    rw [hc] at hname
    simp at hname

/-- Validating a node changes nothing that could be said of a value. -/
theorem valueIsValid_validate (s : Session) (h k : Handle) :
    (s.validate h).valueIsValid k = s.valueIsValid k := by
  unfold validate
  split_ifs <;> rfl

/-- A node that was validated is judged rightly. -/
theorem right_validate_self (s : Session) (h : Handle) : (s.validate h).Right h := by
  intro v c hv hb _
  have hbound : s.workspace.isBound h = true := by
    rw [(judges_validate s h).quiet.binding?] at hb
    exact Option.isSome_of_mem hb
  rw [verdict?_validate s h hbound] at hv
  rw [valueIsValid_validate, ← Option.some.inj hv]

/-- Validating a node leaves the verdicts on others. -/
theorem verdict?_validate_of_ne (s : Session) (hk : k ≠ h) :
    (s.validate h).verdict? k = s.verdict? k := by
  unfold validate
  split_ifs
  · exact (Table.get?_insert ..).trans (if_neg hk)
  · rfl

/-- A right verdict stays so when any node is validated. -/
theorem Right.validate (hs : s.Right k) (h : Handle) : (s.validate h).Right k := by
  by_cases hk : k = h
  · exact hk ▸ right_validate_self s h
  · intro v c hv hb hc
    have hq := (judges_validate s h).quiet
    rw [verdict?_validate_of_ne s hk] at hv
    rw [hq.binding?] at hb
    rw [Workspace.isNaming_congr hq.model] at hc
    rw [valueIsValid_validate]
    exact hs v c hv hb hc

/-- A right verdict stays so when several nodes are validated. -/
theorem Right.validateAll (hs : s.Right k) (hs' : List Handle) : (s.validateAll hs').Right k := by
  unfold Session.validateAll
  induction hs' generalizing s with
  | nil => exact hs
  | cons h hs' ih => exact ih (hs.validate h)

/-- Finding the verdict on a node leaves that on every other one alone. -/
theorem keeps_validate (s : Session) (hk : k ≠ h) : Keeps k s (s.validate h) where
  model := (judges_validate s h).quiet.model
  kept := Or.inr (Or.inl ⟨by rw [verdict?_validate_of_ne s hk],
    (judges_validate s h).quiet.binding? k⟩)

/-- Finding the verdicts on names leaves those on all other nodes alone. -/
theorem keeps_validateAll {hs : List Handle}
    (hn : ∀ c, h ∈ hs → s.workspace.binding? h = some c → s.workspace.isNaming c = true) :
    Keeps h s (s.validateAll hs) := by
  unfold Session.validateAll
  induction hs generalizing s with
  | nil => exact .refl h s
  | cons k hs ih =>
    have hq := (judges_validate s k).quiet
    have hfirst : Keeps h s (s.validate k) := by
      by_cases hk : h = k
      · subst hk
        cases hb : s.workspace.binding? h with
        | none =>
          have hunbound : s.workspace.isBound h = false := by
            rw [Workspace.isBound, Table.contains, Option.isSome_eq_false_iff]
            exact Option.isNone_iff_eq_none.mpr hb
          rw [Session.validate, hunbound]
          exact .refl h s
        | some c =>
          refine ⟨hq.model, Or.inr (Or.inr ⟨c, (hq.binding? h).trans hb, ?_⟩)⟩
          rw [Workspace.isNaming_congr hq.model]
          exact hn c (List.mem_cons_self ..) hb
      · exact keeps_validate s hk
    refine hfirst.trans (ih fun c hm hb => ?_)
    rw [Workspace.isNaming_congr hq.model]
    exact hn c (List.mem_cons_of_mem _ hm) ((hq.binding? h).symm.trans hb)

/-! ## Requests -/

/-- Giving up offers keeps all verdicts. -/
theorem keeps_giveUp (s : Session) (p h : Handle) :
    Keeps h s { s with workspace := s.workspace.invalidate s.document p } :=
  .of_judgedAlike (judgedAlike_giveUp s p h)

/-- Checking rules keeps all verdicts on values. -/
theorem keeps_checkRules (s : Session) (rs : List RuleId) (h : Handle) :
    Keeps h s (s.checkRules rs) :=
  .of_judgedAlike (judgedAlike_checkRules s rs h)

/-- Nodes that are made have no verdicts. -/
theorem keeps_made {t : Workspace.Stage} {x : Option Handle} (hs : Poised (s, none))
    (hc : s.workspace.create s.document c = (t, x)) (k : Handle) :
    Keeps k s (s.withStage t) := by
  cases hk : s.document.contains k with
  | true => exact .of_judgedAlike (judgedAlike_made hs hc hk)
  | false =>
    have hw := (Workspace.builds_create hs.sane.toSound c).workspace
    rw [hc] at hw
    refine ⟨?_, Or.inl ?_⟩
    · show t.1.model = _
      rw [hw]
    · rw [verdict?_made hs hc, hs.verdict?_eq_none hk]

/-- What is let go has no verdicts, and other nodes keep theirs. -/
theorem keeps_letGo (hs : Poised (s, some h)) (d : Document) (k : Handle) :
    Keeps k s (s.letGo h d) := by
  have hforest := hs.sane.orderly.forest
  have hforgets := Workspace.forgets_forget hforest s.workspace h
  refine ⟨hforgets.model, ?_⟩
  rw [verdict?_letGo]
  split_ifs with hk
  · exact Or.inl rfl
  · rw [Document.mem_subtree_iff hforest] at hk
    exact Or.inr (Or.inl ⟨rfl, (hforgets.left k hk).1⟩)

/-- Those who come to own names when a node is let go are names. -/
theorem isNaming_of_heir (hs : Poised (s, some h)) (ht : s.workspace.Titled)
    (hk : k ∈ (s.workspace.forget s.document h).2)
    (hb : (s.letGo h d).workspace.binding? k = some c) :
    (s.letGo h d).workspace.isNaming c = true := by
  have hforgets := Workspace.forgets_forget hs.sane.orderly.forest s.workspace h
  obtain ⟨name, hname⟩ := Workspace.exists_candidates_of_mem_forget hk
  replace hb : (s.workspace.forget s.document h).1.binding? k = some c := hb
  show (s.workspace.forget s.document h).1.isNaming c = true
  rw [Workspace.isNaming_congr hforgets.model]
  by_cases hw : s.document.Within h k
  · rw [(hforgets.gone k hw).1] at hb
    simp at hb
  · exact ht name k c hname ((hforgets.left k hw).1.symm.trans hb)

/-- Where a node is let go and its heirs are validated, every verdict is kept. -/
theorem keeps_heirs (hs : Poised (s, some h)) (ht : s.workspace.Titled) (d : Document)
    (k : Handle) :
    Keeps k s ((s.letGo h d).validateAll (s.workspace.forget s.document h).2) :=
  (keeps_letGo hs d k).trans (keeps_validateAll fun _ hk hb => isNaming_of_heir hs ht hk hb)

/-- The verdict on the node is kept, or there was none, and then one that is found is right. -/
def Answers (h : Handle) (s s' : Session) : Prop :=
  Keeps h s s' ∨ s.verdict? h = none ∧ s'.Right h

/-- Validating a node without verdict keeps the others and finds its own. -/
theorem Keeps.validate_new (hk : Keeps h s s') (hnew : s.verdict? k = none) :
    Answers h s (s'.validate k) := by
  by_cases heq : h = k
  · exact Or.inr ⟨heq ▸ hnew, heq ▸ right_validate_self s' k⟩
  · exact Or.inl (hk.trans (keeps_validate s' heq))

/-- The next node to be made has no verdict. -/
theorem Poised.verdict?_next (hs : Poised (s, none)) : s.verdict? s.document.next = none :=
  hs.verdict?_eq_none (Document.contains_eq_false_of_le (Nat.le_refl _))

/-- Adding a node keeps verdicts or finds right ones. -/
theorem answers_addNode (hs : Poised (s, none)) (c : ConstraintId) (parent : Handle)
    (after : Option Handle) (h : Handle) : Answers h s (s.addNode c parent after).1 := by
  rcases addNode_cases hs c parent after with
    ⟨fault, heq⟩ | ⟨t, hc, -, ⟨d, fault, hd, heq⟩ | ⟨d, hd, heq⟩⟩
  · rw [heq]
    exact Or.inl (.refl h s)
  · have hmake : Move False True (s, none) (s.withStage t, some s.document.next) := .make hc
    rw [heq]
    exact Or.inl ((keeps_made hs hc h).trans (keeps_letGo (hmake.poised hs) d h))
  · have hattached : Keeps h (s.withStage t) (s.withStage
        ({ t.1 with outline := t.1.outline.attach d s.document.next }, d)) :=
      .of_eq rfl rfl rfl
    have hadopted : Keeps h (s.withStage t)
        ((s.withStage t).adoptElement d parent s.document.next) :=
      hattached.trans (keeps_giveUp _ parent h)
    rw [heq]
    exact ((keeps_made hs hc h).trans
      (hadopted.trans (keeps_checkRules _ _ h))).validate_new hs.verdict?_next

/-- Adding an attribute keeps verdicts or finds right ones. -/
theorem answers_addAttribute (hs : Poised (s, none)) (ht : s.workspace.Titled) (c : ConstraintId)
    (element h : Handle) : Answers h s (s.addAttribute c element).1 := by
  rcases addAttribute_cases hs c element with
    ⟨fault, heq⟩ | ⟨t, d, displaced, u, hc, -, hposed, hcleared, heq⟩
  · rw [heq]
    exact Or.inl (.refl h s)
  · have hmake : Move False True (s, none) (s.withStage t, some s.document.next) := .make hc
    have htitled : t.1.Titled := hmake.titled hs ht
    have hplaced : Keeps h (s.withStage t) { s.withStage t with document := d } :=
      .of_eq rfl rfl rfl
    have hu : Keeps h { s.withStage t with document := d } u := by
      cases hcleared with
      | nothing => exact .refl h _
      | displaced hd' => exact keeps_heirs hposed htitled _ h
    rw [heq]
    exact ((keeps_made hs hc h).trans (hplaced.trans (hu.trans ((keeps_giveUp u element h).trans
      (keeps_checkRules _ _ h))))).validate_new hs.verdict?_next

/-- Parting with a node keeps all verdicts. -/
theorem keeps_partWith (s : Session) (old parent h : Handle) : Keeps h s (s.partWith old parent) :=
  .of_judgedAlike (judgedAlike_partWith s old parent h)

/-- Parting with a node leaves the titles. -/
theorem titled_partWith (hs : s.workspace.Titled) (old parent : Handle) :
    (s.partWith old parent).workspace.Titled :=
  (quiet_giveUp _ parent).titled ((judges_checkRules s _).quiet.titled hs)

/-- Removing a node keeps all verdicts. -/
theorem keeps_removeNode (hs : Poised (s, none)) (ht : s.workspace.Titled) (node h : Handle) :
    Keeps h s (s.removeNode node).1 := by
  rcases removeNode_cases hs node with
    ⟨fault, heq⟩ | ⟨p, d, d', u, -, -, hposed, rfl, -, heq⟩
  · rw [heq]
    exact .refl h s
  · have htaken : Keeps h s (s.takeOut node d) := .of_eq rfl rfl rfl
    rw [heq]
    have htitled : (s.takeOut node d).workspace.Titled := ht
    exact htaken.trans ((keeps_partWith _ node p h).trans
      (keeps_heirs (poised_partWith hposed node p) (titled_partWith htitled node p) d' h))

/-- Nodes of a copy that is bound have no verdicts. -/
theorem keeps_bound {d' : Document} {w : Workspace} {old new : Handle} (hs : Poised (s, none))
    (hsw : Swapped s.workspace p old new s.document d d')
    (hbind : s.workspace.bind d' new c = (w, true)) (k : Handle) :
    Keeps k s (s.withStage (w, d')) := by
  have hb := hsw.builds hs.sane c
  have hrebinds := Workspace.rebinds_bind hsw.orderly.toLinked s.workspace new c
  rw [hbind] at hb hrebinds
  have hw := hb.workspace
  dsimp only at hw
  have hmodel : w.model = s.workspace.model := by rw [hw]
  have hverdict : (s.withStage (w, d')).verdict? k = s.verdict? k := by
    show w.verdicts.get? k = _
    rw [hw]
    rfl
  cases hk : s.document.contains k with
  | true => exact .of_eq hmodel hverdict (hrebinds.binding? k (hsw.not_within_new hk))
  | false => exact ⟨hmodel, Or.inl (hverdict.trans (hs.verdict?_eq_none hk))⟩

/-- Replacing a node keeps verdicts or finds right ones. -/
theorem answers_replace (hs : Poised (s, none)) (ht : s.workspace.Titled) {source : Document}
    (hsource : source.Linked) (old node h : Handle) :
    Answers h s (s.replace old source node).1 := by
  rcases replace_steps hs hsource old node with
    ⟨s', fault, heq, hun⟩ | ⟨c, p, d, d', e, w, new, u, hb, hsw, hbind, hposed, hu, he, heq⟩
  · rw [heq]
    exact Or.inl (.of_judgedAlike (hun.judgedAlike h))
  · have hshown : Keeps h (s.withStage (w, d')) ((s.withStage (w, d')).showInstead old new) :=
      .of_eq rfl rfl rfl
    have hready : Keeps h s u := by
      rw [hu]
      exact (keeps_bound hs hsw hbind h).trans (hshown.trans (keeps_partWith _ old p h))
    have hposed' : Poised (u, some old) := by
      rw [hu]
      exact poised_partWith hposed old p
    have htitled : u.workspace.Titled := by
      have hw : w.Titled := titled_bound hs ht hsw hbind
      have hshown : ((s.withStage (w, d')).showInstead old new).workspace.Titled := hw
      rw [hu]
      exact titled_partWith hshown old p
    have hnew : s.verdict? new = none :=
      hs.verdict?_eq_none (Document.contains_eq_false_of_le hsw.le_index)
    rw [heq]
    have hchecked : Keeps h (u.letGo old e) (u.letGo old e).checkMissing := keeps_checkRules _ _ h
    rcases ((hready.trans (keeps_letGo hposed' e h)).trans hchecked).validate_new hnew with
      hkeeps | ⟨hnone, hright⟩
    · refine Or.inl (hkeeps.trans (keeps_validateAll fun c hk hbk => ?_))
      have hq : Quiet (u.letGo old e) ((u.letGo old e).checkMissing.validate new) :=
        ((judges_checkMissing _).trans (judges_validate _ new)).quiet
      rw [hq.binding?] at hbk
      refine (Workspace.isNaming_congr hq.model c).trans ?_
      exact isNaming_of_heir hposed' htitled hk hbk
    · exact Or.inr ⟨hnone, hright.validateAll _⟩

/-- A node that is given another value leaves the verdicts on all others alone. -/
theorem keeps_setValue (hs : Poised (s, none)) (ht : s.workspace.Titled)
    (hno : ¬ (k = h ∧ (s.setValue k value).2 = .ok ())) : Keeps h s (s.setValue k value).1 := by
  rcases setValue_eq hs k value with ⟨fault, heq⟩ | ⟨c, d, u, -, -, rfl, heq⟩
  · rw [heq]
    exact .refl h s
  · have hk : h ≠ k := fun hk => hno ⟨hk.symm, by rw [heq]⟩
    have hgiven : Keeps h s (s.giveUpName k) := by
      have hreleased : Keeps h s { s with workspace := { s.workspace with
          claims := (s.workspace.claims.release (s.document.value k) k).1 } } :=
        .of_eq rfl rfl rfl
      refine hreleased.trans (keeps_validateAll fun c hm hb => ht (s.document.value k) h c ?_ hb)
      exact Claims.mem_candidates_of_release (Option.mem_toList.mp hm)
    have hwritten : Keeps h s (s.rewritten k c value d) := by
      unfold rewritten
      split_ifs
      · exact hgiven.trans (.of_eq rfl rfl rfl)
      · exact .of_eq rfl rfl rfl
    rw [heq]
    exact (hwritten.trans (keeps_checkRules _ _ h)).trans (keeps_validate _ hk)

/-- The verdict on a node that is given a value is right. -/
theorem right_setValue (hs : Poised (s, none)) (hdone : (s.setValue h value).2 = .ok ()) :
    (s.setValue h value).1.Right h := by
  rcases setValue_eq hs h value with ⟨fault, heq⟩ | ⟨c, d, u, -, -, -, heq⟩
  · rw [heq] at hdone
    simp at hdone
  · rw [heq]
    exact right_validate_self _ h

/-! ## Judging -/

/-- Asking for a verdict finds it only if there is none. -/
theorem answers_verdictOn (s : Session) (k : Handle) (deep : Bool) (h : Handle) :
    Answers h s (s.verdictOn k deep).1 := by
  cases hv : s.verdict? h with
  | none =>
    refine Or.inr ⟨hv, ?_⟩
    exact verdictOn_induction (P := fun u => u.Right h) (fun _ k hr => hr.validate k) s k deep
      (right_of_verdict?_eq_none hv)
  | some v =>
    let P : Session → Prop := fun u => u.verdict? h = some v ∧ Keeps h s u
    have hP : ∀ u k, u.document = s.document → True → u.isWhitelisted k = false →
        (false = true ∨ u.verdict? k = none) → P u → P (u.validate k) := by
      intro u k _ _ _ hnone hu
      have hne : h ≠ k := by
        rintro rfl
        rw [hu.1] at hnone
        simp at hnone
      exact ⟨(verdict?_validate_of_ne u hne).trans hu.1, hu.2.trans (keeps_validate u hne)⟩
    have hstart : P s := ⟨hv, .refl h s⟩
    left
    unfold verdictOn
    split_ifs
    · exact (judgeDeepAux_induction hP (fun _ _ _ _ => trivial) _ rfl trivial hstart).2
    · exact (judge_induction hP rfl trivial hstart).2

/-- Judging does not change what is whitelisted. -/
theorem isWhitelisted_of_judges (hj : Judges s u) (h : Handle) :
    u.isWhitelisted h = s.isWhitelisted h := by
  rw [isWhitelisted, isWhitelisted, hj.document, hj.workspace]
  rfl

/-- A verdict that is right stays so while others are found. -/
theorem Right.judge (hr : u.Right h) (anew : Bool) (k : Handle) : (u.judge anew k).1.Right h :=
  judge_induction (P := fun u => u.Right h) (V := fun _ => True)
    (fun _ k _ _ _ _ hr => hr.validate k) rfl trivial hr

/-- A verdict that stays right through one judgement stays so through several. -/
theorem Right.judgeEach {judgeOne : Session → Handle → Session × Verdict}
    (hstays : ∀ u k, u.Right h → (judgeOne u k).1.Right h) (hs : List Handle)
    {r : Session × Verdict} (hr : r.1.Right h) : (judgeEach judgeOne r hs).1.Right h :=
  judgeEach_induction (P := fun u => u.Right h) (V := fun _ => True) (fun u k _ => hstays u k)
    (fun _ _ => trivial) r hr

/-- With any fuel a right verdict stays so while all below a node is judged. -/
theorem Right.judgeDeepAux (hr : u.Right h) (anew : Bool) (fuel : Nat) (k : Handle) :
    (judgeDeepAux anew fuel u k).1.Right h :=
  judgeDeepAux_induction (P := fun u => u.Right h) (V := fun _ => True)
    (fun _ k _ _ _ _ hr => hr.validate k) (fun _ _ _ _ => trivial) fuel rfl trivial hr

/-- With any fuel judging all below a node is judging. -/
theorem judges_judgeDeepAux (anew : Bool) (fuel : Nat) (u : Session) (k : Handle) :
    Judges u (judgeDeepAux anew fuel u k).1 :=
  judgeDeepAux_induction (P := Judges u) (V := fun _ => True)
    (fun u' k _ _ _ _ hj => hj.trans (judges_validate u' k)) (fun _ _ _ _ => trivial) fuel rfl
    trivial (Judges.refl u)

/-- A verdict that is right once one of many nodes is judged is right once all are. -/
theorem right_judgeEach {judgeOne : Session → Handle → Session × Verdict}
    (hjudges : ∀ u k, Judges u (judgeOne u k).1)
    (hstays : ∀ u k, u.Right h → (judgeOne u k).1.Right h)
    (hfinds : ∀ u, Judges s u → (judgeOne u k).1.Right h) {hs : List Handle} (hk : k ∈ hs)
    {r : Session × Verdict} (hr : Judges s r.1) : (judgeEach judgeOne r hs).1.Right h := by
  induction hs generalizing r with
  | nil => simp at hk
  | cons x hs ih =>
    rcases List.mem_cons.mp hk with rfl | hk
    · exact Right.judgeEach (r := ((judgeOne r.1 k).1, r.2.and (judgeOne r.1 k).2)) hstays hs
        (hfinds r.1 hr)
    · exact ih hk (hr.trans (hjudges r.1 x))

/-- Judging all nodes below a node anew finds right verdicts on all but those that need none. -/
theorem right_judgeDeepAux (hd : s.document.Forest) {height : Handle → Nat}
    (hheight : ∀ k p, s.document.parent? k = some p → height k < height p)
    (hfree : s.isWhitelisted h = false) (htext : s.document.isText h = false) {fuel : Nat}
    (hfuel : height k < fuel) (hin : s.document.Within k h) (hu : Judges s u) :
    (judgeDeepAux true fuel u k).1.Right h := by
  have hself : ∀ u, Judges s u → (u.judge true h).1.Right h := by
    intro u hu
    have hlive : u.document.contains h = true := by
      rw [hu.document]
      exact hin.contains
    unfold judge
    rw [hlive, isWhitelisted_of_judges hu, hfree]
    exact right_validate_self u h
  induction fuel generalizing u k with
  | zero => omega
  | succ fuel ih =>
    have hown : Judges s (u.judge true k).1 := hu.trans (judges_judge true u k)
    have hstays : ∀ u k, u.Right h → (judgeDeepAux true fuel u k).1.Right h :=
      fun u k hr => hr.judgeDeepAux true fuel k
    rw [Session.judgeDeepAux]
    rcases hin.cases_inside hd with rfl | ⟨-, ha | ⟨x, hx, hxh⟩ | ht⟩
    · exact Right.judgeEach hstays _
        (Right.judgeEach (fun u k hr => hr.judge true k) _ (hself u hu))
    · rw [hu.document]
      exact Right.judgeEach hstays _ (right_judgeEach (judges_judge true)
        (fun u k hr => hr.judge true k) hself ha hown)
    · have hlt := hheight x k (hd.parent?_of_mem (Document.mem_inside.mpr
        (Or.inr (Document.mem_elements.mp hx).1)))
      have hattrs := hown.trans (judges_judgeEach (judges_judge true) (u.judge true k)
        (s.document.attributes k))
      rw [hu.document]
      exact right_judgeEach (judges_judgeDeepAux true fuel) hstays
        (fun u hu => ih (by omega) hxh hu) hx hattrs
    · rw [htext] at ht
      simp at ht

/-- Checking all rules does not change the root. -/
theorem root?_checkAllRules (s : Session) : s.checkAllRules.root? = s.root? := by
  rw [root?, root?, checkAllRules, (judges_checkRules s _).document]

/-- A revalidation judges the node anew: it lies in the root, and its value is no matter of
indifference. -/
def Reaches (s : Session) (h : Handle) : Prop :=
  s.isWhitelisted h = false ∧ ∃ r, s.root? = some r ∧ s.document.Within r h

/-- A revalidation that reaches a node leaves it judged rightly. -/
theorem right_revalidate (hs : Poised (s, none)) (hr : s.Reaches h) : s.revalidate.1.Right h := by
  obtain ⟨hfree, r, hroot, hin⟩ := hr
  intro v c hv hb
  have hbound : s.workspace.binding? h = some c :=
    ((judges_revalidate s).quiet.binding? h).symm.trans hb
  have htext := Workspace.not_isText_of_kinds (hs.sane.kinds hbound)
  have hforest := hs.sane.orderly.forest
  obtain ⟨height, hheight, hsize⟩ := hforest.exists_height
  have hdone : s.revalidate.1.Right h := by
    have hchecked := judges_checkRules s s.rules.ids
    unfold revalidate
    dsimp only
    rw [root?_checkAllRules, hroot]
    refine right_judgeDeepAux hforest hheight hfree htext ?_ hin hchecked
    rw [checkAllRules, hchecked.document]
    exact hsize r hin.contains_root
  exact hdone v c hv hb

/-- A revalidation leaves the verdict alone on a node that it does not reach. -/
theorem keeps_revalidate (hs : Poised (s, none)) (hr : ¬ s.Reaches h) :
    Keeps h s s.revalidate.1 := by
  have hchecked : Judges s s.checkAllRules := judges_checkRules s _
  have hkept : Keeps h s s.checkAllRules := keeps_checkRules s _ h
  have hlinked : s.document.Linked := hs.sane.orderly.toLinked
  unfold revalidate
  dsimp only
  rw [root?_checkAllRules]
  cases hroot : s.root? with
  | none => exact hkept
  | some r =>
    let P : Session → Prop := fun u => Judges s u ∧ Keeps h s u
    have hP : ∀ u k, u.document = s.document → s.document.Within r k →
        u.isWhitelisted k = false → (true = true ∨ u.verdict? k = none) → P u →
        P (u.validate k) := by
      intro u k _ hin hfree _ hu
      rw [isWhitelisted_of_judges hu.1] at hfree
      have hne : h ≠ k := by
        rintro rfl
        exact hr ⟨hfree, r, hroot, hin⟩
      exact ⟨hu.1.trans (judges_validate u k), hu.2.trans (keeps_validate u hne)⟩
    have hV : ∀ k, s.document.Within r k → ∀ x, x ∈ s.document.attributes k ∨
        x ∈ s.document.elements k → s.document.Within r x := by
      intro k hk x hx
      refine hk.step (hlinked.parent?_of_mem (Document.mem_inside.mpr ?_))
      exact hx.imp_right fun hx => (Document.mem_elements.mp hx).1
    have hlive : s.document.Within r r := by
      refine .self (hlinked.contains_of_mem (h := Document.top) (Document.mem_inside.mpr (Or.inr ?_)))
      exact (Document.mem_elements.mp (List.mem_of_mem_head? hroot)).1
    exact (judgeDeepAux_induction hP hV _ hchecked.document hlive ⟨hchecked, hkept⟩).2

end GuidedXml.Session
