/-
# Checking rules

What a session takes to be so of a rule is whether it is satisfied and which nodes are recorded for
it. Checking rules brings both up to date for the rules that are checked, and leaves them alone for
all others; forgetting nodes takes these from what is recorded.

The main statements say this, and that a check of the rules that are short of nodes passes over no
rule but those whose parameters each have a node of their own.
-/
import GuidedXml.Proofs.Editing.Outcomes
import GuidedXml.Proofs.Rule.Resolution

namespace GuidedXml

/-! ## Rule books -/

namespace RuleBook

variable {b : RuleBook} {d : Document} {ids : List RuleId} {id : RuleId} {r : Rule}
  {satisfied : Bool}

/-- The rule of that name, with whether it is satisfied. -/
def state? (b : RuleBook) (id : RuleId) : Option (Rule × Bool) :=
  (b.get? id).map fun e => (e.rule, e.satisfied)

/-- A rule is satisfied as its state says. -/
theorem isSatisfied_of_state? (hs : b.state? id = some (r, satisfied)) :
    b.isSatisfied id = satisfied := by
  obtain ⟨e, he, heq⟩ := Option.map_eq_some_iff.mp hs
  rw [isSatisfied, he, Option.any_some, (Prod.mk.inj heq).2]

/-- Waiting for a rule says nothing about it. -/
theorem state?_subscribe (b : RuleBook) (id id' : RuleId) :
    (b.subscribe id').1.state? id = b.state? id := by
  show ((b.entries.modify id' _).get? id).map _ = _
  rw [Table.get?_modify, state?, get?]
  split_ifs
  · rw [Option.map_map]
    rfl
  · rfl

/-- A new entry changes the state of its rule only. -/
theorem state?_insert (b : RuleBook) (id id' : RuleId) (e : Entry) :
    ({ b with entries := b.entries.insert id' e } : RuleBook).state? id =
      if id = id' then some (e.rule, e.satisfied) else b.state? id := by
  rw [state?, get?]
  dsimp only
  rw [Table.get?_insert]
  split_ifs <;> rfl

/-- After an evaluation, the rules evaluated are satisfied exactly if they hold, and all others are
as before. -/
theorem state?_evaluate (b : RuleBook) (d : Document) (ids : List RuleId) (id : RuleId) :
    (b.evaluate d ids).1.state? id =
      if id ∈ ids then (b.state? id).map fun x => (x.1, x.1.holds d) else b.state? id := by
  induction ids generalizing b with
  | nil => rfl
  | cons id' ids ih =>
    rw [evaluate]
    cases he : b.get? id' with
    | none =>
      dsimp only
      rw [ih]
      by_cases hid : id = id'
      · have hnone : b.state? id = none := by rw [state?, hid, he, Option.map_none]
        simp [hnone]
      · simp [hid]
    | some e =>
      dsimp only
      rw [ih, state?_insert]
      by_cases hid : id = id'
      · have hold : b.state? id' = some (e.rule, e.satisfied) := by
          rw [state?, he, Option.map_some]
        rw [if_pos hid, hid, hold, if_pos (List.mem_cons_self ..)]
        split_ifs <;> rfl
      · simp [hid]

/-- What an evaluation finds out is about the rules evaluated, as they are in force. -/
theorem of_mem_evaluate {x : RuleId × Evaluation} (hx : x ∈ (b.evaluate d ids).2)
    (hs : b.state? x.1 = some (r, satisfied)) :
    x.1 ∈ ids ∧ ∃ e : Entry, e.rule = r ∧ x.2 = e.evaluation d := by
  induction ids generalizing b satisfied with
  | nil => simp [evaluate] at hx
  | cons id' ids ih =>
    rw [evaluate] at hx
    cases he : b.get? id' with
    | none =>
      rw [he] at hx
      obtain ⟨hmem, hfound⟩ := ih hx hs
      exact ⟨List.mem_cons_of_mem _ hmem, hfound⟩
    | some e =>
      rw [he] at hx
      rcases List.mem_cons.mp hx with rfl | hx
      · rw [state?, he] at hs
        obtain rfl := (Prod.mk.inj (Option.some.inj hs)).1
        exact ⟨List.mem_cons_self .., e, rfl, rfl⟩
      · -- an evaluation before this one has not replaced the rule
        obtain ⟨satisfied', hs'⟩ : ∃ satisfied', ({ b with
            entries := b.entries.insert id' (e.after d) } : RuleBook).state? x.1 =
              some (r, satisfied') := by
          rw [state?_insert]
          split_ifs with hid
          · rw [hid, state?, he] at hs
            obtain rfl := (Prod.mk.inj (Option.some.inj hs)).1
            exact ⟨_, rfl⟩
          · exact ⟨_, hs⟩
        obtain ⟨hmem, hfound⟩ := ih hx hs'
        exact ⟨List.mem_cons_of_mem _ hmem, hfound⟩

/-- A rule that is asked for and in the book is evaluated. -/
theorem exists_mem_evaluate (hid : id ∈ ids) (hs : b.state? id = some (r, satisfied)) :
    ∃ x ∈ (b.evaluate d ids).2, x.1 = id := by
  induction ids generalizing b satisfied with
  | nil => simp at hid
  | cons id' ids ih =>
    rw [evaluate]
    cases he : b.get? id' with
    | none =>
      rcases List.mem_cons.mp hid with rfl | hid
      · rw [state?, he] at hs
        simp at hs
      · exact ih hid hs
    | some e =>
      dsimp only
      by_cases heq : id = id'
      · exact ⟨_, List.mem_cons_self .., heq.symm⟩
      · obtain ⟨x, hx, hid'⟩ := ih ((List.mem_cons.mp hid).resolve_left heq)
          ((state?_insert b id id' (e.after d)).trans ((if_neg heq).trans hs))
        exact ⟨x, List.mem_cons_of_mem _ hx, hid'⟩

/-- What has a state has an entry. -/
theorem exists_mem_of_state? (hs : b.state? id = some (r, satisfied)) :
    ∃ e, (id, e) ∈ b.entries.entries ∧ e.rule = r := by
  obtain ⟨e, he, heq⟩ := Option.map_eq_some_iff.mp hs
  refine ⟨e, ?_, (Prod.mk.inj heq).1⟩
  have hmem : ∀ es : List (RuleId × Entry), Table.lookup id es = some e → (id, e) ∈ es := by
    intro es
    induction es with
    | nil => simp [Table.lookup]
    | cons x es ih =>
      intro hl
      rw [Table.lookup] at hl
      split_ifs at hl with hx
      · exact List.mem_cons.mpr (Or.inl (Prod.ext hx.symm (Option.some.inj hl).symm))
      · exact List.mem_cons_of_mem _ (ih hl)
  exact hmem _ he

/-- What has a state is in the book. -/
theorem mem_ids_of_state? (hs : b.state? id = some (r, satisfied)) : id ∈ b.ids := by
  obtain ⟨e, he, -⟩ := exists_mem_of_state? hs
  exact List.mem_map.mpr ⟨(id, e), he, rfl⟩

/-- A rule that is short of nodes is among those that miss some. -/
theorem mem_missingParameters {recorded : RuleId → Option Nat} {n : Nat}
    (hs : b.state? r.id = some (r, satisfied)) (hn : recorded r.id = some n)
    (hlt : n < r.parameters.length) : r.id ∈ b.missingParameters recorded := by
  obtain ⟨e, he, rfl⟩ := exists_mem_of_state? hs
  unfold missingParameters
  refine List.mem_map.mpr ⟨e, List.mem_filter.mpr ⟨List.mem_map.mpr ⟨_, he, rfl⟩, ?_⟩, rfl⟩
  simp [hn, hlt]

end RuleBook

/-! ## What is recorded -/

namespace Workspace

variable {w : Workspace} {d : Document}

/-- A forgotten node is taken from what is recorded, whichever rule led to it. -/
theorem Traced.recorded_forgetNode (ht : Traced w d) (h : Handle) (r : RuleId) :
    (w.forgetNode d h).1.recorded.get? r =
      (w.recorded.get? r).map (List.filter fun k => k ≠ h) := by
  have hfold : ∀ (rs : List RuleId) (t : Table RuleId (List Handle)),
      (rs.foldl (fun t r => t.modify r fun hs => hs.filter (· ≠ h)) t).get? r =
        if r ∈ rs then (t.get? r).map (List.filter fun k => k ≠ h) else t.get? r := by
    intro rs
    induction rs with
    | nil => exact fun _ => rfl
    | cons r' rs ih =>
      intro t
      rw [List.foldl_cons, ih, Table.get?_modify]
      by_cases hr : r = r'
      · subst hr
        simp only [if_true, List.mem_cons_self, Option.map_map]
        split_ifs
        · refine congrFun (congrArg Option.map ?_) _
          funext hs
          simp
        · rfl
      · simp [hr]
  refine (hfold _ _).trans ?_
  split_ifs with hr
  · rfl
  · -- a rule that the node does not know of has not led to it
    cases hrec : w.recorded.get? r with
    | none => rfl
    | some hs =>
      rw [Option.map_some, List.filter_eq_self.mpr]
      intro k hk
      rw [decide_eq_true_eq]
      rintro rfl
      exact hr (ht.mem_rulesOf (by rw [Table.getD, hrec]; exact hk))

/-- Forgetting nodes takes them out of what was recorded. -/
theorem Traced.recorded_forgetNodes (ht : Traced w d) (hs : List Handle) (r : RuleId) :
    (w.forgetNodes d hs).1.recorded.get? r =
      (w.recorded.get? r).map (List.filter fun k => k ∉ hs) := by
  induction hs generalizing w with
  | nil =>
    show w.recorded.get? r = _
    cases w.recorded.get? r <;> simp
  | cons h hs ih =>
    show ((w.forgetNode d h).1.forgetNodes d hs).1.recorded.get? r = _
    rw [ih (ht.forgetNode h).1, ht.recorded_forgetNode, Option.map_map]
    refine congrFun (congrArg Option.map ?_) _
    funext ks
    simp [List.filter_filter, Bool.and_comm]

/-- Forgotten nodes are taken from what is recorded, whichever rule led to them. -/
theorem Traced.recorded_forget (ht : Traced w d) (h : Handle) (r : RuleId) :
    (w.forget d h).1.recorded.get? r =
      (w.recorded.get? r).map (List.filter fun k => k ∉ d.subtree h) := by
  have hdetached : Traced { w with outline := w.outline.detach h } d :=
    ⟨fun hm => ht.contains (mentions_outline hm), ht.mem_rulesOf, ht.bound⟩
  exact hdetached.recorded_forgetNodes (d.subtree h) r

/-- The rules about a subtree are those about its nodes. -/
theorem mem_rulesOfSubtree {h : Handle} {r : RuleId} :
    r ∈ w.rulesOfSubtree d h ↔ ∃ k ∈ d.subtree h, r ∈ w.rulesOf k := by
  have hfold : ∀ (hs : List Handle) (rs : List RuleId),
      r ∈ hs.foldl (fun rs n => appendRules rs (w.rulesOf n)) rs ↔
        r ∈ rs ∨ ∃ k ∈ hs, r ∈ w.rulesOf k := by
    intro hs
    induction hs with
    | nil => simp
    | cons h hs ih =>
      intro rs
      rw [List.foldl_cons, ih, mem_appendRules, List.exists_mem_cons_iff, or_assoc]
  unfold rulesOfSubtree
  rw [hfold]
  simp

end Workspace

/-! ## Sessions -/

namespace Session

variable {s s' : Session} {r : Rule} {b : Bool} {ns : List Handle} {ids : List RuleId}

/-- While the rule is in force, the session takes it to be satisfied or not, and has these nodes
recorded for it. -/
def Takes (s : Session) (r : Rule) (satisfied : Bool) (nodes : List Handle) : Prop :=
  ∀ b, s.rules.state? r.id = some (r, b) →
    b = satisfied ∧ s.workspace.recorded.get? r.id = some nodes

/-- What a session takes to be so depends on the state and on the record of the rule. -/
theorem Takes.congr (ht : s.Takes r b ns)
    (hrules : s'.rules.state? r.id = s.rules.state? r.id)
    (hrec : s'.workspace.recorded.get? r.id = s.workspace.recorded.get? r.id) :
    s'.Takes r b ns := by
  intro b' hb
  rw [hrec]
  exact ht b' (hrules.symm.trans hb)

/-- Noting an evaluation changes no state. -/
theorem state?_noteEvaluation (held : RuleId → Bool) (s : Session)
    (e : RuleId × RuleBook.Evaluation) (id : RuleId) :
    (s.noteEvaluation held e).rules.state? id = s.rules.state? id := by
  unfold noteEvaluation
  dsimp only
  split_ifs
  · unfold report
    dsimp only
    split
    · rfl
    · exact RuleBook.state?_subscribe _ _ _
  · rfl

/-- Noting an evaluation records its nodes without duplicates. -/
theorem recorded_noteEvaluation (held : RuleId → Bool) (s : Session)
    (e : RuleId × RuleBook.Evaluation) : (s.noteEvaluation held e).workspace.recorded =
      s.workspace.recorded.insert e.1 e.2.nodes.eraseDups := by
  obtain ⟨rules, notices, heq⟩ := exists_noteEvaluation held s e
  rw [heq, ← Workspace.recorded_recordRule]

/-- Noting evaluations changes no state. -/
theorem state?_foldl_noteEvaluation (held : RuleId → Bool)
    (es : List (RuleId × RuleBook.Evaluation)) (s : Session) (id : RuleId) :
    (es.foldl (noteEvaluation held) s).rules.state? id = s.rules.state? id := by
  induction es generalizing s with
  | nil => rfl
  | cons e es ih => exact (ih _).trans (state?_noteEvaluation held s e id)

/-- The nodes of a rule are recorded if it was among the rules evaluated. -/
theorem recorded_foldl_noteEvaluation (held : RuleId → Bool)
    (es : List (RuleId × RuleBook.Evaluation)) (s : Session) (id : RuleId) {nodes : List Handle}
    (hnodes : ∀ e ∈ es, e.1 = id → e.2.nodes.eraseDups = nodes) :
    (es.foldl (noteEvaluation held) s).workspace.recorded.get? id =
      if ∃ e ∈ es, e.1 = id then some nodes else s.workspace.recorded.get? id := by
  induction es generalizing s with
  | nil => simp
  | cons e es ih =>
    rw [List.foldl_cons, ih _ fun x hx => hnodes x (List.mem_cons_of_mem _ hx),
      recorded_noteEvaluation, Table.get?_insert]
    by_cases he : e.1 = id
    · simp [he, hnodes e (List.mem_cons_self ..) he]
    · simp only [List.exists_mem_cons_iff, he, Ne.symm he, false_or, if_false]

/-- Checking rules sets the states of those checked to what the document says. -/
theorem state?_checkRules (s : Session) (ids : List RuleId) (id : RuleId) :
    (s.checkRules ids).rules.state? id = if id ∈ ids then
      (s.rules.state? id).map fun x => (x.1, x.1.holds s.document) else s.rules.state? id :=
  (state?_foldl_noteEvaluation _ _ _ _).trans (RuleBook.state?_evaluate _ _ _ _)

/-- Checking rules records the nodes of those checked. -/
theorem recorded_checkRules (ids : List RuleId) (hb : s.rules.state? r.id = some (r, b)) :
    (s.checkRules ids).workspace.recorded.get? r.id =
      if r.id ∈ ids then some (r.nodes s.document) else s.workspace.recorded.get? r.id := by
  have hfound : ∀ e ∈ (s.rules.evaluate s.document ids).2, e.1 = r.id →
      r.id ∈ ids ∧ e.2.nodes = r.nodes s.document := by
    intro e he hid
    obtain ⟨hmem, e', rfl, heq⟩ := RuleBook.of_mem_evaluate he (by rw [hid]; exact hb)
    exact ⟨hid ▸ hmem, heq ▸ rfl⟩
  have hiff : (∃ e ∈ (s.rules.evaluate s.document ids).2, e.1 = r.id) ↔ r.id ∈ ids :=
    ⟨fun ⟨e, he, hid⟩ => (hfound e he hid).1, fun hid => RuleBook.exists_mem_evaluate hid hb⟩
  unfold checkRules
  dsimp only
  rw [recorded_foldl_noteEvaluation _ _ _ _ fun e he hid => by
    rw [(hfound e he hid).2, Rule.eraseDups_nodes]]
  simp only [hiff]

/-- A rule that is checked is brought up to date. -/
theorem takes_checkRules_of_mem (s : Session) (hid : r.id ∈ ids) :
    (s.checkRules ids).Takes r (r.holds s.document) (r.nodes s.document) := by
  intro b hb
  rw [state?_checkRules, if_pos hid] at hb
  obtain ⟨⟨r', b'⟩, hold, heq⟩ := Option.map_eq_some_iff.mp hb
  obtain ⟨rfl, rfl⟩ := Prod.mk.inj heq
  exact ⟨rfl, (recorded_checkRules ids hold).trans (if_pos hid)⟩

/-- All rules in force are brought up to date at once. -/
theorem takes_checkAllRules (s : Session) (r : Rule) :
    s.checkAllRules.Takes r (r.holds s.document) (r.nodes s.document) := by
  by_cases hid : r.id ∈ s.rules.ids
  · exact takes_checkRules_of_mem s hid
  · intro b hb
    rw [checkAllRules, state?_checkRules, if_neg hid] at hb
    exact absurd (RuleBook.mem_ids_of_state? hb) hid

/-- Nothing changes for a rule that is not checked. -/
theorem Takes.checkRules (ht : s.Takes r b ns) (hid : r.id ∉ ids) :
    (s.checkRules ids).Takes r b ns := by
  intro b' hb
  rw [state?_checkRules, if_neg hid] at hb
  obtain ⟨heq, hrec⟩ := ht b' hb
  exact ⟨heq, (recorded_checkRules ids hb).trans ((if_neg hid).trans hrec)⟩

/-- A check of the rules that are short of nodes brings a rule up to date, unless there are as many
nodes recorded for it as it has parameters. -/
theorem Takes.checkMissing (ht : s.Takes r b ns) :
    s.checkMissing.Takes r (r.holds s.document) (r.nodes s.document) ∨
      r.parameters.length ≤ ns.length ∧ s.checkMissing.Takes r b ns := by
  by_cases hid : r.id ∈ s.rules.missingParameters fun r =>
      (s.workspace.recorded.get? r).map List.length
  · exact Or.inl (takes_checkRules_of_mem s hid)
  · by_cases hforce : ∃ b', s.rules.state? r.id = some (r, b')
    · obtain ⟨b', hb⟩ := hforce
      refine Or.inr ⟨?_, ht.checkRules hid⟩
      by_contra hlt
      refine hid (RuleBook.mem_missingParameters hb ?_ (Nat.lt_of_not_le hlt))
      rw [(ht b' hb).2, Option.map_some]
    · -- a rule that is not in force does not come to be in force
      left
      intro b' hb
      rw [Session.checkMissing, state?_checkRules, if_neg hid] at hb
      exact absurd ⟨b', hb⟩ hforce

section Finding

variable {P : Session → Prop} {V : Handle → Prop} {d : Document} {anew : Bool} {h : Handle}

/-- What one judgement keeps is kept by several. -/
theorem judgeEach_induction {judgeOne : Session → Handle → Session × Verdict}
    (hjudge : ∀ s h, V h → P s → P (judgeOne s h).1) {hs : List Handle} (hall : ∀ h ∈ hs, V h)
    (r : Session × Verdict) (hr : P r.1) : P (judgeEach judgeOne r hs).1 := by
  induction hs generalizing r with
  | nil => exact hr
  | cons h hs ih =>
    exact ih (fun x hx => hall x (List.mem_cons_of_mem _ hx)) _
      (hjudge r.1 h (hall h (List.mem_cons_self ..)) hr)

section Visiting

variable (hP : ∀ s h, s.document = d → V h → s.isWhitelisted h = false →
  (anew = true ∨ s.verdict? h = none) → P s → P (s.validate h))

include hP

/-- What recording keeps is kept by judging. -/
theorem judge_induction (hd : s.document = d) (hh : V h) (hs : P s) : P (s.judge anew h).1 := by
  unfold judge
  split_ifs with hdead hfree hfind
  · exact hs
  · exact hs
  · refine hP s h hd hh (Bool.not_eq_true _ ▸ hfree) ?_ hs
    simpa using hfind
  · exact hs

/-- What is kept while one verdict is found is kept while many are found. Only nodes are visited
that lie inside each other. -/
theorem judgeDeepAux_induction
    (hV : ∀ h, V h → ∀ k, k ∈ d.attributes h ∨ k ∈ d.elements h → V k) (fuel : Nat)
    (hd : s.document = d) (hh : V h) (hs : P s) : P (judgeDeepAux anew fuel s h).1 := by
  have hone : ∀ s h, V h → s.document = d ∧ P s →
      (s.judge anew h).1.document = d ∧ P (s.judge anew h).1 := fun s h hh hs =>
    ⟨(judges_judge anew s h).document.trans hs.1, judge_induction hP hs.1 hh hs.2⟩
  have hdeep : ∀ (fuel : Nat) (s : Session) (h : Handle), V h → s.document = d ∧ P s →
      (judgeDeepAux anew fuel s h).1.document = d ∧ P (judgeDeepAux anew fuel s h).1 := by
    intro fuel
    induction fuel with
    | zero => exact fun _ _ _ hs => hs
    | succ fuel ih =>
      intro s h hh hs
      refine judgeEach_induction (P := fun s => s.document = d ∧ P s) ih ?_ _
        (judgeEach_induction (P := fun s => s.document = d ∧ P s) hone ?_ _ (hone s h hh hs))
      · rw [hs.1]
        exact fun k hk => hV h hh k (Or.inr hk)
      · rw [hs.1]
        exact fun k hk => hV h hh k (Or.inl hk)
  exact (hdeep fuel s h hh ⟨hd, hs⟩).2

end Visiting

variable (hP : ∀ s h, P s → P (s.validate h))

include hP

/-- What recording keeps is kept by a request for a verdict. -/
theorem verdictOn_induction (s : Session) (h : Handle) (deep : Bool) (hs : P s) :
    P (s.verdictOn h deep).1 := by
  unfold verdictOn
  split_ifs
  · exact judgeDeepAux_induction (V := fun _ => True) (fun s h _ _ _ _ => hP s h)
      (fun _ _ _ _ => trivial) _ rfl trivial hs
  · exact judge_induction (V := fun _ => True) (fun s h _ _ _ _ => hP s h) rfl trivial hs

/-- A revalidation checks all rules and then finds verdicts. -/
theorem revalidate_induction (s : Session) (hs : P s.checkAllRules) : P s.revalidate.1 := by
  unfold revalidate
  dsimp only
  split
  · exact hs
  · exact judgeDeepAux_induction (V := fun _ => True) (fun s h _ _ _ _ => hP s h)
      (fun _ _ _ _ => trivial) _ rfl trivial hs

end Finding

/-- Finding verdicts is no matter of rules. -/
theorem Takes.validateAll (ht : s.Takes r b ns) (hs : List Handle) :
    (s.validateAll hs).Takes r b ns := by
  rw [validateAll_eq]
  exact ht

/-- Giving up offers is no matter of rules. -/
theorem Takes.giveUp (ht : s.Takes r b ns) (p : Handle) :
    Takes { s with workspace := s.workspace.invalidate s.document p } r b ns := by
  refine ht.congr rfl ?_
  dsimp only
  rw [Workspace.invalidate_eq]

/-- Nodes that are let go are taken from what is recorded for the rule. -/
theorem Takes.letGo (ht : s.Takes r b ns) (htraced : s.workspace.Traced s.document) (h : Handle)
    (d : Document) : (s.letGo h d).Takes r b (ns.filter fun k => k ∉ s.document.subtree h) := by
  intro b' hb
  obtain ⟨heq, hrec⟩ := ht b' hb
  refine ⟨heq, ?_⟩
  show (s.workspace.forget s.document h).1.recorded.get? r.id = _
  rw [htraced.recorded_forget, hrec, Option.map_some]

/-- Parting with an old node brings a rule up to date, unless none of the nodes recorded for it is
below the old one. -/
theorem Takes.partWith (ht : s.Takes r b ns) (htraced : s.workspace.Traced s.document)
    (old parent : Handle) :
    (s.partWith old parent).Takes r (r.holds s.document) (r.nodes s.document) ∨
      (∀ k ∈ ns, k ∉ s.document.subtree old) ∧ (s.partWith old parent).Takes r b ns := by
  by_cases hid : r.id ∈ s.workspace.rulesOfSubtree s.document old
  · exact Or.inl ((takes_checkRules_of_mem s hid).giveUp parent)
  · by_cases hforce : ∃ b', s.rules.state? r.id = some (r, b')
    · obtain ⟨b', hb⟩ := hforce
      refine Or.inr ⟨fun k hk hin => hid ?_, (ht.checkRules hid).giveUp parent⟩
      have hrec : k ∈ s.workspace.recorded.getD r.id [] := by
        rw [Table.getD, (ht b' hb).2]
        exact hk
      exact Workspace.mem_rulesOfSubtree.mpr ⟨k, hin, htraced.mem_rulesOf hrec⟩
    · left
      intro b' hb
      replace hb : (s.checkRules _).rules.state? r.id = some (r, b') := hb
      rw [state?_checkRules, if_neg hid] at hb
      exact absurd ⟨b', hb⟩ hforce

end Session

end GuidedXml
