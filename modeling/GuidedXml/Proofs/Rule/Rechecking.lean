/-
# Checks that find nothing new

A check of a rule writes down in many places what it found: whether the rule holds, which nodes it
has led to, that it is about these nodes, with the verdicts on them, and what there was to complain
of. While the document stays as it is, a second check finds the same.

The main statements say that all is written down once all rules were checked, also while verdicts
are found, and that a check then changes nothing and tells the user nothing.
-/
import GuidedXml.Proofs.Rule.Notifying

namespace GuidedXml

/-! ## Nodes of a rule -/

namespace Workspace

variable {w : Workspace} {r r' : RuleId} {h k : Handle} {nodes : List Handle}

/-- The rule is among those about the node, and in every verdict that is kept for it. -/
structure Mentioned (w : Workspace) (r : RuleId) (k : Handle) : Prop where
  relevant : ∃ rs, w.relevant.get? k = some rs ∧ r ∈ rs
  verdicts : ∀ x ∈ w.verdicts.entries, x.1 = k → r ∈ x.2.rules

/-- A rule that is mentioned can be added without any change. -/
theorem Mentioned.addRelevance_eq (hm : w.Mentioned r h) : w.addRelevance r h = w := by
  obtain ⟨rs, hrs, hr⟩ := hm.relevant
  have hrules : appendRule (w.rulesOf h) r = rs := by
    rw [rulesOf, Table.getD, hrs]
    exact if_pos (List.contains_iff_mem.mpr hr)
  have hverdicts : w.verdicts.modify h (fun v => v.addRule r) = w.verdicts := by
    refine Table.modify_eq_self fun x hx hxh => ?_
    rw [Verdict.addRule, appendRule, if_pos (List.contains_iff_mem.mpr (hm.verdicts x hx hxh))]
  rw [addRelevance, hrules, hverdicts, Table.insert_of_get? hrs]

/-- A rule that becomes relevant to a node is mentioned there. -/
theorem mentioned_addRelevance_self (w : Workspace) (r : RuleId) (h : Handle) :
    (w.addRelevance r h).Mentioned r h where
  relevant := ⟨_, Table.get?_insert_self .., mem_appendRule.mpr (Or.inr rfl)⟩
  verdicts := by
    intro x hx hxh
    obtain ⟨y, -, -, hxy⟩ := Table.exists_of_mem_modify hx
    rw [hxy, if_pos hxh]
    exact mem_appendRule.mpr (Or.inr rfl)

/-- What is mentioned stays so when a rule becomes relevant. -/
theorem Mentioned.addRelevance (hm : w.Mentioned r k) (r' : RuleId) (h : Handle) :
    (w.addRelevance r' h).Mentioned r k where
  relevant := by
    obtain ⟨rs, hrs, hr⟩ := hm.relevant
    by_cases hk : k = h
    · subst hk
      refine ⟨_, Table.get?_insert_self .., mem_appendRule.mpr (Or.inl ?_)⟩
      rw [rulesOf, Table.getD, hrs]
      exact hr
    · exact ⟨rs, (Table.get?_insert ..).trans ((if_neg hk).trans hrs), hr⟩
  verdicts := by
    intro x hx hxk
    obtain ⟨y, hy, hyx, hxy⟩ := Table.exists_of_mem_modify hx
    have hr := hm.verdicts y hy (hyx.trans hxk)
    rw [hxy]
    split_ifs
    · exact mem_appendRule.mpr (Or.inl hr)
    · exact hr

/-- What is mentioned stays so when another rule is no longer relevant. -/
theorem Mentioned.dropRelevance (hm : w.Mentioned r k) (hne : r ≠ r') (h : Handle) :
    (w.dropRelevance r' h).Mentioned r k where
  relevant := by
    obtain ⟨rs, hrs, hr⟩ := hm.relevant
    show ∃ rs, (w.relevant.putList h _).get? k = some rs ∧ r ∈ rs
    rw [Table.get?_putList]
    by_cases hk : k = h
    · subst hk
      have hkept : r ∈ (w.rulesOf k).filter (· ≠ r') := by
        rw [rulesOf, Table.getD, hrs]
        exact List.mem_filter.mpr ⟨hr, decide_eq_true hne⟩
      rw [if_pos rfl, if_neg (by rw [List.isEmpty_iff]; exact List.ne_nil_of_mem hkept)]
      exact ⟨_, rfl, hkept⟩
    · rw [if_neg hk]
      exact ⟨rs, hrs, hr⟩
  verdicts := by
    intro x hx hxk
    obtain ⟨y, hy, hyx, hxy⟩ := Table.exists_of_mem_modify hx
    have hr := hm.verdicts y hy (hyx.trans hxk)
    rw [hxy]
    split_ifs
    · exact List.mem_filter.mpr ⟨hr, decide_eq_true hne⟩
    · exact hr

/-- A verdict that names the rules about its node mentions what was mentioned. -/
theorem Mentioned.find (hm : w.Mentioned r k) {v : Verdict} (hv : v.rules = w.rulesOf h) :
    Mentioned { w with verdicts := w.verdicts.insert h v } r k where
  relevant := hm.relevant
  verdicts := by
    intro x hx hxk
    rcases Table.mem_of_mem_write hx with rfl | hx
    · obtain ⟨rs, hrs, hr⟩ := hm.relevant
      obtain rfl : h = k := hxk
      show r ∈ v.rules
      rw [hv, rulesOf, Table.getD, hrs]
      exact hr
    · exact hm.verdicts x hx hxk

/-- The nodes are recorded for the rule, and it is mentioned for each of them. -/
structure Records (w : Workspace) (r : RuleId) (nodes : List Handle) : Prop where
  recorded : w.recorded.get? r = some nodes
  mentioned : ∀ k ∈ nodes, w.Mentioned r k

/-- What is recorded can be recorded again without any change. -/
theorem Records.recordRule_eq (hr : w.Records r nodes.eraseDups) : w.recordRule r nodes = w := by
  have hgone : ((w.recorded.getD r []).filter fun h => !nodes.eraseDups.contains h) = [] := by
    rw [Table.getD, hr.recorded]
    exact List.filter_eq_nil_iff.mpr fun k hk => by simpa using hk
  have hadded : ∀ hs : List Handle, (∀ h ∈ hs, w.Mentioned r h) →
      hs.foldl (fun w h => w.addRelevance r h) w = w := by
    intro hs
    induction hs with
    | nil => exact fun _ => rfl
    | cons h hs ih =>
      intro hall
      obtain ⟨hfirst, hrest⟩ := List.forall_mem_cons.mp hall
      rw [List.foldl_cons, hfirst.addRelevance_eq, ih hrest]
  unfold recordRule
  dsimp only
  rw [hgone, List.foldl_nil, hadded _ hr.mentioned, Table.insert_of_get? hr.recorded]

/-- Once its nodes were recorded, the rule is mentioned for each of them. -/
theorem records_recordRule (w : Workspace) (r : RuleId) (nodes : List Handle) :
    (w.recordRule r nodes).Records r nodes.eraseDups where
  recorded := by
    rw [recorded_recordRule]
    exact Table.get?_insert_self ..
  mentioned := by
    have hfold : ∀ (hs : List Handle) (w : Workspace) (k : Handle), k ∈ hs ∨ w.Mentioned r k →
        (hs.foldl (fun w h => w.addRelevance r h) w).Mentioned r k := by
      intro hs
      induction hs with
      | nil => exact fun w k hk => hk.resolve_left List.not_mem_nil
      | cons h hs ih =>
        intro w k hk
        refine ih _ k ?_
        rw [List.mem_cons, or_assoc] at hk
        rcases hk with rfl | hk | hk
        · exact Or.inr (mentioned_addRelevance_self w r k)
        · exact Or.inl hk
        · exact Or.inr (hk.addRelevance r h)
    intro k hk
    have hadded := hfold nodes.eraseDups (((w.recorded.getD r []).filter fun h =>
      !nodes.eraseDups.contains h).foldl (fun w h => w.dropRelevance r h) w) k (Or.inl hk)
    exact ⟨hadded.relevant, hadded.verdicts⟩

/-- The nodes of another rule can be recorded without any change to those of this one. -/
theorem Records.recordRule (hr : w.Records r nodes) (hne : r ≠ r') (nodes' : List Handle) :
    (w.recordRule r' nodes').Records r nodes where
  recorded := by
    rw [recorded_recordRule]
    exact (Table.get?_insert ..).trans ((if_neg hne).trans hr.recorded)
  mentioned := by
    have hfold : ∀ {f : Workspace → Handle → Workspace} {k : Handle},
        (∀ w h, w.Mentioned r k → (f w h).Mentioned r k) →
        ∀ (hs : List Handle) (w : Workspace), w.Mentioned r k → (hs.foldl f w).Mentioned r k := by
      intro f k hf hs
      induction hs with
      | nil => exact fun _ hm => hm
      | cons h hs ih => exact fun w hm => ih _ (hf w h hm)
    intro k hk
    have hmoved := hfold (fun w h hm => hm.addRelevance r' h) nodes'.eraseDups _
      (hfold (fun w h hm => hm.dropRelevance hne h)
        ((w.recorded.getD r' []).filter fun h => !nodes'.eraseDups.contains h) w
        (hr.mentioned k hk))
    exact ⟨hmoved.relevant, hmoved.verdicts⟩

end Workspace

/-! ## Evaluations -/

namespace RuleBook

variable {b : RuleBook} {d : Document} {ids : List RuleId} {id : RuleId} {r : Rule} {e : Entry}

/-- What is known of the rules is what the document says. -/
def Settled (b : RuleBook) (d : Document) : Prop :=
  ∀ id e, b.get? id = some e → e.satisfied = e.rule.holds d

/-- An entry that says what the document says is left as it is. -/
theorem Entry.after_eq (he : e.satisfied = e.rule.holds d) : e.after d = e := by
  rw [Entry.after, ← he]
  cases e with
  | mk rule satisfied waiting => cases satisfied <;> rfl

/-- An evaluation changes nothing about rules that are settled. -/
theorem Settled.evaluate (hb : b.Settled d) (ids : List RuleId) : (b.evaluate d ids).1 = b ∧
    ∀ x ∈ (b.evaluate d ids).2, ∃ e, b.get? x.1 = some e ∧ x.2 = e.evaluation d := by
  induction ids with
  | nil => exact ⟨rfl, fun x hx => absurd hx List.not_mem_nil⟩
  | cons id ids ih =>
    rw [RuleBook.evaluate]
    cases he : b.get? id with
    | none => exact ih
    | some e =>
      have hsame : ({ b with entries := b.entries.insert id (e.after d) } : RuleBook) = b := by
        rw [Entry.after_eq (hb id e he), Table.insert_of_get? he]
      dsimp only
      rw [hsame]
      exact ⟨ih.1, List.forall_mem_cons.mpr ⟨⟨e, he, rfl⟩, ih.2⟩⟩

end RuleBook

namespace Session

variable {s : Session} {r : Rule} {id : RuleId} {h : Handle} {e : RuleBook.Entry}
  {x : RuleId × RuleBook.Evaluation} {held : RuleId → Bool}

/-- What a check finds out of the rule is written down. -/
structure WrittenDown (s : Session) (id : RuleId) (r : Rule) : Prop where
  records : s.workspace.Records id (r.nodes s.document)
  diagnostics : s.diagnostics.get? id = some (r.diagnostics s.document)

/-- Of every rule in force, it is known whether it holds, and what a check finds out is written
down. -/
structure Checked (s : Session) : Prop where
  settled : s.rules.Settled s.document
  written : ∀ id e, s.rules.get? id = some e → s.WrittenDown id e.rule

/-! ## Checks without effect -/

/-- An evaluation that found nothing new is noted without any change. -/
theorem WrittenDown.noteEvaluation_eq (hw : s.WrittenDown x.1 e.rule)
    (hx : x.2 = e.evaluation s.document) : s.noteEvaluation s.isQuietAbout x = s := by
  have hrecords := hw.records
  rw [← Rule.eraseDups_nodes] at hrecords
  have hnoted : ({ s with
      workspace := s.workspace.recordRule x.1 (e.rule.nodes s.document)
      diagnostics := s.diagnostics.insert x.1 (e.rule.diagnostics s.document) } : Session) = s := by
    rw [hrecords.recordRule_eq, Table.insert_of_get? hw.diagnostics]
  -- nothing is new to the user either: if the rule is violated, this was known
  have hquiet : (!s.rules.isSatisfied x.1 && s.isQuietAbout x.1) = false := by
    have hcontains : s.workspace.recorded.contains x.1 = true := by
      rw [Table.contains, hw.records.recorded]
      rfl
    rw [isQuietAbout, hcontains, Bool.not_true, Bool.false_or, Bool.not_and_self]
  unfold noteEvaluation
  rw [hx]
  dsimp only [RuleBook.Entry.evaluation]
  rw [hquiet, if_neg Bool.false_ne_true]
  exact hnoted

/-- A check after which there is nothing to find out changes nothing. -/
theorem Checked.checkRules_eq (hs : s.Checked) (ids : List RuleId) : s.checkRules ids = s := by
  obtain ⟨hrules, hfound⟩ := hs.settled.evaluate ids
  unfold checkRules
  dsimp only
  rw [hrules]
  generalize (s.rules.evaluate s.document ids).2 = es at hfound
  induction es with
  | nil => rfl
  | cons x es ih =>
    obtain ⟨⟨e, he, hx⟩, hrest⟩ := List.forall_mem_cons.mp hfound
    rw [List.foldl_cons]
    have hsame : noteEvaluation s.isQuietAbout { s with rules := s.rules } x = s :=
      (hs.written x.1 e he).noteEvaluation_eq hx
    rw [hsame]
    exact ih hrest

/-! ## Checks of all rules -/

/-- What is noted is written down. -/
theorem writtenDown_noteEvaluation (hnodes : x.2.nodes = r.nodes s.document)
    (hdiagnostics : x.2.diagnostics = r.diagnostics s.document) :
    (s.noteEvaluation held x).WrittenDown x.1 r := by
  obtain ⟨rules, notices, heq⟩ := exists_noteEvaluation held s x
  rw [heq]
  refine ⟨?_, ?_⟩
  · have hled : x.2.nodes.eraseDups = r.nodes s.document := by
      rw [hnodes, Rule.eraseDups_nodes]
    exact hled ▸ s.workspace.records_recordRule x.1 x.2.nodes
  · rw [← hdiagnostics]
    exact Table.get?_insert_self ..

/-- What is written down stays so when another rule is noted. -/
theorem WrittenDown.noteEvaluation (hw : s.WrittenDown id r) (hne : id ≠ x.1) :
    (s.noteEvaluation held x).WrittenDown id r := by
  obtain ⟨rules, notices, heq⟩ := exists_noteEvaluation held s x
  rw [heq]
  refine ⟨hw.records.recordRule hne _, ?_⟩
  exact (Table.get?_insert ..).trans ((if_neg hne).trans hw.diagnostics)

/-- Once evaluations of the rule and of others are noted, it is written down what was found out. -/
theorem writtenDown_foldl {d : Document} {es : List (RuleId × RuleBook.Evaluation)}
    (hes : ∀ x ∈ es, x.1 = id → ∃ e : RuleBook.Entry, e.rule = r ∧ x.2 = e.evaluation d)
    (hd : s.document = d) (hs : (∃ x ∈ es, x.1 = id) ∨ s.WrittenDown id r) :
    (es.foldl (noteEvaluation held) s).WrittenDown id r := by
  induction es generalizing s with
  | nil => exact hs.resolve_left fun ⟨_, hx, _⟩ => List.not_mem_nil hx
  | cons x es ih =>
    obtain ⟨hfirst, hrest⟩ := List.forall_mem_cons.mp hes
    have hdoc : (s.noteEvaluation held x).document = d := by
      obtain ⟨rules, notices, heq⟩ := exists_noteEvaluation held s x
      rw [heq]
      exact hd
    refine ih hrest hdoc ?_
    by_cases hx : x.1 = id
    · obtain ⟨e, rfl, heq⟩ := hfirst hx
      subst hx
      right
      exact writtenDown_noteEvaluation (by rw [heq, hd]; rfl) (by rw [heq, hd]; rfl)
    · rcases hs with ⟨y, hy, hyid⟩ | hs
      · rcases List.mem_cons.mp hy with rfl | hy
        · exact absurd hyid hx
        · exact Or.inl ⟨y, hy, hyid⟩
      · exact Or.inr (hs.noteEvaluation (Ne.symm hx))

/-- Once all rules are checked, there is nothing more to find out. -/
theorem checked_checkAllRules (s : Session) : s.checkAllRules.Checked := by
  have hdoc : s.checkAllRules.document = s.document := (judges_checkRules s _).document
  have hstate : ∀ id e, s.checkAllRules.rules.get? id = some e →
      id ∈ s.rules.ids ∧ e.satisfied = e.rule.holds s.document ∧
        ∃ b, s.rules.state? id = some (e.rule, b) := by
    intro id e he
    have hnow : s.checkAllRules.rules.state? id = some (e.rule, e.satisfied) := by
      rw [RuleBook.state?, he, Option.map_some]
    rw [checkAllRules, state?_checkRules] at hnow
    by_cases hid : id ∈ s.rules.ids
    · rw [if_pos hid] at hnow
      obtain ⟨⟨r, b⟩, hold, heq⟩ := Option.map_eq_some_iff.mp hnow
      obtain ⟨rfl, hsat⟩ := Prod.mk.inj heq
      exact ⟨hid, hsat.symm, b, hold⟩
    · rw [if_neg hid] at hnow
      exact absurd (RuleBook.mem_ids_of_state? hnow) hid
  refine ⟨fun id e he => hdoc ▸ (hstate id e he).2.1, fun id e he => ?_⟩
  obtain ⟨hid, -, b, hold⟩ := hstate id e he
  refine writtenDown_foldl (s := { s with rules := (s.rules.evaluate s.document s.rules.ids).1 })
    (fun x hx hxid => ?_) rfl (Or.inl (RuleBook.exists_mem_evaluate hid hold))
  exact (RuleBook.of_mem_evaluate hx (hxid ▸ hold)).2

/-- A verdict is found without any change to what was found out of rules. -/
theorem Checked.validate (hs : s.Checked) (h : Handle) : (s.validate h).Checked := by
  unfold Session.validate
  split_ifs
  · refine ⟨hs.settled, fun id e he => ?_⟩
    obtain ⟨hrecords, hdiagnostics⟩ := hs.written id e he
    exact ⟨⟨hrecords.recorded, fun k hk => (hrecords.mentioned k hk).find rfl⟩, hdiagnostics⟩
  · exact hs

end Session

end GuidedXml
