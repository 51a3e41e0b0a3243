/-
# Judging

Evaluating rules and finding verdicts takes single steps, and each of them leaves alone the document,
the bindings of its nodes, the offers made for them and their revisions.

The main statements say that each of the judging operations is made of such steps, and so leads to a
session that is alike in all of these.
-/
import GuidedXml.Editing.Session.Opening
import Mathlib.Logic.Relation

namespace GuidedXml

/-! ## Workspaces -/

/-- The second workspace differs from the first one in the bindings of nodes with the property `P`,
and in what is no matter of offers: outline, verdicts, rules and claims. -/
structure Workspace.Rebinds (P : Handle → Prop) (w w' : Workspace) : Prop where
  model : w'.model = w.model
  whitelist : w'.whitelist = w.whitelist
  offers : w'.offers = w.offers
  revisions : w'.revisions = w.revisions
  binding? : ∀ k, ¬ P k → w'.binding? k = w.binding? k

namespace Workspace

variable {P Q : Handle → Prop} {w w' w'' : Workspace}

theorem Rebinds.refl (P : Handle → Prop) (w : Workspace) : Rebinds P w w :=
  ⟨rfl, rfl, rfl, rfl, fun _ _ => rfl⟩

theorem Rebinds.trans (h₁ : Rebinds P w w') (h₂ : Rebinds P w' w'') : Rebinds P w w'' where
  model := h₂.model.trans h₁.model
  whitelist := h₂.whitelist.trans h₁.whitelist
  offers := h₂.offers.trans h₁.offers
  revisions := h₂.revisions.trans h₁.revisions
  binding? := fun k hk => (h₂.binding? k hk).trans (h₁.binding? k hk)

/-- What rebinds some nodes only rebinds more nodes only. -/
theorem Rebinds.mono (hr : Rebinds P w w') (hPQ : ∀ k, P k → Q k) : Rebinds Q w w' where
  model := hr.model
  whitelist := hr.whitelist
  offers := hr.offers
  revisions := hr.revisions
  binding? := fun k hk => hr.binding? k (fun hP => hk (hPQ k hP))

/-- Rebinding does not change revisions. -/
theorem Rebinds.revision (hr : Rebinds P w w') (h : Handle) : w'.revision h = w.revision h := by
  rw [Workspace.revision, Workspace.revision, hr.revisions]

/-- Recording the nodes of a rule changes nothing but what is known of rules and verdicts. -/
theorem recordRule_eq (w : Workspace) (r : RuleId) (nodes : List Handle) :
    w.recordRule r nodes = { w with
      relevant := (w.recordRule r nodes).relevant
      recorded := (w.recordRule r nodes).recorded
      verdicts := (w.recordRule r nodes).verdicts } := by
  have hfold : ∀ {f : Workspace → Handle → Workspace}, (∀ w h, f w h = { w with
      relevant := (f w h).relevant, verdicts := (f w h).verdicts }) →
      ∀ (hs : List Handle) (w : Workspace), hs.foldl f w = { w with
        relevant := (hs.foldl f w).relevant, verdicts := (hs.foldl f w).verdicts } := by
    intro f hf hs
    induction hs with
    | nil => exact fun _ => rfl
    | cons h hs ih =>
      intro w
      rw [List.foldl_cons, ih, hf w h]
  unfold recordRule
  dsimp only
  rw [hfold (fun _ _ => rfl) nodes.eraseDups, hfold fun _ _ => rfl]

end Workspace

/-! ## Steps of judging -/

namespace Session

variable {s s' s'' : Session}

/-- A single step of judging: the state of the rules and the notices change, the nodes of one rule
are recorded, or the verdict on a bound node is found, with the rules about it. -/
inductive JudgeStep : Session → Session → Prop
  | tell {s : Session} (rules : RuleBook) (notices : List Notice) :
      JudgeStep s { s with rules := rules, notices := notices }
  | note {s : Session} (rule : Rule) (r : RuleId) (diagnostics : Table RuleId (List Diagnostic)) :
      JudgeStep s { s with
        workspace := s.workspace.recordRule r (rule.nodes s.document)
        diagnostics := diagnostics }
  | find {s : Session} {h : Handle} (v : Verdict) : s.workspace.isBound h = true →
      v.rules = s.workspace.rulesOf h → JudgeStep s { s with
        workspace := { s.workspace with verdicts := s.workspace.verdicts.insert h v } }

/-- The second session comes from the first one by judging. -/
def Judges : Session → Session → Prop :=
  Relation.ReflTransGen JudgeStep

namespace Judges

theorem refl (s : Session) : Judges s s :=
  Relation.ReflTransGen.refl

theorem trans (h₁ : Judges s s') (h₂ : Judges s' s'') : Judges s s'' :=
  Relation.ReflTransGen.trans h₁ h₂

/-- One step of judging is judging. -/
theorem single (h : JudgeStep s s') : Judges s s' :=
  Relation.ReflTransGen.single h

/-- Judging changes neither the document nor what is no matter of rules and verdicts. -/
theorem document (hj : Judges s s') : s'.document = s.document := by
  induction hj with
  | refl => rfl
  | tail _ hstep ih =>
    rw [← ih]
    cases hstep <;> rfl

/-- Judging changes which rules are relevant in the workspace, and nothing else. -/
theorem workspace (hj : Judges s s') : s'.workspace = { s.workspace with
    relevant := s'.workspace.relevant
    recorded := s'.workspace.recorded
    verdicts := s'.workspace.verdicts } := by
  induction hj with
  | refl => rfl
  | tail _ hstep ih =>
    cases hstep with
    | tell => exact ih
    | note rule r diagnostics =>
      dsimp only
      rw [Workspace.recordRule_eq, ih]
    | find v hb =>
      dsimp only
      rw [ih]

/-- Steps that judge judge together. -/
theorem foldl {β : Type} {f : Session → β → Session} (hf : ∀ s b, Judges s (f s b))
    (bs : List β) (s : Session) : Judges s (bs.foldl f s) := by
  induction bs generalizing s with
  | nil => exact refl s
  | cons b bs ih => exact (hf s b).trans (ih _)

end Judges

/-! ## Operations that judge -/

/-- Noting an evaluation records the nodes and the complaints; what is told of it is no matter of the
document and the workspace. -/
theorem exists_noteEvaluation (held : RuleId → Bool) (s : Session)
    (e : RuleId × RuleBook.Evaluation) : ∃ rules notices, s.noteEvaluation held e = { s with
      workspace := s.workspace.recordRule e.1 e.2.nodes
      diagnostics := s.diagnostics.insert e.1 e.2.diagnostics
      rules := rules
      notices := notices } := by
  unfold noteEvaluation
  dsimp only
  split
  · unfold report
    dsimp only
    split
    · exact ⟨s.rules, s.notices, rfl⟩
    · exact ⟨_, _, rfl⟩
  · exact ⟨s.rules, s.notices, rfl⟩

/-- What an evaluation of rules finds out is about the nodes that their parameters lead to. -/
theorem exists_rule_of_mem_evaluate {b : RuleBook} {d : Document} {ids : List RuleId}
    {e : RuleId × RuleBook.Evaluation} (he : e ∈ (b.evaluate d ids).2) :
    ∃ rule : Rule, e.2.nodes = rule.nodes d := by
  induction ids generalizing b with
  | nil => simp [RuleBook.evaluate] at he
  | cons id ids ih =>
    rw [RuleBook.evaluate] at he
    cases hid : b.get? id with
    | none =>
      rw [hid] at he
      exact ih he
    | some entry =>
      rw [hid] at he
      rcases List.mem_cons.mp he with rfl | he
      · exact ⟨entry.rule, rfl⟩
      · exact ih he

/-- Noting an evaluation is judging. -/
theorem judges_noteEvaluation (held : RuleId → Bool) (s : Session)
    {e : RuleId × RuleBook.Evaluation} {rule : Rule} (he : e.2.nodes = rule.nodes s.document) :
    Judges s (s.noteEvaluation held e) := by
  obtain ⟨rules, notices, heq⟩ := exists_noteEvaluation held s e
  rw [heq, he]
  exact (Judges.single (JudgeStep.note rule e.1 _)).trans
    (Judges.single (JudgeStep.tell rules notices))

/-- Checking rules is judging. -/
theorem judges_checkRules (s : Session) (rs : List RuleId) : Judges s (s.checkRules rs) := by
  have hrules : ∀ rules, Judges s { s with rules := rules } := fun rules =>
    Judges.single (JudgeStep.tell rules s.notices)
  have hnotes : ∀ (es : List (RuleId × RuleBook.Evaluation)) (t : Session), Judges s t →
      (∀ e ∈ es, ∃ rule : Rule, e.2.nodes = rule.nodes s.document) →
      Judges s (es.foldl (noteEvaluation s.isQuietAbout) t) := by
    intro es
    induction es with
    | nil => exact fun t ht _ => ht
    | cons e es ih =>
      intro t ht hes
      obtain ⟨rule, hrule⟩ := hes e (List.mem_cons_self ..)
      rw [← ht.document] at hrule
      exact ih _ (ht.trans (judges_noteEvaluation _ t hrule))
        fun x hx => hes x (List.mem_cons_of_mem _ hx)
  exact hnotes _ _ (hrules _) fun e he => exists_rule_of_mem_evaluate he

/-- Checking for missing nodes is judging. -/
theorem judges_checkMissing (s : Session) : Judges s s.checkMissing :=
  judges_checkRules s _

/-- Validating a node is judging. -/
theorem judges_validate (s : Session) (h : Handle) : Judges s (s.validate h) := by
  unfold validate
  split
  · rename_i hb
    exact Judges.single (JudgeStep.find _ hb rfl)
  · exact Judges.refl s

/-- Validating several nodes is judging. -/
theorem judges_validateAll (s : Session) (hs : List Handle) : Judges s (s.validateAll hs) :=
  Judges.foldl judges_validate hs s

/-- Giving a verdict on a node is judging. -/
theorem judges_judge (anew : Bool) (s : Session) (h : Handle) : Judges s (s.judge anew h).1 := by
  unfold judge
  split
  · exact Judges.refl s
  · split
    · exact Judges.refl s
    · dsimp only
      split
      · exact judges_validate s h
      · exact Judges.refl s

/-- Giving a verdict on one node after the other is judging. -/
theorem judges_judgeEach {judgeOne : Session → Handle → Session × Verdict}
    (hj : ∀ s h, Judges s (judgeOne s h).1) (r : Session × Verdict) (hs : List Handle) :
    Judges r.1 (judgeEach judgeOne r hs).1 := by
  induction hs generalizing r with
  | nil => exact Judges.refl _
  | cons h hs ih => exact (hj r.1 h).trans (ih ((judgeOne r.1 h).1, r.2.and (judgeOne r.1 h).2))

/-- Giving a verdict on all below a node is judging. -/
theorem judges_judgeDeep (anew : Bool) (s : Session) (h : Handle) :
    Judges s (s.judgeDeep anew h).1 := by
  suffices hf : ∀ (fuel : Nat) (s : Session) (h : Handle), Judges s (judgeDeepAux anew fuel s h).1 by
    exact hf _ s h
  intro fuel
  induction fuel with
  | zero =>
    intro s h
    exact Judges.refl s
  | succ fuel ih =>
    intro s h
    have hattrs := judges_judgeEach (judges_judge anew) (s.judge anew h) (s.document.attributes h)
    exact ((judges_judge anew s h).trans hattrs).trans (judges_judgeEach ih _ _)

/-- A request for a verdict is judging. -/
theorem judges_verdictOn (s : Session) (h : Handle) (deep : Bool) :
    Judges s (s.verdictOn h deep).1 := by
  unfold verdictOn
  cases deep with
  | false => exact judges_judge false s h
  | true => exact judges_judgeDeep false s h

/-- Validating all again is judging. -/
theorem judges_revalidate (s : Session) : Judges s s.revalidate.1 := by
  unfold revalidate
  dsimp only
  split
  · exact judges_checkRules s _
  · exact (judges_checkRules s _).trans (judges_judgeDeep true _ _)

/-! ## What offers could show -/

/-- The second session differs from the first one in what is no matter of offers. -/
structure Alike (s s' : Session) : Prop where
  document : s'.document = s.document
  workspace : s.workspace.Rebinds (fun _ => False) s'.workspace

theorem Alike.refl (s : Session) : Alike s s :=
  ⟨rfl, Workspace.Rebinds.refl _ _⟩

theorem Alike.trans (h₁ : Alike s s') (h₂ : Alike s' s'') : Alike s s'' :=
  ⟨h₂.document.trans h₁.document, h₁.workspace.trans h₂.workspace⟩

/-- Where sessions differ in no matter of offers, bindings are the same. -/
theorem Alike.binding? (ha : Alike s s') (h : Handle) :
    s'.workspace.binding? h = s.workspace.binding? h :=
  ha.workspace.binding? h not_false

/-- Judging changes nothing that offers could show. -/
theorem Judges.alike (hj : Judges s s') : Alike s s' := by
  refine ⟨hj.document, ?_⟩
  rw [hj.workspace]
  exact ⟨rfl, rfl, rfl, rfl, fun _ _ => rfl⟩

/-- Checking rules is no matter of offers. -/
theorem alike_checkRules (s : Session) (rs : List RuleId) : Alike s (s.checkRules rs) :=
  (judges_checkRules s rs).alike

/-- Checking for missing nodes is no matter of offers. -/
theorem alike_checkMissing (s : Session) : Alike s s.checkMissing :=
  (judges_checkMissing s).alike

/-- Validating a node is no matter of offers. -/
theorem alike_validate (s : Session) (h : Handle) : Alike s (s.validate h) :=
  (judges_validate s h).alike

/-- Validating several nodes is no matter of offers. -/
theorem alike_validateAll (s : Session) (hs : List Handle) : Alike s (s.validateAll hs) :=
  (judges_validateAll s hs).alike

/-- A verdict is found without any change that offers could show. -/
theorem alike_verdictOn (s : Session) (h : Handle) (deep : Bool) :
    Alike s (s.verdictOn h deep).1 :=
  (judges_verdictOn s h deep).alike

/-- All rules and verdicts are found anew without any change that offers could show. -/
theorem alike_revalidate (s : Session) : Alike s s.revalidate.1 :=
  (judges_revalidate s).alike

/-- A session that begins knows its rules and draws its outline. -/
theorem alike_begin (s : Session) : Alike s s.begin := by
  have houtline : Alike s
      { s with workspace := { s.workspace with outline := .ofDocument s.document } } :=
    ⟨rfl, rfl, rfl, rfl, rfl, fun _ _ => rfl⟩
  exact houtline.trans (alike_checkRules _ _)

/-- Giving up a name is no matter of offers. -/
theorem alike_giveUpName (s : Session) (h : Handle) : Alike s (s.giveUpName h) := by
  have hclaims : ∀ claims, Alike s { s with workspace := { s.workspace with claims := claims } } :=
    fun _ => ⟨rfl, rfl, rfl, rfl, rfl, fun _ _ => rfl⟩
  exact (hclaims _).trans (alike_validateAll _ _)

/-- Claiming a name is no matter of offers. -/
theorem alike_claimName (s : Session) (h : Handle) (name : String) :
    Alike s (s.claimName h name) :=
  ⟨rfl, rfl, rfl, rfl, rfl, fun _ _ => rfl⟩

end Session

end GuidedXml
