/-
# Verdicts that stand

A verdict is kept until the node is judged anew. What it says of the value depends on the
constraint, on the value and, where the value is a name, on whether the node owns the name.
References are left aside: they depend on names that others own.

The main statements say that the verdict on a node stands where judging the node is the same matter
as before, and that this is so for every node whose value stays, as long as another node does not
give up a name that this one comes to own.
-/
import GuidedXml.Proofs.Rule.Checking

namespace GuidedXml

open Schema (Builtin ConstraintId ContentModel Owners)

/-! ## Owners -/

namespace Claims

variable {c : Claims} {name other : String} {h k : Handle}

/-- A claim of another node does not change what a node owns. -/
theorem owner?_register_iff (hk : k ≠ h) :
    (c.register other h).owner? name = some k ↔ c.owner? name = some k := by
  unfold owner?
  rw [candidates_register]
  split_ifs with hjoin
  · rw [hjoin.1]
    cases c.candidates other with
    | nil => simpa using hk.symm
    | cons a as => exact Iff.rfl
  · exact Iff.rfl

/-- When another node gives up a name, a node owns what it owned, or comes to own that name. -/
theorem owner?_release_iff (hk : k ≠ h) : (c.release other h).1.owner? name = some k ↔
    c.owner? name = some k ∨ name = other ∧ (c.release other h).2 = some k := by
  have hresult : (c.release other h).2 =
      if c.owner? other = some h then ((c.candidates other).erase h).head? else none := rfl
  rw [hresult]
  unfold owner?
  rw [candidates_release]
  by_cases hn : name = other
  · subst hn
    rw [if_pos rfl]
    cases c.candidates name with
    | nil => simp
    | cons a as =>
      by_cases ha : a = h
      · subst ha
        simp [hk.symm]
      · simp [List.erase_cons_tail, ha]
  · simp [hn]

end Claims

namespace Workspace

variable {w w' : Workspace} {d d' : Document} {h k : Handle} {name : String} {c : ConstraintId}

/-- Nodes that join the lines behind the others own nothing that another node could own. -/
theorem Enlisted.owner?_iff {F : Handle → Prop} {cl : Claims} {t : Stage} (he : Enlisted F cl t)
    (hk : ¬ F k) : t.1.claims.owner? name = some k ↔ cl.owner? name = some k := by
  obtain ⟨more, heq, hmore⟩ := he.lines name
  unfold Claims.owner?
  rw [heq]
  cases cl.candidates name with
  | cons a as => exact Iff.rfl
  | nil =>
    refine iff_of_false (fun hown => hk (hmore k ?_)) (by simp)
    exact List.mem_of_mem_head? hown

/-- While nodes are forgotten, another node owns what it owned, unless it is named as a new
owner. -/
theorem owner?_forgetNodes_iff (w : Workspace) {hs : List Handle} (hk : k ∉ hs)
    (hnot : k ∉ (w.forgetNodes d hs).2) :
    (w.forgetNodes d hs).1.claims.owner? name = some k ↔ w.claims.owner? name = some k := by
  induction hs generalizing w with
  | nil => exact Iff.rfl
  | cons h hs ih =>
    rw [List.mem_cons, not_or] at hk
    obtain ⟨hne, hk⟩ := hk
    replace hnot : k ∉ (w.claims.release (d.value h) h).2.toList ++
      ((w.forgetNode d h).1.forgetNodes d hs).2 := hnot
    rw [List.mem_append, not_or, Option.mem_toList] at hnot
    refine (ih (w.forgetNode d h).1 hk hnot.2).trans ?_
    refine (Claims.owner?_release_iff hne).trans (or_iff_left ?_)
    exact fun hnew => hnot.1 hnew.2

/-- Who is neither forgotten nor an heir owns the names that it owned. -/
theorem owner?_forget_iff (hd : d.Forest) (w : Workspace) (hk : ¬ d.Within h k)
    (hnot : k ∉ (w.forget d h).2) :
    (w.forget d h).1.claims.owner? name = some k ↔ w.claims.owner? name = some k := by
  rw [← Document.mem_subtree_iff hd] at hk
  refine owner?_forgetNodes_iff { w with outline := w.outline.detach h } hk fun hmem => hnot ?_
  refine List.mem_filter.mpr ⟨hmem, ?_⟩
  simpa using hk

end Workspace

/-! ## Types -/

namespace Schema

variable {owners owners' : Owners} {node : Handle}

/-- What a type that refers to no names accepts at a node depends on the owners only in whether the
node owns its value. -/
theorem Builtin.accepts_congr {t : Builtin} (href : t ≠ .idRef) (hrefs : t ≠ .idRefs)
    {cs : List Char} (howns : owners' (String.ofList cs) = some node ↔
      owners (String.ofList cs) = some node) :
    t.accepts owners' node cs = t.accepts owners node cs := by
  cases t with
  | id => simp only [accepts, howns]
  | idRef => exact absurd rfl href
  | idRefs => exact absurd rfl hrefs
  | _ => rfl

end Schema

/-- Whether values under the constraint refer to names that other nodes own. -/
def Workspace.isReferring (w : Workspace) (c : ConstraintId) : Bool :=
  match ((w.model.get? c).bind fun e => e.typeName).bind Builtin.named? with
  | some .idRef | some .idRefs => true
  | _ => false

namespace Session

variable {s s' s'' : Session} {d : Document} {h k p : Handle} {c : ConstraintId} {v : Verdict}

/-! ## Cases that are alike -/

/-- Judging the value of the node is the same matter in both sessions, and so is the verdict kept. -/
structure JudgedAlike (h : Handle) (s s' : Session) : Prop where
  model : s'.workspace.model = s.workspace.model
  typeOk : (s'.verdict? h).map Verdict.typeOk = (s.verdict? h).map Verdict.typeOk
  binding? : s'.workspace.binding? h = s.workspace.binding? h
  value : s'.document.value h = s.document.value h
  owns : s'.workspace.claims.owner? (s.document.value h) = some h ↔
    s.workspace.claims.owner? (s.document.value h) = some h

namespace JudgedAlike

theorem trans (h₁ : JudgedAlike h s s') (h₂ : JudgedAlike h s' s'') : JudgedAlike h s s'' where
  model := h₂.model.trans h₁.model
  typeOk := h₂.typeOk.trans h₁.typeOk
  binding? := h₂.binding?.trans h₁.binding?
  value := h₂.value.trans h₁.value
  owns := by
    rw [← h₁.owns, ← h₁.value]
    exact h₂.owns

/-- The value of the node is as valid as before. -/
theorem valueIsValid (ha : JudgedAlike h s s') (hb : s.workspace.binding? h = some c)
    (hc : s.workspace.isReferring c = false) : s'.valueIsValid h = s.valueIsValid h := by
  unfold Session.valueIsValid Workspace.constraint?
  rw [ha.binding?, hb, ha.model, ha.value]
  simp only [Option.bind_some]
  cases he : s.workspace.model.get? c with
  | none => rfl
  | some e =>
    dsimp only
    refine congrArg (!e.holdsText || ·) ?_
    unfold Schema.isValid Schema.acceptsType
    cases hname : e.typeName with
    | none => rfl
    | some name =>
      simp only [Option.any_some]
      cases ht : Builtin.named? name with
      | none => rfl
      | some t =>
        rw [Workspace.isReferring, he] at hc
        simp only [Option.bind_some, hname, ht] at hc
        rw [Option.any_some, Option.any_some, Builtin.accepts_congr]
        · rintro rfl
          simp at hc
        · rintro rfl
          simp at hc
        · rw [String.ofList_toList]
          exact ha.owns

end JudgedAlike

/-! ## Verdicts -/

/-- The verdict kept for the node, if there is one, says of its value what would be said of it
now. References are left aside. -/
def Stands (s : Session) (h : Handle) : Prop :=
  ∀ v c, s.verdict? h = some v → s.workspace.binding? h = some c →
    s.workspace.isReferring c = false → v.typeOk = s.valueIsValid h

/-- Where there is no verdict, it stands. -/
theorem stands_of_verdict?_eq_none (hv : s.verdict? h = none) : s.Stands h := by
  intro v c hv'
  rw [hv] at hv'
  simp at hv'

/-- Where there is no constraint, the verdict stands. -/
theorem stands_of_unbound (hb : s.workspace.binding? h = none) : s.Stands h := by
  intro v c _ hb'
  rw [hb] at hb'
  simp at hb'

/-- Where judging is the same matter, the verdict stands as before. -/
theorem Stands.alike (hs : s.Stands h) (ha : JudgedAlike h s s') : s'.Stands h := by
  intro v' c hv' hb hc
  rw [ha.binding?] at hb
  obtain ⟨v, hv, hok⟩ : ∃ v, s.verdict? h = some v ∧ v.typeOk = v'.typeOk := by
    have hmap := ha.typeOk
    rw [hv', Option.map_some] at hmap
    exact Option.map_eq_some_iff.mp hmap.symm
  replace hc : s.workspace.isReferring c = false := by
    rwa [Workspace.isReferring, ha.model, ← Workspace.isReferring] at hc
  rw [← hok, hs v c hv hb hc, ha.valueIsValid hb hc]

/-- A verdict that was just found stands. -/
theorem stands_validate_self (s : Session) (h : Handle) : (s.validate h).Stands h := by
  intro v c hv hb _
  unfold validate at hv hb ⊢
  split_ifs at hv hb ⊢ with hbound
  · rw [verdict?, Table.get?_insert_self] at hv
    rw [← Option.some.inj hv]
    rfl
  · refine absurd ?_ hbound
    rw [Workspace.isBound, Table.contains]
    exact Option.isSome_of_mem hb

/-- A verdict stands after any node was validated. -/
theorem Stands.validate (hs : s.Stands k) (h : Handle) : (s.validate h).Stands k := by
  by_cases hk : k = h
  · exact hk ▸ stands_validate_self s h
  · unfold Session.validate
    split_ifs
    · refine hs.alike ⟨rfl, ?_, rfl, rfl, Iff.rfl⟩
      rw [verdict?, Table.get?_insert, if_neg hk]
      rfl
    · exact hs

/-- A verdict stands after several nodes were validated. -/
theorem Stands.validateAll (hs : s.Stands k) (hs' : List Handle) : (s.validateAll hs').Stands k := by
  unfold Session.validateAll
  induction hs' generalizing s with
  | nil => exact hs
  | cons h hs' ih => exact ih (hs.validate h)

/-- A verdict stands after its node was validated among others. -/
theorem stands_validateAll_of_mem {hs : List Handle} (hk : k ∈ hs) (s : Session) :
    (s.validateAll hs).Stands k := by
  unfold Session.validateAll
  induction hs generalizing s with
  | nil => simp at hk
  | cons h hs ih =>
    rcases List.mem_cons.mp hk with rfl | hk
    · exact (stands_validate_self s k).validateAll hs
    · exact ih hk _

/-! ## Steps that are no matter of values -/

/-- What a rule has led to changes no verdict on a value. -/
theorem typeOk_recordRule (w : Workspace) (r : RuleId) (nodes : List Handle) (k : Handle) :
    ((w.recordRule r nodes).verdicts.get? k).map Verdict.typeOk =
      (w.verdicts.get? k).map Verdict.typeOk := by
  have hmodify : ∀ (t : Table Handle Verdict) (h : Handle) (f : Verdict → Verdict),
      (∀ v, (f v).typeOk = v.typeOk) →
      ((t.modify h f).get? k).map Verdict.typeOk = (t.get? k).map Verdict.typeOk := by
    intro t h f hf
    rw [Table.get?_modify]
    split_ifs
    · rw [Option.map_map]
      exact congrArg (Option.map · _) (funext hf)
    · rfl
  have hfold : ∀ {f : Workspace → Handle → Workspace},
      (∀ w h, ((f w h).verdicts.get? k).map Verdict.typeOk =
        (w.verdicts.get? k).map Verdict.typeOk) →
      ∀ (hs : List Handle) (w : Workspace), ((hs.foldl f w).verdicts.get? k).map Verdict.typeOk =
        (w.verdicts.get? k).map Verdict.typeOk := by
    intro f hf hs
    induction hs with
    | nil => exact fun _ => rfl
    | cons h hs ih => exact fun w => (ih _).trans (hf w h)
  refine (hfold (fun w h => ?_) _ _).trans (hfold (fun w h => ?_) _ _)
  · exact hmodify w.verdicts h _ fun _ => rfl
  · exact hmodify w.verdicts h _ fun _ => rfl

/-- Noting an evaluation changes no verdict on a value. -/
theorem typeOk_noteEvaluation (held : RuleId → Bool) (s : Session)
    (e : RuleId × RuleBook.Evaluation) (k : Handle) :
    ((s.noteEvaluation held e).verdict? k).map Verdict.typeOk =
      (s.verdict? k).map Verdict.typeOk := by
  obtain ⟨rules, notices, heq⟩ := exists_noteEvaluation held s e
  rw [heq]
  exact typeOk_recordRule ..

/-- Checking rules is no matter of values. -/
theorem judgedAlike_checkRules (s : Session) (rs : List RuleId) (k : Handle) :
    JudgedAlike k s (s.checkRules rs) := by
  have hfold : ∀ held (es : List (RuleId × RuleBook.Evaluation)) (t : Session),
      ((es.foldl (noteEvaluation held) t).verdict? k).map Verdict.typeOk =
        (t.verdict? k).map Verdict.typeOk := by
    intro held es
    induction es with
    | nil => exact fun _ => rfl
    | cons e es ih => exact fun t => (ih _).trans (typeOk_noteEvaluation held t e k)
  have hj := judges_checkRules s rs
  refine ⟨?_, hfold _ _ _, hj.alike.binding? k, by rw [hj.document], by rw [hj.workspace]⟩
  rw [hj.workspace]

/-- Giving up offers is no matter of values. -/
theorem judgedAlike_giveUp (s : Session) (p k : Handle) :
    JudgedAlike k s { s with workspace := s.workspace.invalidate s.document p } := by
  have hw := Workspace.invalidate_eq s.workspace s.document p
  refine ⟨?_, ?_, ?_, rfl, ?_⟩
  · dsimp only
    rw [hw]
  · dsimp only [verdict?]
    rw [hw]
  · dsimp only
    rw [hw]
    rfl
  · dsimp only
    rw [hw]

/-- Judging any value is the same matter after parting with a node. -/
theorem judgedAlike_partWith (s : Session) (old parent k : Handle) :
    JudgedAlike k s (s.partWith old parent) :=
  (judgedAlike_checkRules s _ k).trans (judgedAlike_giveUp _ parent k)

/-- Sessions that do not differ judge alike. -/
theorem Unchanged.judgedAlike (hu : s.Unchanged s') (k : Handle) : JudgedAlike k s s' where
  model := hu.workspace.model
  typeOk := by rw [verdict?, verdict?, hu.workspace.verdicts]
  binding? := hu.workspace.bindings k
  value := by
    have htext : s'.document.isText = s.document.isText := funext fun k =>
      Document.isText_congr (Document.lookups_congr (hu.node? k)).1
    rw [Document.value, Document.value, funext hu.node?, htext]
  owns := by
    rw [Claims.owner?, Claims.owner?, Claims.candidates, Claims.candidates, Table.getD, Table.getD,
      hu.workspace.claims]

/-! ## Nodes that come and go -/

/-- Nodes that are made and bound get no verdicts, and own nothing that another node could own. -/
theorem judgedAlike_of_builds {t : Workspace.Stage}
    (hs : Workspace.Sane (s.workspace, s.document)) (hd : Workspace.Sane (s.workspace, d))
    (hb : Workspace.Builds s.document.slots.size (s.workspace, d) t)
    (hk : s.document.contains k = true)
    (hbinding : t.1.binding? k = s.workspace.binding? k)
    (hvalue : t.2.value k = s.document.value k) : JudgedAlike k s (s.withStage t) := by
  have hw := hb.workspace
  have hlisted := hb.enlisted hd.toSound hd.toRegular (fun _ hk => hk) (hs.enlisted d)
  have hlt := Document.index_lt_of_contains hk
  refine ⟨?_, ?_, hbinding, hvalue, hlisted.owner?_iff (by omega)⟩
  · show t.1.model = _
    rw [hw]
  · show (t.1.verdicts.get? k).map _ = _
    rw [hw]
    rfl

/-- Nodes that are not live have no verdict. -/
theorem Poised.verdict?_eq_none {x : Option Handle} (hs : Poised (s, x))
    (hk : s.document.contains k = false) : s.verdict? k = none :=
  (hs.sane.traced.unknown hk).2.2.1

/-- Nodes that are let go lose their verdicts. -/
theorem verdict?_letGo (s : Session) (h k : Handle) (d : Document) :
    (s.letGo h d).verdict? k = if k ∈ s.document.subtree h then none else s.verdict? k :=
  Workspace.get?_forgetNodes (d := s.document) (fun w => w.verdicts) (fun _ _ => rfl)
    (s.document.subtree h) { s.workspace with outline := s.workspace.outline.detach h } k

/-- A node that is left when another one is let go is judged alike, if it owns what it owned. -/
theorem judgedAlike_letGo (hs : Poised (s, some h)) (hd : s.document.discard h = .ok d)
    (hk : ¬ s.document.Within h k)
    (howns : (s.workspace.forget s.document h).1.claims.owner? (s.document.value k) = some k ↔
      s.workspace.claims.owner? (s.document.value k) = some k) :
    JudgedAlike k s (s.letGo h d) := by
  have horder := hs.sane.orderly
  have hforgets := Workspace.forgets_forget horder.forest s.workspace h
  refine ⟨hforgets.model, ?_, (hforgets.left k hk).1, ?_, howns⟩
  · rw [verdict?_letGo, if_neg]
    rwa [Document.mem_subtree_iff horder.forest]
  · exact (hs.pruned hd).value horder.toLinked (hs.hand h rfl).detached hk

/-- When a node is let go, all verdicts stand but those on the new owners of names. -/
theorem Stands.letGo (hst : s.Stands k) (hs : Poised (s, some h))
    (hd : s.document.discard h = .ok d) (hk : k ∉ (s.workspace.forget s.document h).2) :
    (s.letGo h d).Stands k := by
  have hforest := hs.sane.orderly.forest
  by_cases hw : s.document.Within h k
  · refine stands_of_verdict?_eq_none ?_
    rw [verdict?_letGo, if_pos (Document.mem_subtree_iff hforest |>.mpr hw)]
  · exact hst.alike (judgedAlike_letGo hs hd hw (Workspace.owner?_forget_iff hforest _ hw hk))

end Session

end GuidedXml
