/-
# Judging everything anew

A revalidation checks all rules and then finds the verdicts on all elements and attributes. It makes
good whatever the edits before it left behind: rules whose parameters lead elsewhere by now, and
verdicts on references to names that have no owner any more.

The main statement says that everything is up to date afterwards, and that a second revalidation
comes to the same result without any change.
-/
import GuidedXml.Proofs.Conformance.Kempt
import GuidedXml.Proofs.Editing.Combining
import GuidedXml.Proofs.Rule.Rechecking

namespace GuidedXml.Session

variable {s t : Session} {anew : Bool} {h k r : Handle} {hs : List Handle}

/-! ## Judged nodes -/

/-- Unless nothing is said of the node anyway, the verdict on it is what would be found out now. -/
def Judged (s : Session) (k : Handle) : Prop :=
  s.document.contains k = true → s.isWhitelisted k = false → s.workspace.isBound k = true →
    s.verdict? k = some (s.currentVerdict k)

/-- A node that was judged stays so while other verdicts are found. -/
theorem Fills.judged (hf : Fills anew s t) (hs : s.Judged k) : t.Judged k := by
  intro hlive hfree hb
  rw [hf.document] at hlive
  rw [hf.isWhitelisted] at hfree
  rw [hf.isBound] at hb
  rw [hf.currentVerdict]
  rcases hf.verdict? k with hsame | ⟨-, -, hfound⟩
  · exact hsame.trans (hs hlive hfree hb)
  · exact hfound

theorem judged_judge (s : Session) (k : Handle) : (s.judge true k).1.Judged k := by
  intro hlive hfree hb
  have hf := (Fills.refl true s).judge k
  rw [hf.document] at hlive
  rw [hf.isWhitelisted] at hfree
  rw [hf.isBound] at hb
  rw [hf.currentVerdict]
  unfold judge
  rw [hlive, hfree]
  exact verdict?_validate s k hb

/-- A node that was judged is judged again without any change. -/
theorem Judged.judge_fst (hj : s.Judged k) : (s.judge anew k).1 = s := by
  unfold judge
  split_ifs with hdead hfree hfind
  · rfl
  · rfl
  · rw [Bool.not_eq_true', Bool.not_eq_false] at hdead
    rw [Bool.not_eq_true] at hfree
    show s.validate k = s
    unfold validate
    split_ifs with hb
    · have hsame : s.workspace.verdicts.insert k (s.currentVerdict k) = s.workspace.verdicts :=
        Table.insert_of_get? (hj hdead hfree hb)
      rw [currentVerdict] at hsame
      dsimp only
      rw [hsame]
    · rfl
  · rfl

theorem judged_judgeEach (hk : k ∈ hs) (x : Session × Verdict) :
    (judgeEach (judge true) x hs).1.Judged k := by
  induction hs generalizing x with
  | nil => exact absurd hk List.not_mem_nil
  | cons h hs ih =>
    rcases List.mem_cons.mp hk with rfl | hk
    · exact ((Fills.refl true (x.1.judge true k).1).judgeEach
        (r := ((x.1.judge true k).1, x.2.and (x.1.judge true k).2)) hs).1.judged
        (judged_judge x.1 k)
    · exact ih hk _

theorem judgeEach_fst_of_judged (hall : ∀ k ∈ hs, s.Judged k) (v : Verdict) :
    (judgeEach (judge anew) (s, v) hs).1 = s := by
  induction hs generalizing v with
  | nil => rfl
  | cons h hs ih =>
    obtain ⟨hh, hall⟩ := List.forall_mem_cons.mp hall
    show (judgeEach (judge anew) ((s.judge anew h).1, v.and (s.judge anew h).2) hs).1 = s
    rw [hh.judge_fst]
    exact ih hall _

/-- Once a deep verdict was found anew, all elements and attributes that it is about are judged. -/
theorem judged_judgeDeep (hd : s.document.Forest) (he : s.document.isElement h = true)
    (hk : k ∈ s.document.namedNodes h) : (s.judgeDeep true h).1.Judged k := by
  rw [judgeDeep_eq true hd he]
  rw [hd.namedNodes_of_isElement he] at hk
  rcases List.mem_cons.mp hk with rfl | hk
  · exact ((Fills.refl true (s.judge true k).1).judgeEach _).1.judged (judged_judge s k)
  · exact judged_judgeEach hk _

/-- To find a deep verdict anew once more changes nothing, and it is the same. -/
theorem judgeDeep_judgeDeep (hd : s.document.Forest) (he : s.document.isElement h = true) :
    (s.judgeDeep true h).1.judgeDeep true h = s.judgeDeep true h := by
  obtain ⟨hf, hverdict⟩ := fills_judgeDeep true hd he
  have hjudged := fun k hk => judged_judgeDeep (k := k) hd he hk
  generalize s.judgeDeep true h = first at hf hverdict hjudged ⊢
  have hdoc := hf.document
  rw [← hdoc] at hd he
  refine Prod.ext ?_ ?_
  · rw [judgeDeep_eq true hd he]
    rw [← hdoc, hd.namedNodes_of_isElement he] at hjudged
    obtain ⟨hfirst, hbelow⟩ := List.forall_mem_cons.mp hjudged
    show (judgeEach (judge true) ((first.1.judge true h).1, (first.1.judge true h).2) _).1 = _
    rw [hfirst.judge_fst]
    exact judgeEach_fst_of_judged hbelow _
  · rw [(fills_judgeDeep true hd he).2, hverdict, hf.judge_snd, hdoc]
    refine congrArg _ (List.map_congr_left fun k _ => hf.judge_snd k)

/-! ## Everything -/

/-- Below the only outermost element there are all elements and attributes that are attached. -/
theorem mem_namedNodes_of_single (hd : s.document.Forest)
    (hsingle : s.document.elements Document.top = [r])
    (hk : s.document.Within Document.top k) (hnamed : s.document.isNamed k = true) :
    k ∈ s.document.namedNodes r := by
  rcases hk.cases_inside hd with rfl | ⟨-, ha | ⟨x, hx, hxk⟩ | ht⟩
  · rw [Document.isNamed, hd.isElement_top, Document.isAttribute, hd.kind?_top] at hnamed
    cases hnamed
  · have he := (hd.kinds_of_attribute ha).2
    rw [hd.isElement_top] at he
    cases he
  · rw [hsingle, List.mem_singleton] at hx
    exact hd.mem_namedNodes.mpr ⟨hx ▸ hxk, hnamed⟩
  · rw [Document.isNamed, Document.not_isElement_of_isText ht,
      Document.not_isAttribute_of_isText ht] at hnamed
    cases hnamed

/-- Of every rule in force it is known whether it holds and which nodes it leads to, and of every
attached element, and of every attached attribute that not all elements may have, what would be found
out now. -/
structure UpToDate (s : Session) : Prop where
  rules : ∀ id e, s.rules.get? id = some e → e.satisfied = e.rule.holds s.document ∧
    s.workspace.recorded.get? id = some (e.rule.nodes s.document)
  verdicts : ∀ k, s.document.isAttached k = true →
    s.document.isElement k = true ∨ s.document.isAttribute k = true ∧ s.isWhitelisted k = false →
      s.verdict? k = some { typeOk := s.valueIsValid k, rules := s.workspace.rulesOf k }

/-- What has a label is bound, unless every element may have it. -/
theorem isBound_of_labelled (hl : s.workspace.Labelled s.document k)
    (hk : s.document.isElement k = true ∨
      s.document.isAttribute k = true ∧ s.isWhitelisted k = false) :
    s.workspace.isBound k = true := by
  rcases hk with he | ⟨hattribute, hfree⟩
  · obtain ⟨c, hc, -⟩ := hl.element he
    exact Option.isSome_of_mem hc
  · rcases hl.ofAttribute hattribute with hwhite | ⟨c, hc, -⟩
    · rw [isWhitelisted, hattribute, hwhite] at hfree
      cases hfree
    · exact Option.isSome_of_mem hc

/-- While verdicts are found after the check of all rules, there is still nothing to find out about
rules. -/
theorem checked_revalidate (s : Session) : s.revalidate.1.Checked :=
  revalidate_induction (fun _ h hs => hs.validate h) s (checked_checkAllRules s)

section Single

variable (hd : s.document.Forest) (hsingle : s.document.elements Document.top = [r])

include hsingle

/-- A revalidation is a check of all rules and a deep verdict on the outermost element. -/
theorem revalidate_eq_judgeDeep : s.revalidate = s.checkAllRules.judgeDeep true r := by
  have hroot : s.root? = some r := by
    rw [root?, Document.root?, hsingle]
    rfl
  unfold revalidate
  dsimp only
  rw [root?_checkAllRules, hroot]

theorem isElement_of_single : s.document.isElement r = true :=
  (Document.mem_elements.mp (hsingle ▸ List.mem_singleton_self r)).2

include hd

/-- After a revalidation, all elements and attributes that are attached are judged. -/
theorem judged_revalidate (hk : s.document.Within Document.top k)
    (hnamed : s.document.isNamed k = true) : s.revalidate.1.Judged k := by
  have hmem := mem_namedNodes_of_single hd hsingle hk hnamed
  have he := isElement_of_single hsingle
  have hchecks : s.checkAllRules.document = s.document := (judges_checkRules s _).document
  rw [← hchecks] at hd he hmem
  rw [revalidate_eq_judgeDeep hsingle]
  exact judged_judgeDeep hd he hmem

/-- A second revalidation finds nothing new about rules, and the same verdicts. -/
theorem revalidate_revalidate : s.revalidate.1.revalidate = s.revalidate := by
  have he := isElement_of_single hsingle
  have hchecks : s.checkAllRules.document = s.document := (judges_checkRules s _).document
  have hagain : s.revalidate.1.checkAllRules = s.revalidate.1 :=
    (checked_revalidate s).checkRules_eq _
  have hsingle' : s.revalidate.1.document.elements Document.top = [r] := by
    rw [(judges_revalidate s).document]
    exact hsingle
  rw [← hchecks] at hd he
  rw [revalidate_eq_judgeDeep hsingle', hagain, revalidate_eq_judgeDeep hsingle]
  exact judgeDeep_judgeDeep hd he

end Single

/-- In every session that arises, a revalidation brings everything up to date, whatever was asked for
before. A second one right after it gives the same result, tells the user nothing and changes
nothing. -/
theorem upToDate_revalidate (ha : Arises atWill s) (hm : s.workspace.model.Built) :
    s.revalidate.1.UpToDate ∧ s.revalidate.1.revalidate = s.revalidate := by
  have hkempt : Kempt False False s := ha.kempt not_false.elim hm.treeShaped not_false.elim
  have hafter : Kempt False False s.revalidate.1 := hkempt.answer .revalidate not_false.elim
  have hforest := hkempt.poised.sane.orderly.forest
  have hjudges := judges_revalidate s
  have hchecked := checked_revalidate s
  obtain ⟨r, hsingle⟩ := hkempt.mirrors.single
  refine ⟨⟨fun id e hid => ?_, fun k hattached hk => ?_⟩, revalidate_revalidate hforest hsingle⟩
  · exact ⟨hchecked.settled id e hid, (hchecked.written id e hid).records.recorded⟩
  · have hbound := isBound_of_labelled (hafter.tended.labelled k) hk
    have hnamed : s.document.isNamed k = true := by
      rw [← hjudges.document, Document.isNamed, Bool.or_eq_true]
      exact hk.imp_right And.left
    have hfree : s.revalidate.1.isWhitelisted k = false := by
      rcases hk with hke | ⟨-, hfree⟩
      · rw [isWhitelisted, Document.not_isAttribute_of_isElement hke, Bool.false_and]
      · exact hfree
    have hwithin := (Document.isAttached_iff hafter.poised.sane.orderly).mp hattached
    have hlive := hwithin.contains
    rw [hjudges.document] at hwithin
    exact judged_revalidate hforest hsingle hwithin hnamed hlive hfree hbound

/-! ## A guide, once more -/

theorem built_guide : guide.Built := by
  refine .add (.add (.add (.ofRoot rfl) ?_) ?_) ?_ <;> decide

/-- The friend is nobody any more. Nothing was said against this, and a revalidation finds it out. -/
theorem revalidate_renamed : Arises atWill renamed ∧ renamed.workspace.model.Built ∧
    (renamed.verdict? ⟨5⟩).map Verdict.typeOk = some true ∧
    (renamed.revalidate.1.verdict? ⟨5⟩).map Verdict.typeOk = some false ∧
    renamed.revalidate.1.revalidate = renamed.revalidate := by
  have hbuilt : renamed.workspace.model.Built := by
    have hmodel : renamed.workspace.model = guide := rfl
    exact hmodel ▸ built_guide
  obtain ⟨hnow, hagain⟩ := upToDate_revalidate arises_renamed hbuilt
  have hverdict := hnow.verdicts ⟨5⟩ (by decide +kernel) (Or.inl (by decide +kernel))
  have hvalue : renamed.revalidate.1.valueIsValid ⟨5⟩ = false := by
    decide +kernel
  refine ⟨arises_renamed, hbuilt, by decide +kernel, ?_, hagain⟩
  rw [hverdict, Option.map_some, hvalue]

end GuidedXml.Session
