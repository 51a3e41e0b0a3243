/-
# Verdicts taken together

A deep verdict is put together on a walk through the elements below a node and their attributes, and
verdicts that are missing are found on the way. To find the verdict on one node changes nothing for
the others, so each of them enters as it would be given if it were asked for by itself.

The main statements say in which order a deep verdict takes the single ones together, and that it
says of all these nodes what the single ones say of each.
-/
import GuidedXml.Proofs.Document.Copying
import GuidedXml.Proofs.Editing.Referring
import GuidedXml.Proofs.Rule.Relevance

namespace GuidedXml

/-! ## Many verdicts -/

/-- Rules are appended in the order they come. -/
theorem appendRules_appendRule (rs more : List RuleId) (r : RuleId) :
    appendRules rs (appendRule more r) = appendRule (appendRules rs more) r := by
  by_cases hr : r ∈ more
  · rw [appendRule, if_pos (List.contains_iff_mem.mpr hr), appendRule,
      if_pos (List.contains_iff_mem.mpr (mem_appendRules.mpr (Or.inr hr)))]
  · rw [appendRule, if_neg (by simpa using hr), appendRules, List.foldl_append]
    rfl

/-- Lists of rules may be appended in any grouping. -/
theorem appendRules_assoc (rs more others : List RuleId) :
    appendRules (appendRules rs more) others = appendRules rs (appendRules more others) := by
  induction others generalizing more with
  | nil => rfl
  | cons r others ih =>
    show appendRules (appendRule (appendRules rs more) r) others =
      appendRules rs (appendRules (appendRule more r) others)
    rw [← appendRules_appendRule, ih]

namespace Verdict

variable {v : Verdict} {ws : List Verdict} {r : RuleId} {book : RuleBook}

/-- Verdicts may be taken together in any grouping. -/
protected theorem and_assoc (u v w : Verdict) : (u.and v).and w = u.and (v.and w) := by
  simp only [Verdict.and, Bool.and_assoc, appendRules_assoc]

/-- A verdict taken together with others, one after the other. -/
def andAll (v : Verdict) (ws : List Verdict) : Verdict :=
  ws.foldl Verdict.and v

/-- What is so of two verdicts taken together exactly if it is so of both is so of many exactly if it
is so of each. -/
theorem andAll_iff {P : Verdict → Prop} (hP : ∀ v w, P (v.and w) ↔ P v ∧ P w) :
    P (v.andAll ws) ↔ ∀ u ∈ v :: ws, P u := by
  rw [List.forall_mem_cons]
  induction ws generalizing v with
  | nil => simp [andAll]
  | cons w ws ih =>
    show P ((v.and w).andAll ws) ↔ _
    rw [ih, hP, List.forall_mem_cons, and_assoc]

/-- Values are valid together exactly if each of them is. -/
theorem typeOk_andAll : (v.andAll ws).typeOk = true ↔ ∀ u ∈ v :: ws, u.typeOk = true :=
  andAll_iff (P := fun u => u.typeOk = true) fun v w => by rw [Verdict.and, Bool.and_eq_true]

/-- Verdicts taken together are valid exactly if each of them is. -/
theorem isValid_andAll :
    (v.andAll ws).isValid book = true ↔ ∀ u ∈ v :: ws, u.isValid book = true :=
  andAll_iff (P := fun u => u.isValid book = true) fun v w => by rw [isValid_and, Bool.and_eq_true]

/-- Verdicts taken together name a rule exactly if one of them does. -/
theorem mem_rules_andAll : r ∈ (v.andAll ws).rules ↔ ∃ u ∈ v :: ws, r ∈ u.rules := by
  have hout : r ∉ (v.andAll ws).rules ↔ ∀ u ∈ v :: ws, r ∉ u.rules :=
    andAll_iff (P := fun u => r ∉ u.rules) fun v w => by rw [Verdict.and, mem_appendRules, not_or]
  rw [← not_iff_not, hout]
  simp only [not_exists, not_and]

/-- Verdicts taken together name no rule twice. -/
theorem nodup_rules_andAll (hv : v.rules.Nodup) : (v.andAll ws).rules.Nodup := by
  induction ws generalizing v with
  | nil => exact hv
  | cons w ws ih => exact ih (nodup_appendRules w.rules hv)

end Verdict

/-! ## Nodes with verdicts -/

namespace Document

variable {d : Document} {h k : Handle}

/-- Elements and attributes have names; texts and the document itself have none. -/
def isNamed (d : Document) (h : Handle) : Bool :=
  d.isElement h || d.isAttribute h

/-- The elements and attributes at and below a node, in document order. -/
def namedNodes (d : Document) (h : Handle) : List Handle :=
  (d.subtree h).filter d.isNamed

/-- The elements and attributes below an element, in document order. -/
def namedBelow (d : Document) (h : Handle) : List Handle :=
  d.attributes h ++ (d.elements h).flatMap d.namedNodes

namespace Forest

/-- The named nodes of a subtree are the nodes within that are named. -/
theorem mem_namedNodes (hd : d.Forest) :
    k ∈ d.namedNodes h ↔ d.Within h k ∧ d.isNamed k = true := by
  rw [namedNodes, List.mem_filter, mem_subtree_iff hd]

/-- An attribute is its only named node. -/
theorem namedNodes_of_isAttribute (hd : d.Forest) (ha : d.isAttribute h = true) :
    d.namedNodes h = [h] := by
  rw [namedNodes, hd.subtree_of_isAttribute ha, List.filter_cons_of_pos]
  · rfl
  · rw [isNamed, ha, Bool.or_true]

/-- A text has no named nodes. -/
theorem namedNodes_of_isText (hd : d.Forest) (ht : d.isText h = true) : d.namedNodes h = [] := by
  have he := not_isElement_of_isText ht
  refine List.eq_nil_iff_forall_not_mem.mpr fun k hk => ?_
  obtain ⟨hw, hnamed⟩ := hd.mem_namedNodes.mp hk
  obtain rfl := hw.eq_of_leaf hd.toLinked he fun hdoc => by
    rw [isText, hdoc] at ht
    cases ht
  rw [isNamed, he, not_isAttribute_of_isText ht] at hnamed
  cases hnamed

/-- The walk comes to an element first, then to its attributes, and then to the elements inside. -/
theorem namedNodes_of_isElement (hd : d.Forest) (he : d.isElement h = true) :
    d.namedNodes h = h :: d.namedBelow h := by
  have hattributes : (d.attributes h).flatMap d.namedNodes = d.attributes h := by
    rw [List.flatMap_congr fun a ha => hd.namedNodes_of_isAttribute (hd.kinds_of_attribute ha).1]
    exact List.flatMap_singleton' _
  have hchildren : ∀ cs : List Handle, (∀ c ∈ cs, c ∈ d.children h) →
      cs.flatMap d.namedNodes = (cs.filter d.isElement).flatMap d.namedNodes := by
    intro cs
    induction cs with
    | nil => exact fun _ => rfl
    | cons c cs ih =>
      intro hcs
      obtain ⟨hc, hcs⟩ := List.forall_mem_cons.mp hcs
      rcases (hd.kinds_of_child hc).1 with hce | hct
      · rw [List.filter_cons_of_pos hce, List.flatMap_cons, List.flatMap_cons, ih hcs]
      · rw [List.filter_cons_of_neg (by rw [not_isElement_of_isText hct]; decide),
          List.flatMap_cons, hd.namedNodes_of_isText hct, List.nil_append, ih hcs]
  rw [namedNodes, hd.subtree_eq, if_pos (contains_of_isElement he), List.filter_cons_of_pos,
    List.filter_flatMap, inside, List.flatMap_append]
  · show h :: ((d.attributes h).flatMap d.namedNodes ++ (d.children h).flatMap d.namedNodes) = _
    rw [hattributes, hchildren _ fun _ hc => hc]
    rfl
  · rw [isNamed, he, Bool.true_or]

end Forest

end Document

namespace Session

variable {s t : Session} {anew : Bool} {h k : Handle} {v : Verdict} {hs : List Handle}
  {judgeOne : Session → Handle → Session × Verdict}

/-! ## The walk -/

/-- Two lists of nodes are judged one after the other. -/
theorem judgeEach_append (r : Session × Verdict) (hs ks : List Handle) :
    judgeEach judgeOne r (hs ++ ks) = judgeEach judgeOne (judgeEach judgeOne r hs) ks :=
  List.foldl_append

/-- A verdict found before can be taken together with the others in the end. -/
theorem judgeEach_and (w : Verdict) (hs : List Handle) :
    judgeEach judgeOne (s, v.and w) hs =
      ((judgeEach judgeOne (s, w) hs).1, v.and (judgeEach judgeOne (s, w) hs).2) := by
  induction hs generalizing s w with
  | nil => rfl
  | cons h hs ih =>
    show judgeEach judgeOne ((judgeOne s h).1, (v.and w).and (judgeOne s h).2) hs = _
    rw [Verdict.and_assoc, ih]
    rfl

/-- The walk to nodes and what is below them is one walk to all of these. -/
theorem judgeEach_flatMap {below : Handle → List Handle} {f : Session → Handle → Session × Verdict}
    (hf : ∀ s h, (judgeOne s h).1.document = s.document)
    (hdeep : ∀ h ∈ hs, ∀ u, u.document = s.document →
      f u h = judgeEach judgeOne (judgeOne u h) (below h))
    {r : Session × Verdict} (hr : r.1.document = s.document) :
    judgeEach f r hs = judgeEach judgeOne r (hs.flatMap fun h => h :: below h) := by
  have hstays : ∀ (hs : List Handle) (r : Session × Verdict),
      (judgeEach judgeOne r hs).1.document = r.1.document := by
    intro hs
    induction hs with
    | nil => exact fun _ => rfl
    | cons h hs ih => exact fun r => (ih _).trans (hf r.1 h)
  induction hs generalizing r with
  | nil => rfl
  | cons h hs ih =>
    obtain ⟨hfirst, hrest⟩ := List.forall_mem_cons.mp hdeep
    have hone : judgeEach judgeOne r (h :: below h) = ((f r.1 h).1, r.2.and (f r.1 h).2) := by
      rw [hfirst r.1 hr]
      exact judgeEach_and _ _
    show judgeEach f ((f r.1 h).1, r.2.and (f r.1 h).2) hs = _
    rw [← hone, ih hrest ((hstays _ r).trans hr), List.flatMap_cons, judgeEach_append]

/-- A deep verdict is found on one walk to all elements and attributes at and below the element. -/
theorem judgeDeep_eq (anew : Bool) (hd : s.document.Forest) (he : s.document.isElement h = true) :
    s.judgeDeep anew h = judgeEach (judge anew) (s.judge anew h) (s.document.namedBelow h) := by
  obtain ⟨height, hheight, hsize⟩ := hd.exists_height
  have hstays : ∀ u k, (judge anew u k).1.document = u.document :=
    fun u k => (judges_judge anew u k).document
  suffices hwalk : ∀ (fuel : Nat) (u : Session) (k : Handle), u.document = s.document →
      s.document.isElement k = true → height k < fuel →
      judgeDeepAux anew fuel u k =
        judgeEach (judge anew) (u.judge anew k) (s.document.namedBelow k) by
    exact hwalk _ s h rfl he (hsize h (Document.contains_of_isElement he))
  intro fuel
  induction fuel with
  | zero => exact fun _ _ _ _ hlt => absurd hlt (Nat.not_lt_zero _)
  | succ fuel ih =>
    intro u k hu hk hlt
    have hbelow : ∀ x ∈ s.document.elements k, height x < fuel := fun x hx =>
      Nat.lt_of_lt_of_le (hheight x k (hd.parent?_of_mem_elements hx)) (Nat.lt_succ_iff.mp hlt)
    have hattributes : (judgeEach (judge anew) (u.judge anew k)
        (s.document.attributes k)).1.document = s.document :=
      (judges_judgeEach (judges_judge anew) _ _).document.trans ((hstays u k).trans hu)
    rw [judgeDeepAux, hu, judgeEach_flatMap hstays (fun x hx u' hu' => ih u' x hu'
      (Document.mem_elements.mp hx).2 (hbelow x hx)) hattributes, Document.namedBelow,
      List.flatMap_congr fun x hx =>
        (hd.namedNodes_of_isElement (Document.mem_elements.mp hx).2).symm, judgeEach_append]

/-! ## Verdicts found on the way -/

/-- What a validation would find out about the node now. -/
def currentVerdict (s : Session) (h : Handle) : Verdict where
  typeOk := s.valueIsValid h
  rules := s.workspace.rulesOf h

/-- The second session differs from the first one in verdicts on bound nodes that were found since,
and is the same otherwise. Where verdicts are not found anew, there was none on these nodes. -/
structure Fills (anew : Bool) (s t : Session) : Prop where
  same : t = { s with workspace := { s.workspace with verdicts := t.workspace.verdicts } }
  verdict? : ∀ k, t.verdict? k = s.verdict? k ∨ (anew = true ∨ s.verdict? k = none) ∧
    s.workspace.isBound k = true ∧ t.verdict? k = some (s.currentVerdict k)

namespace Fills

theorem refl (anew : Bool) (s : Session) : Fills anew s s :=
  ⟨rfl, fun _ => Or.inl rfl⟩

/-- Filling in verdicts leaves the document. -/
theorem document (hf : Fills anew s t) : t.document = s.document := by
  rw [hf.same]

/-- Filling in verdicts leaves nodes bound as they were. -/
theorem isBound (hf : Fills anew s t) (k : Handle) :
    t.workspace.isBound k = s.workspace.isBound k := by
  rw [hf.same]
  rfl

/-- Filling in verdicts leaves what is whitelisted. -/
theorem isWhitelisted (hf : Fills anew s t) (k : Handle) : t.isWhitelisted k = s.isWhitelisted k := by
  rw [hf.same]
  rfl

/-- Filling in verdicts leaves what a node would be judged. -/
theorem currentVerdict (hf : Fills anew s t) (k : Handle) :
    t.currentVerdict k = s.currentVerdict k := by
  rw [hf.same]
  rfl

/-- A verdict that is kept is not found again unless all are. -/
theorem verdict?_eq_some (hf : Fills false s t) (hv : s.verdict? k = some v) :
    t.verdict? k = some v := by
  rcases hf.verdict? k with hsame | ⟨hnew | hnone, -⟩
  · exact hsame.trans hv
  · cases hnew
  · rw [hv] at hnone
    cases hnone

/-- One more verdict is found. -/
theorem validate (hf : Fills anew s t) (hk : anew = true ∨ t.verdict? k = none) :
    Fills anew s (t.validate k) := by
  cases hb : t.workspace.isBound k with
  | false =>
    rw [Session.validate, hb]
    exact hf
  | true =>
    refine ⟨?_, fun j => ?_⟩
    · rw [Session.validate, hb, hf.same]
      rfl
    · by_cases hj : j = k
      · subst hj
        refine Or.inr ⟨hk.imp_right fun hnone => ?_, (hf.isBound j).symm.trans hb, ?_⟩
        · rcases hf.verdict? j with hsame | ⟨-, -, hsome⟩
          · exact hsame.symm.trans hnone
          · rw [hnone] at hsome
            cases hsome
        · rw [verdict?_validate t j hb, ← hf.currentVerdict j]
          rfl
      · rw [verdict?_validate_of_ne t hj]
        exact hf.verdict? j

/-- Judging a node fills in its verdict. -/
theorem judge (hf : Fills anew s t) (k : Handle) : Fills anew s (t.judge anew k).1 := by
  unfold Session.judge
  split_ifs with hdead hfree hfind
  · exact hf
  · exact hf
  · exact hf.validate (by simpa using hfind)
  · exact hf

end Fills

/-- What is said of a node that is judged: what would be found out now if that is asked for or nothing
is known, and what is known otherwise. -/
theorem judge_snd (hlive : s.document.contains h = true) (hfree : s.isWhitelisted h = false) :
    (s.judge anew h).2 =
      (if s.workspace.isBound h && (anew || (s.verdict? h).isNone) then some (s.currentVerdict h)
        else s.verdict? h).getD .unknown := by
  unfold judge
  rw [hlive, hfree]
  dsimp only
  rw [if_neg (by decide), if_neg (by decide)]
  cases hb : s.workspace.isBound h with
  | false =>
    have hsame : s.validate h = s := by
      rw [validate, hb]
      rfl
    rw [hsame, ite_self]
    rfl
  | true =>
    rw [Bool.true_and]
    split_ifs
    · rw [verdict?_validate s h hb]
      rfl
    · rfl

/-- Of every node the same is said as before other verdicts were found. -/
theorem Fills.judge_snd (hf : Fills anew s t) (k : Handle) :
    (t.judge anew k).2 = (s.judge anew k).2 := by
  cases hlive : s.document.contains k with
  | false =>
    rw [Session.judge, Session.judge, hf.document, hlive]
    rfl
  | true =>
    cases hfree : s.isWhitelisted k with
    | true =>
      rw [Session.judge, Session.judge, hf.document, hlive, hf.isWhitelisted, hfree]
      rfl
    | false =>
      rw [Session.judge_snd (hf.document ▸ hlive) ((hf.isWhitelisted k).trans hfree),
        Session.judge_snd hlive hfree, hf.isBound, hf.currentVerdict]
      rcases hf.verdict? k with hsame | ⟨hnew, hbound, hfound⟩
      · rw [hsame]
      · -- what was found since is what would be found in the first session
        have hfirst : (anew || (s.verdict? k).isNone) = true := by simpa using hnew
        rw [hbound, hfirst, hfound, Bool.true_and, Bool.true_and, if_pos rfl, ite_self]

/-- On a walk to many nodes, of each of them the same is said as at the beginning. -/
theorem Fills.judgeEach {r : Session × Verdict} (hf : Fills anew s r.1) (hs : List Handle) :
    Fills anew s (Session.judgeEach (Session.judge anew) r hs).1 ∧
      (Session.judgeEach (Session.judge anew) r hs).2 = r.2.andAll (hs.map fun k => (s.judge anew k).2) := by
  induction hs generalizing r with
  | nil => exact ⟨hf, rfl⟩
  | cons h hs ih =>
    obtain ⟨hfills, hverdict⟩ :=
      ih (r := ((r.1.judge anew h).1, r.2.and (r.1.judge anew h).2)) (hf.judge h)
    refine ⟨hfills, hverdict.trans ?_⟩
    dsimp only
    rw [hf.judge_snd]
    rfl

/-- A deep verdict takes together what is said of each element and attribute by itself. -/
theorem fills_judgeDeep (anew : Bool) (hd : s.document.Forest)
    (he : s.document.isElement h = true) : Fills anew s (s.judgeDeep anew h).1 ∧
      (s.judgeDeep anew h).2 = (s.judge anew h).2.andAll
        ((s.document.namedBelow h).map fun k => (s.judge anew k).2) := by
  rw [judgeDeep_eq anew hd he]
  exact ((Fills.refl anew s).judge h).judgeEach _

/-! ## Deep verdicts -/

/-- No rule is named twice in what is said of a single node. -/
theorem nodup_rules_judge (hw : s.workspace.Accounted) (h : Handle) :
    (s.judge false h).2.rules.Nodup := by
  cases hlive : s.document.contains h with
  | false =>
    rw [judge, hlive]
    exact List.nodup_nil
  | true =>
    cases hfree : s.isWhitelisted h with
    | true =>
      rw [judge, hlive, hfree]
      exact List.nodup_nil
    | false =>
      rw [judge_snd hlive hfree]
      split_ifs
      · exact hw.nodup h
      · cases hv : s.verdict? h with
        | none => exact List.nodup_nil
        | some v =>
          show v.rules.Nodup
          rw [hw.quoted h v hv]
          exact hw.nodup h

/-- In every session that arises, a deep verdict on an element says of the element, and of all
elements and attributes below it, what the verdicts on each of them say: that all values are of their
types, which rules there are about any of these nodes, each of them once, and so that all is valid.
To find it changes no verdict that was found before. -/
theorem verdictOn_deep (ha : Arises atWill s) (he : s.document.isElement h = true) :
    ((s.verdictOn h true).2.typeOk = true ↔
      ∀ k ∈ s.document.namedNodes h, (s.verdictOn k false).2.typeOk = true) ∧
    (s.verdictOn h true).2.rules.Nodup ∧
    (∀ r, r ∈ (s.verdictOn h true).2.rules ↔
      ∃ k ∈ s.document.namedNodes h, r ∈ (s.verdictOn k false).2.rules) ∧
    (∀ book, (s.verdictOn h true).2.isValid book = true ↔
      ∀ k ∈ s.document.namedNodes h, (s.verdictOn k false).2.isValid book = true) ∧
    ∀ k v, s.verdict? k = some v → (s.verdictOn h true).1.verdict? k = some v := by
  have hforest := ha.poised.sane.orderly.forest
  obtain ⟨hfills, hverdict⟩ := fills_judgeDeep false hforest he
  have hnodes : (s.document.namedNodes h).map (fun k => (s.judge false k).2) =
      (s.judge false h).2 :: (s.document.namedBelow h).map fun k => (s.judge false k).2 := by
    rw [hforest.namedNodes_of_isElement he, List.map_cons]
  have hall : ∀ P : Verdict → Prop, (∀ u ∈ (s.judge false h).2 ::
      (s.document.namedBelow h).map (fun k => (s.judge false k).2), P u) ↔
        ∀ k ∈ s.document.namedNodes h, P (s.judge false k).2 := by
    intro P
    rw [← hnodes, List.forall_mem_map]
  simp only [verdictOn, if_true, Bool.false_eq_true, if_false]
  refine ⟨?_, ?_, fun r => ?_, fun book => ?_, fun k v hv => hfills.verdict?_eq_some hv⟩
  · rw [hverdict, Verdict.typeOk_andAll]
    exact hall fun u => u.typeOk = true
  · rw [hverdict]
    exact Verdict.nodup_rules_andAll (nodup_rules_judge ha.accounted.accounts h)
  · rw [hverdict, Verdict.mem_rules_andAll, ← hnodes]
    simp only [List.mem_map, exists_exists_and_eq_and]
  · rw [hverdict, Verdict.isValid_andAll]
    exact hall fun u => u.isValid book = true

/-- All of the scan is valid. The rule is about its run alone, and so about all of the scan. -/
theorem verdictOn_deep_scanned : Arises atWill scanned ∧
    scanned.document.namedNodes ⟨1⟩ = [⟨1⟩, ⟨2⟩, ⟨3⟩, ⟨4⟩] ∧
    (scanned.verdictOn ⟨4⟩ false).2.rules = ["fast"] ∧
    "fast" ∈ (scanned.verdictOn ⟨1⟩ true).2.rules ∧
    (scanned.verdictOn ⟨1⟩ true).2.isValid scanned.rules = true := by
  have harises : Arises atWill scanned := .loaded load_scanned
  have hnodes : scanned.document.namedNodes ⟨1⟩ = [⟨1⟩, ⟨2⟩, ⟨3⟩, ⟨4⟩] := by
    decide +kernel
  have hrules : (scanned.verdictOn ⟨4⟩ false).2.rules = ["fast"] := by
    decide +kernel
  have hvalid : ∀ k ∈ scanned.document.namedNodes ⟨1⟩,
      (scanned.verdictOn k false).2.isValid scanned.rules = true := by
    decide +kernel
  obtain ⟨-, -, hnamed, hall, -⟩ := verdictOn_deep harises (h := ⟨1⟩) (by decide +kernel)
  refine ⟨harises, hnodes, hrules, (hnamed "fast").mpr ⟨⟨4⟩, ?_, ?_⟩, (hall _).mpr hvalid⟩
  · rw [hnodes]
    decide
  · rw [hrules]
    decide

end Session

end GuidedXml
