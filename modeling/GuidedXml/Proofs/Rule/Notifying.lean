/-
# Notices follow their rules

While a request is answered the session goes through moments: rules are checked, each of them once
in a check, and between the checks nothing changes that is a matter of rules.

The main statement says that in every session of a run no notice about a rule is open while the rule
is satisfied, and the latest one alone while it is not; so that the rule was satisfied between any
two notices about it.
-/
import GuidedXml.Proofs.Rule.Following
import GuidedXml.Proofs.Rule.Telling
import GuidedXml.Proofs.Table

namespace GuidedXml

open Schema (ConstraintId ContentModel SchemaFault)

/-! ## Rules in force -/

namespace RuleBook

variable {b : RuleBook} {id : RuleId} {e e' : Entry}

/-- The rules under the names that they are kept by. -/
def index (b : RuleBook) : List (RuleId × Rule) :=
  b.entries.entries.map fun x => (x.1, x.2.rule)

theorem lookup_index (b : RuleBook) (id : RuleId) :
    Table.lookup id b.index = (b.get? id).map Entry.rule := by
  obtain ⟨⟨es⟩, n⟩ := b
  show Table.lookup id (es.map _) = (Table.lookup id es).map _
  induction es with
  | nil => rfl
  | cons x es ih =>
    rw [List.map_cons, Table.lookup, Table.lookup, ih]
    split_ifs <;> rfl

/-- What is known of a rule may change, without any change to the rules. -/
theorem index_insert (he : b.get? id = some e) (hr : e'.rule = e.rule) :
    ({ b with entries := b.entries.insert id e' } : RuleBook).index = b.index := by
  refine (Table.map_write Entry.rule id e' b.entries.entries).trans (Table.write_of_lookup ?_)
  exact (b.lookup_index id).trans (by rw [he, hr, Option.map_some])

/-- Subscribing changes no rule. -/
theorem index_subscribe (b : RuleBook) (id : RuleId) : (b.subscribe id).1.index = b.index := by
  show (b.entries.entries.map _).map _ = b.entries.entries.map _
  rw [List.map_map]
  refine List.map_congr_left fun x _ => ?_
  simp only [Function.comp_apply]
  split_ifs <;> rfl

/-- Evaluating changes no rule. -/
theorem index_evaluate (b : RuleBook) (d : Document) (ids : List RuleId) :
    (b.evaluate d ids).1.index = b.index := by
  induction ids generalizing b with
  | nil => rfl
  | cons id ids ih =>
    rw [evaluate]
    cases he : b.get? id with
    | none => exact ih b
    | some e => exact (ih _).trans (index_insert he rfl)

/-- Every rule is kept once, by its own name. -/
structure Named (b : RuleBook) : Prop where
  nodup : (b.index.map Prod.fst).Nodup
  name : ∀ x ∈ b.index, x.2.id = x.1

/-- Rules that are named apart have distinct names. -/
theorem Named.nodup_ids (hb : b.Named) : b.ids.Nodup := by
  have hids : b.ids = b.index.map Prod.fst := by
    rw [ids, Table.keys, index, List.map_map]
    rfl
  rw [hids]
  exact hb.nodup

theorem Named.nodup_missingParameters (hb : b.Named) (recorded : RuleId → Option Nat) :
    (b.missingParameters recorded).Nodup := by
  have hids : b.list.map (fun e => e.rule.id) = b.index.map Prod.fst := by
    rw [list, index, List.map_map, List.map_map]
    refine List.map_congr_left fun x hx => ?_
    exact hb.name (x.1, x.2.rule) (List.mem_map_of_mem hx)
  rw [missingParameters]
  exact List.Nodup.sublist (List.filter_sublist.map _) (hids ▸ hb.nodup)

/-- Rules that are added one after the other are kept by their names. -/
theorem named_ofRules (rs : List Rule) : (ofRules rs).Named := by
  have hinsert : ∀ {b : RuleBook} (r : Rule), b.Named → (b.insert r).Named := by
    intro b r hb
    have hindex : (b.insert r).index = Table.write r.id r b.index :=
      Table.map_write Entry.rule r.id { rule := r } b.entries.entries
    refine ⟨hindex ▸ Table.nodup_keys_write hb.nodup, fun x hx => ?_⟩
    rw [hindex] at hx
    rcases Table.mem_of_mem_write hx with rfl | hx
    · rfl
    · exact hb.name x hx
  have hempty : ({} : RuleBook).Named := ⟨List.nodup_nil, by simp [index]⟩
  unfold ofRules
  generalize ({} : RuleBook) = b at hempty
  induction rs generalizing b with
  | nil => exact hempty
  | cons r rs ih => exact ih _ (hinsert r hempty)

/-- Rules that are added are in force, and nothing is known of them yet. -/
theorem exists_get?_ofRules {rs : List Rule} (hid : id ∈ rs.map Rule.id) :
    ∃ r : Rule, (ofRules rs).get? id = some { rule := r } := by
  have hfold : ∀ (rs : List Rule) (b : RuleBook),
      (id ∈ rs.map Rule.id ∨ ∃ r : Rule, b.get? id = some { rule := r }) →
        ∃ r : Rule, (rs.foldl insert b).get? id = some { rule := r } := by
    intro rs
    induction rs with
    | nil => exact fun b hb => hb.resolve_left (by simp)
    | cons r rs ih =>
      intro b hb
      refine ih (b.insert r) ?_
      have hget : (b.insert r).get? id = if id = r.id then some { rule := r } else b.get? id :=
        Table.get?_insert ..
      rw [List.map_cons, List.mem_cons, or_assoc] at hb
      rw [hget]
      split_ifs with heq
      · exact Or.inr ⟨r, rfl⟩
      · exact hb.resolve_left heq
  exact hfold rs {} (Or.inl hid)

end RuleBook

namespace Workspace

variable {w : Workspace} {d : Document}

/-- Recording the nodes of a rule repeats no rule at any node. -/
theorem nodup_rulesOf_recordRule (hw : ∀ h, (w.rulesOf h).Nodup) (r : RuleId) (nodes : List Handle)
    (h : Handle) : ((w.recordRule r nodes).rulesOf h).Nodup := by
  have hfold : ∀ {f : Workspace → Handle → Workspace},
      (∀ w k, (∀ h, (w.rulesOf h).Nodup) → ∀ h, ((f w k).rulesOf h).Nodup) →
      ∀ (ks : List Handle) (w : Workspace), (∀ h, (w.rulesOf h).Nodup) →
        ∀ h, ((ks.foldl f w).rulesOf h).Nodup := by
    intro f hf ks
    induction ks with
    | nil => exact fun _ hw => hw
    | cons k ks ih => exact fun w hw => ih (f w k) (hf w k hw)
  refine hfold (fun w k hw h => ?_) _ _ (hfold (fun w k hw h => ?_) _ w hw) h
  · rw [rulesOf_addRelevance]
    split_ifs
    · exact nodup_appendRule r (hw k)
    · exact hw h
  · rw [rulesOf_dropRelevance]
    split_ifs
    · exact (hw k).filter _
    · exact hw h

/-- No rule is listed twice for a subtree. -/
theorem nodup_rulesOfSubtree (w : Workspace) (d : Document) (h : Handle) :
    (w.rulesOfSubtree d h).Nodup := by
  unfold rulesOfSubtree
  have hfold : ∀ (ks : List Handle) (rs : List RuleId), rs.Nodup →
      (ks.foldl (fun rs n => appendRules rs (w.rulesOf n)) rs).Nodup := by
    intro ks
    induction ks with
    | nil => exact fun _ hrs => hrs
    | cons k ks ih => exact fun rs hrs => ih _ (nodup_appendRules _ hrs)
  exact hfold _ [] List.nodup_nil

end Workspace

namespace Session

variable {s s' s'' u u' : Session} {us vs : List Session} {r : RuleId} {d : Document} {h : Handle}
  {c : ConstraintId}

/-! ## Moments -/

/-- Nothing changed that is a matter of rules, apart from nodes that no rule is about any more. -/
structure Still (s s' : Session) : Prop where
  rules : s'.rules = s.rules
  notices : s'.notices = s.notices
  recorded : ∀ r, s'.workspace.recorded.contains r = s.workspace.recorded.contains r
  relevant : ∀ h, s'.workspace.rulesOf h = s.workspace.rulesOf h ∨ s'.workspace.rulesOf h = []

/-- From one moment to the next nothing changes that is a matter of rules, or somebody else tells the
user something, or rules are checked, each of them once. -/
inductive Turn : Session → Session → Prop
  | still {s s' : Session} : Still s s' → Turn s s'
  | told {s : Session} (n : Notice) : n.violation = none → Turn s (s.notify n)
  | checked {s : Session} {ids : List RuleId} : ids.Nodup → Turn s (s.checkRules ids)

/-- From a session through moments to the last one of them. -/
inductive Course : Session → List Session → Session → Prop
  | here (s : Session) : Course s [] s
  | turn {s u s' : Session} {us : List Session} :
      Turn s u → Course u us s' → Course s (u :: us) s'

/-- Courses may follow each other. -/
theorem Course.append (h₁ : Course s us s') (h₂ : Course s' vs s'') : Course s (us ++ vs) s'' := by
  induction h₁ with
  | here => exact h₂
  | turn ht _ ih => exact .turn ht (ih h₂)

/-- Every rule is kept once, by its own name, and no rule is repeated at a node. -/
structure Noted (s : Session) : Prop where
  named : s.rules.Named
  nodup : ∀ h, (s.workspace.rulesOf h).Nodup

/-- Nothing moves where rules, notices and records stay. -/
theorem Still.of_workspace (hr : s'.rules = s.rules) (hn : s'.notices = s.notices)
    (hrec : s'.workspace.recorded = s.workspace.recorded)
    (hrel : s'.workspace.relevant = s.workspace.relevant) : Still s s' where
  rules := hr
  notices := hn
  recorded := fun r => by rw [hrec]
  relevant := fun h => Or.inl (by rw [Workspace.rulesOf, Workspace.rulesOf, hrel])

/-- Noting an evaluation changes nothing about which rules there are, and repeats none. -/
theorem noted_noteEvaluation {held : RuleId → Bool} {x : RuleId × RuleBook.Evaluation}
    (hs : s.Noted) : (s.noteEvaluation held x).Noted := by
  have hworkspace : (s.noteEvaluation held x).workspace =
      s.workspace.recordRule x.1 x.2.nodes := by
    obtain ⟨rules, notices, heq⟩ := exists_noteEvaluation held s x
    rw [heq]
  refine ⟨?_, fun h => ?_⟩
  · have hindex : (s.noteEvaluation held x).rules.index = s.rules.index := by
      rcases noteEvaluation_cases held s x with ⟨hr, -⟩ | ⟨message, hr, -⟩
      · rw [hr]
      · rw [hr, RuleBook.index_subscribe]
    exact ⟨hindex ▸ hs.named.nodup, hindex ▸ hs.named.name⟩
  · rw [hworkspace]
    exact Workspace.nodup_rulesOf_recordRule hs.nodup ..

/-- A session stays noted when rules are checked. -/
theorem noted_checkRules (hs : s.Noted) (ids : List RuleId) : (s.checkRules ids).Noted := by
  have hindex := RuleBook.index_evaluate s.rules s.document ids
  have hevaluated : Noted { s with rules := (s.rules.evaluate s.document ids).1 } :=
    ⟨⟨hindex ▸ hs.named.nodup, hindex ▸ hs.named.name⟩, hs.nodup⟩
  unfold checkRules
  dsimp only
  generalize (s.rules.evaluate s.document ids).2 = es
  generalize ({ s with rules := (s.rules.evaluate s.document ids).1 } : Session) = u at hevaluated
  induction es generalizing u with
  | nil => exact hevaluated
  | cons x es ih => exact ih _ (noted_noteEvaluation hevaluated)

/-- A session stays noted from one moment to the next. -/
theorem Turn.noted (ht : Turn s s') (hs : s.Noted) : s'.Noted := by
  cases ht with
  | still hstill =>
    refine ⟨hstill.rules ▸ hs.named, fun h => ?_⟩
    rcases hstill.relevant h with hrel | hrel
    · exact hrel ▸ hs.nodup h
    · exact hrel ▸ List.nodup_nil
  | told n hn => exact ⟨hs.named, hs.nodup⟩
  | checked hnd => exact noted_checkRules hs _

/-- A session stays noted through a course. -/
theorem Course.noted (hc : Course s us s') (hs : s.Noted) : s'.Noted := by
  induction hc with
  | here => exact hs
  | turn ht _ ih => exact ih (ht.noted hs)

/-- From moment to moment no ticket comes to wait again. -/
theorem Turn.onward (ht : Turn s s') : Onward s s' := by
  cases ht with
  | still hstill => exact .of_eq hstill.rules hstill.notices
  | told n hn =>
    refine ⟨Nat.le_refl _, fun hs n' hn' v hv => ?_, fun _ _ => Or.inl, List.prefix_append ..⟩
    rcases List.mem_append.mp hn' with hn' | hn'
    · exact hs n' hn' v hv
    · rw [List.mem_singleton.mp hn', hn] at hv
      simp at hv
  | checked => exact onward_checkRules s _

/-- A course leads onward. -/
theorem Course.onward (hc : Course s us s') : Onward s s' := by
  induction hc with
  | here => exact .of_eq rfl rfl
  | turn ht _ ih => exact ht.onward.trans ih

/-- The rule was checked at some time, and the user was told of it what there is to tell. -/
def Heard (s : Session) (r : RuleId) : Prop :=
  s.workspace.recorded.contains r = true ∧ ∃ e, s.Told r e

/-- From moment to moment the user is told what there is to tell. -/
theorem Turn.heard (ht : Turn s s') (hnum : s.Numbered) (hs : s.Heard r) : s'.Heard r := by
  obtain ⟨hrec, e, htold⟩ := hs
  have hsilent : Silent r s s' → s'.Heard r := fun hs =>
    ⟨hs.recorded.trans hrec, e, htold.silent hs⟩
  cases ht with
  | still hstill =>
    exact hsilent ⟨by rw [hstill.rules], by rw [noticesAbout, hstill.notices, noticesAbout],
      hstill.recorded r⟩
  | told n hn =>
    refine hsilent ⟨rfl, ?_, rfl⟩
    rw [noticesAbout, notify, List.filter_append, noticesAbout]
    simp [hn]
  | @checked ids hnd =>
    by_cases hr : r ∈ ids
    · exact told_checkRules_of_mem hnd hr hnum htold
    · exact hsilent (silent_checkRules s hr)

/-- Through a course the user is told of a rule what there is to tell. -/
theorem Course.heard (hc : Course s us s') (hnum : s.Numbered) (hs : s.Heard r) : s'.Heard r := by
  induction hc with
  | here => exact hs
  | turn ht _ ih => exact ih (ht.onward.numbered hnum) (ht.heard hnum hs)

/-- While the user knows that a rule is violated, nothing new is told of it. -/
theorem Turn.noticesAbout (ht : Turn s s') (hloud : s.isQuietAbout r = false) :
    s'.noticesAbout r = s.noticesAbout r := by
  cases ht with
  | still hstill => rw [Session.noticesAbout, hstill.notices, Session.noticesAbout]
  | told n hn =>
    rw [Session.noticesAbout, notify, List.filter_append, Session.noticesAbout]
    simp [hn]
  | @checked ids _ =>
    have hfold : ∀ (es : List (RuleId × RuleBook.Evaluation)) (u : Session),
        (es.foldl (noteEvaluation s.isQuietAbout) u).noticesAbout r = u.noticesAbout r := by
      intro es
      induction es with
      | nil => exact fun _ => rfl
      | cons x es ih =>
        intro u
        refine (ih _).trans ?_
        by_cases hx : x.1 = r
        · have hquiet := noteEvaluation_of_quiet (s := u) (x := x) (Or.inr (Or.inl (hx ▸ hloud)))
          rw [Session.noticesAbout, hquiet.2, Session.noticesAbout]
        · exact (silent_noteEvaluation _ u hx).about
    exact hfold _ _

/-- Between two notices about a rule it was satisfied. -/
theorem Course.exists_satisfied (hc : Course s us s') (hnum : s.Numbered) (hs : s.Heard r)
    (hmore : (s.noticesAbout r).length < (s'.noticesAbout r).length) :
    ∃ u ∈ s :: us, u.rules.isSatisfied r = true ∧ u.noticesAbout r = s.noticesAbout r := by
  induction hc with
  | here => exact absurd hmore (Nat.lt_irrefl _)
  | @turn s u s' us ht _ ih =>
    cases hsat : s.rules.isSatisfied r with
    | true => exact ⟨s, List.mem_cons_self .., hsat, rfl⟩
    | false =>
      have hloud : s.isQuietAbout r = false := by
        rw [isQuietAbout, hs.1, hsat]
        rfl
      have habout := ht.noticesAbout hloud
      obtain ⟨x, hx, hsat, hsame⟩ :=
        ih (ht.onward.numbered hnum) (ht.heard hnum hs) (habout ▸ hmore)
      exact ⟨x, List.mem_cons_of_mem _ hx, hsat, hsame.trans habout⟩

/-! ## What passes while a request is answered -/

/-- From a session that is noted there is a course to the other one. -/
def Passes (s s' : Session) : Prop :=
  s.Noted → ∃ us, Course s us s'

theorem Passes.refl (s : Session) : Passes s s :=
  fun _ => ⟨[], .here s⟩

theorem Passes.trans (h₁ : Passes s s') (h₂ : Passes s' s'') : Passes s s'' := by
  intro hs
  obtain ⟨us, hc⟩ := h₁ hs
  obtain ⟨vs, hc'⟩ := h₂ (hc.noted hs)
  exact ⟨us ++ vs, hc.append hc'⟩

/-- Where nothing moves, a course of one turn passes. -/
theorem Still.passes (hs : Still s s') : Passes s s' :=
  fun _ => ⟨[s'], .turn (.still hs) (.here s')⟩

/-- Checking rules passes by one turn. -/
theorem passes_checkRules {ids : List RuleId} (hnd : s.Noted → ids.Nodup) :
    Passes s (s.checkRules ids) :=
  fun hs => ⟨[_], .turn (.checked (hnd hs)) (.here _)⟩

theorem passes_checkAllRules (s : Session) : Passes s s.checkAllRules :=
  passes_checkRules fun hs => hs.named.nodup_ids

theorem passes_checkMissing (s : Session) : Passes s s.checkMissing :=
  passes_checkRules fun hs => hs.named.nodup_missingParameters _

/-- Nothing moves when nodes are validated. -/
theorem still_validateAll (s : Session) (hs : List Handle) : Still s (s.validateAll hs) := by
  rw [validateAll_eq]
  exact .of_workspace rfl rfl rfl rfl

theorem still_validate (s : Session) (h : Handle) : Still s (s.validate h) :=
  still_validateAll s [h]

theorem still_giveUp (s : Session) (p : Handle) :
    Still s { s with workspace := s.workspace.invalidate s.document p } := by
  rw [Workspace.invalidate_eq]
  exact .of_workspace rfl rfl rfl rfl

theorem passes_partWith (s : Session) (old parent : Handle) :
    Passes s (s.partWith old parent) :=
  (passes_checkRules fun _ => Workspace.nodup_rulesOfSubtree ..).trans (still_giveUp _ parent).passes

/-- What is let go is no matter of rules any more. -/
theorem still_letGo (ht : s.workspace.Traced s.document) (h : Handle) (d : Document) :
    Still s (s.letGo h d) where
  rules := rfl
  notices := rfl
  recorded := by
    intro r
    rw [Table.contains, Table.contains]
    show ((s.workspace.forget s.document h).1.recorded.get? r).isSome = _
    rw [ht.recorded_forget, Option.isSome_map]
  relevant := by
    intro k
    have hget : (s.letGo h d).workspace.relevant.get? k =
        if k ∈ s.document.subtree h then none else s.workspace.relevant.get? k :=
      Workspace.get?_forgetNodes (fun w => w.relevant) (fun _ _ => rfl) (s.document.subtree h)
        { s.workspace with outline := s.workspace.outline.detach h } k
    rw [Workspace.rulesOf, Table.getD, hget]
    split_ifs
    · exact Or.inr rfl
    · exact Or.inl rfl

/-- What was built is no matter of rules yet. -/
theorem still_built {n : Nat} {e : Document} {t : Workspace.Stage}
    (hb : Workspace.Builds n (s.workspace, e) t) : Still s (s.withStage t) := by
  have hw := hb.workspace
  dsimp only at hw
  refine .of_workspace rfl rfl ?_ ?_
  · show t.1.recorded = _
    rw [hw]
  · show t.1.relevant = _
    rw [hw]

/-- Nothing moves when nodes are created. -/
theorem still_made {t : Workspace.Stage} {x : Option Handle} (hs : Poised (s, none))
    (hc : s.workspace.create s.document c = (t, x)) : Still s (s.withStage t) := by
  have hb := Workspace.builds_create hs.sane.toSound c
  rw [hc] at hb
  exact still_built hb

/-! ## Requests -/

/-- Adding a node passes by turns. -/
theorem passes_addNode (hs : Poised (s, none)) (c : ConstraintId) (parent : Handle)
    (after : Option Handle) : Passes s (s.addNode c parent after).1 := by
  rcases addNode_cases hs c parent after with
    ⟨fault, heq⟩ | ⟨t, ht, -, ⟨d, fault, hd, heq⟩ | ⟨d, hd, heq⟩⟩
  · rw [heq]
    exact .refl s
  · rw [heq]
    exact (still_made hs ht).passes.trans
      (still_letGo (poised_made hs ht).1.sane.traced _ d).passes
  · rw [heq]
    have hattached : Still (s.withStage t) (s.withStage
        ({ t.1 with outline := t.1.outline.attach d s.document.next }, d)) :=
      .of_workspace rfl rfl rfl rfl
    have hadopted : Passes (s.withStage t)
        ((s.withStage t).adoptElement d parent s.document.next) :=
      hattached.passes.trans (still_giveUp _ parent).passes
    exact (still_made hs ht).passes.trans
      (hadopted.trans ((passes_checkMissing _).trans (still_validate _ _).passes))

theorem passes_addAttribute (hs : Poised (s, none)) (c : ConstraintId) (element : Handle) :
    Passes s (s.addAttribute c element).1 := by
  rcases addAttribute_cases hs c element with
    ⟨fault, heq⟩ | ⟨t, d, displaced, u, ht, -, hposed, hcleared, heq⟩
  · rw [heq]
    exact .refl s
  · rw [heq]
    have hplaced : Still (s.withStage t) { s.withStage t with document := d } :=
      .of_workspace rfl rfl rfl rfl
    have hu : Passes { s.withStage t with document := d } u := by
      cases hcleared with
      | nothing => exact .refl _
      | displaced hd' =>
        exact (still_letGo hposed.sane.traced _ _).passes.trans (still_validateAll _ _).passes
    exact (still_made hs ht).passes.trans (hplaced.passes.trans (hu.trans
      ((still_giveUp u element).passes.trans
        ((passes_checkMissing _).trans (still_validate _ _).passes))))

/-- Removing a node passes by turns. -/
theorem passes_removeNode (hs : Poised (s, none)) (h : Handle) :
    Passes s (s.removeNode h).1 := by
  rcases removeNode_cases hs h with
    ⟨fault, heq⟩ | ⟨p, d, d', u, -, -, hposed, rfl, -, heq⟩
  · rw [heq]
    exact .refl s
  · rw [heq]
    have htaken : Still s (s.takeOut h d) := .of_workspace rfl rfl rfl rfl
    exact htaken.passes.trans ((passes_partWith _ h p).trans
      ((still_letGo (poised_partWith hposed h p).sane.traced h d').passes.trans
        (still_validateAll _ _).passes))

/-- Choosing an alternative passes by turns. -/
theorem passes_chooseAlternative (hs : Poised (s, none)) (c : ConstraintId) (parent : Handle)
    (after : Option Handle) (replaced : Handle) :
    Passes s (s.chooseAlternative c parent after replaced).1 := by
  have hadded := passes_addNode hs c parent after
  have hm : Moves False True (s, none) ((s.addNode c parent after).1, none) :=
    moves_addNode hs c parent after
  have hposed := hm.poised hs
  unfold chooseAlternative
  generalize s.addNode c parent after = added at hadded hposed
  obtain ⟨u, fault | h⟩ := added
  · exact hadded
  · dsimp only at hadded hposed ⊢
    have hremoved := passes_removeNode hposed replaced
    generalize u.removeNode replaced = removed at hremoved
    obtain ⟨u', fault | ⟨⟩⟩ := removed
    · exact hadded.trans hremoved
    · exact (hadded.trans hremoved).trans (still_giveUp u' parent).passes

/-- Replacing a node passes by turns. -/
theorem passes_replace (hs : Poised (s, none)) {source : Document} (hsource : source.Linked)
    (old node : Handle) : Passes s (s.replace old source node).1 := by
  rcases replace_steps hs hsource old node with
    ⟨s', fault, heq, hun⟩ | ⟨c, p, d, d', e, w, new, u, -, hsw, hbind, hposed, rfl, -, heq⟩
  · rw [heq]
    refine Still.passes ⟨hun.rules, hun.notices, fun r => ?_, fun k => Or.inl ?_⟩
    · rw [Table.contains, hun.workspace.recorded, Table.contains]
    · rw [Workspace.rulesOf, Table.getD, hun.workspace.relevant, Workspace.rulesOf, Table.getD]
  · rw [heq]
    have hb := hsw.builds hs.sane c
    rw [hbind] at hb
    have hshown : Still (s.withStage (w, d')) ((s.withStage (w, d')).showInstead old new) :=
      .of_workspace rfl rfl rfl rfl
    exact (still_built hb).passes.trans (hshown.passes.trans ((passes_partWith _ old p).trans
      ((still_letGo (poised_partWith hposed old p).sane.traced old e).passes.trans
        ((passes_checkMissing _).trans
          ((still_validate _ new).passes.trans (still_validateAll _ _).passes)))))

/-- Setting a value passes by turns. -/
theorem passes_setValue (hs : Poised (s, none)) (h : Handle) (value : String) :
    Passes s (s.setValue h value).1 := by
  rcases setValue_eq hs h value with ⟨fault, heq⟩ | ⟨c, d, u, -, -, rfl, heq⟩
  · rw [heq]
    exact .refl s
  · rw [heq]
    have hwritten : Still s (s.rewritten h c value d) := by
      rw [rewritten_eq]
      exact .of_workspace rfl rfl rfl rfl
    exact hwritten.passes.trans
      ((passes_checkRules fun hu => hu.nodup h).trans (still_validate _ h).passes)

/-- A request leads through moments. -/
theorem passes_answer (hs : Poised (s, none)) (q : Request) : Passes s (s.answer q).1 := by
  have hperform : ∀ a, Passes s (s.perform a).1 := by
    intro a
    cases a with
    | addSibling c parent after => exact passes_addNode hs c parent _
    | addChild c parent after => exact passes_addNode hs c parent after
    | addAttribute c element => exact passes_addAttribute hs c element
    | remove node => exact passes_removeNode hs node
    | removeAttribute node => exact passes_removeNode hs node
    | chooseAlternative c parent after replaced =>
      exact passes_chooseAlternative hs c parent after replaced
  have hjudge : ∀ u h, Passes s u → Passes s (u.validate h) :=
    fun u h hu => hu.trans (still_validate u h).passes
  cases q with
  | look h =>
    obtain ⟨os, heq⟩ := exists_offers s h
    show Passes s (s.offers h).1
    rw [heq]
    exact Still.passes (.of_workspace rfl rfl rfl rfl)
  | take o =>
    show Passes s (s.take o).1
    unfold take
    split
    · exact hperform _
    · exact .refl s
  | addNode c parent after => exact passes_addNode hs c parent after
  | addAttribute c element => exact passes_addAttribute hs c element
  | remove h => exact passes_removeNode hs h
  | choose c parent after replaced => exact passes_chooseAlternative hs c parent after replaced
  | setValue h value => exact passes_setValue hs h value
  | replace old source linked h => exact passes_replace hs linked old h
  | judge h deep => exact verdictOn_induction hjudge s h deep (.refl s)
  | revalidate => exact revalidate_induction hjudge s (passes_checkAllRules s)

/-! ## Runs -/

/-- What comes next in a run: a request is answered, somebody else tells the user something, or the
user takes the notices. -/
inductive Next : Session → Session → Prop
  | asked {s : Session} (q : Request) : Next s (s.answer q).1
  | notified {s : Session} (n : Notice) : n.violation = none → Next s (s.notify n)
  | noticed {s : Session} : Next s s.takeNotices.1

/-- A run leads from the first session to the second one. -/
def Later : Session → Session → Prop :=
  Relation.ReflTransGen Next

/-- The session is opened with these rules, of which nothing is known before. -/
inductive Begins (rs : List Rule) : Session → Prop
  | created {m : ContentModel} {settings : Settings} {s : Session} :
      create m (.ofRules rs) settings = .ok s → Begins rs s
  | loaded {xml : String} {modelOf : String → Except SchemaFault ContentModel}
      {settings : Settings} {s : Session} :
      load xml modelOf (.ofRules rs) settings = .ok s → Begins rs s

theorem Begins.poised {rs : List Rule} (hb : Begins rs s) : Poised (s, none) := by
  cases hb with
  | created hc => exact poised_create hc
  | loaded hl =>
    obtain ⟨d, m, hread, ho⟩ := load_eq_ok hl
    exact poised_ofDocument (Document.orderly_of_read hread) ho

/-- What comes next comes in moments. -/
theorem Next.passes (hn : Next s s') (hs : Poised (s, none)) :
    Passes s s' ∧ Poised (s', none) := by
  cases hn with
  | asked q =>
    have hm : Moves False True (s, none) ((s.answer q).1, none) :=
      moves_answer hs q not_false.elim fun _ _ _ => trivial
    exact ⟨passes_answer hs q, hm.poised hs⟩
  | notified n hn => exact ⟨fun _ => ⟨[_], .turn (.told n hn) (.here _)⟩, hs.sane, hs.hand⟩
  | noticed => exact ⟨Still.passes (.of_workspace rfl rfl rfl rfl), hs.sane, hs.hand⟩

/-- What is later has passed by turns. -/
theorem Later.passes (hl : Later s s') (hs : Poised (s, none)) :
    Passes s s' ∧ Poised (s', none) := by
  induction hl with
  | refl => exact ⟨.refl s, hs⟩
  | tail _ hn ih =>
    obtain ⟨hpasses, hposed⟩ := hn.passes ih.2
    exact ⟨ih.1.trans hpasses, hposed⟩

/-- Nothing is known of rules that are in force. -/
structure Unheard (rs : List Rule) (s : Session) : Prop where
  rules : s.rules = .ofRules rs
  notices : s.notices = []
  recorded : ∀ r, s.workspace.recorded.contains r = false
  relevant : ∀ h, s.workspace.rulesOf h = []

theorem Unheard.noted {rs : List Rule} (hu : Unheard rs s) : s.Noted := by
  refine ⟨hu.rules ▸ RuleBook.named_ofRules rs, fun h => ?_⟩
  rw [hu.relevant]
  exact List.nodup_nil

theorem Unheard.numbered {rs : List Rule} (hu : Unheard rs s) : s.Numbered := by
  intro n hn
  rw [hu.notices] at hn
  simp at hn

/-- Once all rules are checked, the user was told what there is to tell of each. -/
theorem Unheard.heard {rs : List Rule} (hu : Unheard rs s) (hr : r ∈ rs.map Rule.id) :
    s.checkAllRules.Heard r := by
  obtain ⟨rule, he⟩ := RuleBook.exists_get?_ofRules hr
  rw [← hu.rules] at he
  have hquiet : s.isQuietAbout r = true := by
    rw [isQuietAbout, hu.recorded]
    rfl
  have htold : s.Told r { rule := rule } := by
    refine ⟨he, fun _ => rfl, fun hloud => ?_⟩
    rw [hquiet] at hloud
    simp at hloud
  have hstate : s.rules.state? r = some (rule, false) := by
    rw [RuleBook.state?, he, Option.map_some]
  exact told_checkRules_of_mem hu.noted.named.nodup_ids (RuleBook.mem_ids_of_state? hstate)
    hu.numbered htold

/-- A rule is unheard of as long as nothing moves. -/
theorem Unheard.still {rs : List Rule} (hu : Unheard rs s) (hs : Still s s') : Unheard rs s' where
  rules := hs.rules.trans hu.rules
  notices := hs.notices.trans hu.notices
  recorded := fun r => (hs.recorded r).trans (hu.recorded r)
  relevant := fun h => (hs.relevant h).elim (·.trans (hu.relevant h)) id

/-- A session begins with a check of all rules, of which nothing is known before. -/
theorem Begins.exists_unheard {rs : List Rule} (hb : Begins rs s) :
    ∃ u, Unheard rs u ∧ s = u.checkAllRules := by
  have hstart : ∀ (d : Document) (m : ContentModel) (settings : Settings),
      Unheard rs (start d m (.ofRules rs) settings) :=
    fun _ _ _ => ⟨rfl, rfl, fun _ => rfl, fun _ => rfl⟩
  cases hb with
  | @created m settings _ hc =>
    obtain ⟨t, h, d, hcreate, -, rfl⟩ := create_eq_begin hc
    have hmade := (hstart _ m settings).still
      (still_made (poised_start Document.orderly_empty) hcreate)
    refine ⟨_, ?_, rfl⟩
    exact hmade.still (.of_workspace rfl rfl rfl rfl)
  | @loaded _ _ settings _ hl =>
    obtain ⟨d, m, hread, ho⟩ := load_eq_ok hl
    obtain ⟨root, w, -, hbind, rfl⟩ := ofDocument_eq_begin ho
    have hbuilt := Workspace.builds_bind (w := (start d m (.ofRules rs) settings).workspace)
      (n := 0) (h := root) (Document.orderly_of_read hread) (Nat.zero_le _) (fun _ _ => rfl)
      ContentModel.root
    rw [hbind] at hbuilt
    have hbound := (hstart d m settings).still (still_built hbuilt)
    refine ⟨_, ?_, rfl⟩
    exact hbound.still (.of_workspace rfl rfl rfl rfl)

/-- In every session of a run, no notice about a rule is open while the rule is satisfied, and the
latest one alone while it is not. All notices stay, and stay resolved, in what comes later, which
comes in moments; and from one notice about the rule to the next there is always a moment in which
it is satisfied. -/
theorem notices_follow_rule {rs : List Rule} (hb : Begins rs s) (hl : Later s s')
    (hr : r ∈ rs.map Rule.id) :
    (s'.rules.isSatisfied r = true → ∀ n ∈ s'.noticesAbout r, n.isResolved s'.rules = true) ∧
    (s'.rules.isSatisfied r = false → ∃ earlier latest, s'.noticesAbout r = earlier ++ [latest] ∧
      latest.isResolved s'.rules = false ∧ ∀ n ∈ earlier, n.isResolved s'.rules = true) ∧
    (∀ s'', Later s' s'' → s'.noticesAbout r <+: s''.noticesAbout r ∧
      (∀ n ∈ s'.noticesAbout r, n.isResolved s'.rules = true → n.isResolved s''.rules = true) ∧
      ∃ us, Course s' us s'') ∧
    ∀ us u vs v, Course s' us u → Course u vs v →
      (u.noticesAbout r).length < (v.noticesAbout r).length →
      ∃ x ∈ u :: vs, x.rules.isSatisfied r = true ∧ x.noticesAbout r = u.noticesAbout r := by
  obtain ⟨hpasses, hposed⟩ := hl.passes hb.poised
  obtain ⟨s₀, hunheard, rfl⟩ := hb.exists_unheard
  have hnoted : s₀.checkAllRules.Noted := noted_checkRules hunheard.noted _
  have hnumbered : s₀.checkAllRules.Numbered := (onward_checkRules _ _).numbered hunheard.numbered
  obtain ⟨us, hcourse⟩ := hpasses hnoted
  have hnumbered' : s'.Numbered := hcourse.onward.numbered hnumbered
  have hheard' : s'.Heard r := hcourse.heard hnumbered (hunheard.heard hr)
  obtain ⟨e, htold⟩ := hheard'.2
  obtain ⟨hsatisfied, hviolated⟩ := htold.isResolved hheard'.1
  refine ⟨hsatisfied, hviolated, fun s'' hlater => ?_, fun us u vs v hu hv hmore => ?_⟩
  · obtain ⟨vs, hcourse'⟩ := (hlater.passes hposed).1 (hcourse.noted hnoted)
    have honward := hcourse'.onward
    exact ⟨honward.notices.filter _, fun n hn =>
      honward.isResolved hnumbered' (List.mem_of_mem_filter hn), vs, hcourse'⟩
  · exact hv.exists_satisfied (hu.onward.numbered hnumbered') (hu.heard hnumbered' hheard') hmore

/-- Once a value is set, a rule in force is satisfied exactly if it holds of the new document. -/
theorem isSatisfied_setValue {r : Rule} {b : Bool} {value : String} (hs : Poised (s, none))
    (hf : s.Follows r) (hforce : s.rules.state? r.id = some (r, b))
    (hdone : (s.setValue h value).2.isOk = true) :
    ∃ d, s.document.setValue h value = .ok d ∧
      (s.setValue h value).1.rules.isSatisfied r.id = r.holds d := by
  have hfollows := follows_setValue hs hf h value
  obtain ⟨fault, heq⟩ | ⟨c, d, u, -, hd, hu, heq⟩ := setValue_eq hs h value
  · rw [heq] at hdone
    cases hdone
  · rw [rewritten_eq] at hu
    have hrules : u.rules = s.rules := by rw [hu]
    have hdoc : u.document = d := by rw [hu]
    obtain ⟨b', hb'⟩ : ∃ b', (u.checkRules (u.workspace.rulesOf h)).rules.state? r.id =
        some (r, b') := by
      rw [state?_checkRules, hrules, hforce]
      split_ifs
      · exact ⟨_, rfl⟩
      · exact ⟨_, rfl⟩
    rw [heq] at hfollows ⊢
    have hjudged := still_validate (u.checkRules (u.workspace.rulesOf h)) h
    have hstate := hb'
    rw [← hjudged.rules] at hstate
    refine ⟨d, hd, (RuleBook.isSatisfied_of_state? hstate).trans ?_⟩
    rw [(hfollows b' hstate).1, (judges_validate _ _).document, (judges_checkRules _ _).document,
      hdoc]

/-- The scan once its second block says that it is slow. -/
def slowed : Session :=
  (scanned.answer (.setValue ⟨4⟩ "slow")).1

/-- A slow block violates the rule. -/
theorem isSatisfied_slowed : slowed.rules.isSatisfied fastRule.id = false := by
  have hposed : Poised (scanned, none) := (Begins.loaded load_scanned).poised
  have hfollows : scanned.Follows fastRule := (Minded.loaded load_scanned).follows
  have hdone : (scanned.setValue ⟨4⟩ "slow").2.isOk = true := by
    decide +kernel
  have hforce : scanned.rules.state? fastRule.id = some (fastRule, true) := by
    decide +kernel
  have hread : (scanned.document.setValue ⟨4⟩ "slow").toOption.bind
      (fastRule.values · "TR") = some "slow" := by
    decide +kernel
  obtain ⟨d, hd, hsatisfied⟩ := isSatisfied_setValue hposed hfollows hforce hdone
  obtain ⟨d', hd', hvalue⟩ := Option.bind_eq_some_iff.mp hread
  rw [hd] at hd'
  obtain rfl : d = d' := Option.some.inj hd'
  have hviolated : fastRule.holds d = false := by
    rw [holds_fastRule hvalue]
    decide
  have hanswer : ∀ (s : Session) (h : Handle) (value : String),
      (s.answer (.setValue h value)).1 = (s.setValue h value).1 := fun _ _ _ => rfl
  rw [slowed, hanswer]
  exact hsatisfied.trans hviolated

/-- The user knows that a slow block violates the rule. -/
theorem notice_open_slowed :
    slowed.rules.isSatisfied fastRule.id = false ∧ ∃ earlier latest,
      slowed.noticesAbout fastRule.id = earlier ++ [latest] ∧
        latest.isResolved slowed.rules = false ∧
          ∀ n ∈ earlier, n.isResolved slowed.rules = true := by
  have hbegins : Begins [fastRule] scanned := .loaded load_scanned
  have hlater : Later scanned slowed := .single (.asked (.setValue ⟨4⟩ "slow"))
  have hrule : fastRule.id ∈ [fastRule].map Rule.id := List.mem_singleton.mpr rfl
  obtain ⟨-, hopen, -⟩ := notices_follow_rule hbegins hlater hrule
  exact ⟨isSatisfied_slowed, hopen isSatisfied_slowed⟩

end Session

end GuidedXml
