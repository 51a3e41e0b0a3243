/-
# What is known of nodes

A workspace mentions a node if it knows its constraint, offers for it, its revision, a verdict on it
or rules about it, or if a rule has led to it.

The main statements say that only live nodes are mentioned, while rules are evaluated, offers are
given up and nodes are forgotten, and that nothing mentions a forgotten node.
-/
import GuidedXml.Proofs.Document.Attachment
import GuidedXml.Proofs.Editing.Claiming

namespace GuidedXml

open Schema (ConstraintId)

/-! ## Nodes that rules lead to -/

/-- A path leads to live nodes alone. -/
theorem Path.contains_of_mem_select {d : Document} (hd : d.Linked) {p : Path} {k : Handle}
    (hk : k ∈ p.select d) : d.contains k = true := by
  have hsteps : ∀ (steps : List Path.Step) (hs : List Handle), (∀ h ∈ hs, d.contains h = true) →
      ∀ h ∈ steps.foldl (fun hs s => hs.flatMap (s.select d)) hs, d.contains h = true := by
    intro steps
    induction steps with
    | nil => exact fun hs hhs => hhs
    | cons step steps ih =>
      intro hs _
      refine ih _ ?_
      intro h hh
      obtain ⟨x, -, hx⟩ := List.mem_flatMap.mp hh
      exact Document.contains_of_isElement (Document.mem_elements.mp (Step.mem_select hx).1).2
  have hall := hsteps p.steps [Document.top] (by simpa using hd.contains_top)
  unfold select at hk
  dsimp only at hk
  cases he : p.ending with
  | none =>
    rw [he] at hk
    exact hall k hk
  | some name =>
    rw [he] at hk
    obtain ⟨h, -, ha⟩ := List.mem_filterMap.mp hk
    have hmem := (Document.mem_of_attribute?_eq_some ha).1
    exact hd.contains_of_mem (Document.mem_inside.mpr (Or.inl hmem))

/-- The nodes that a rule leads to live. -/
theorem Rule.contains_of_mem_nodes {d : Document} (hd : d.Linked) {rule : Rule} {k : Handle}
    (hk : k ∈ rule.nodes d) : d.contains k = true := by
  unfold nodes at hk
  rw [List.mem_eraseDups] at hk
  obtain ⟨p, -, hp⟩ := List.mem_filterMap.mp hk
  unfold Parameter.resolve? at hp
  cases hpath : p.path with
  | error fault => rw [hpath] at hp; simp at hp
  | ok path =>
    rw [hpath] at hp
    simp only [Option.map_map, Option.map_eq_some_iff, Function.comp] at hp
    obtain ⟨x, hx, rfl⟩ := hp
    exact Path.contains_of_mem_select hd (List.mem_of_mem_head? hx)

/-! ## Mentioned nodes -/

namespace Workspace

variable {w w' : Workspace} {d d' : Document} {h k : Handle} {r : RuleId}

/-- Something is known of the node. -/
inductive Mentions (w : Workspace) (k : Handle) : Prop
  | binding {c : ConstraintId} : w.binding? k = some c → Mentions w k
  | offers {os : List Offer} : w.offers.get? k = some os → Mentions w k
  | verdict {v : Verdict} : w.verdicts.get? k = some v → Mentions w k
  | relevance {rs : List RuleId} : w.relevant.get? k = some rs → Mentions w k
  | revision {n : Nat} : w.revisions.get? k = some n → Mentions w k
  | recorded {r : RuleId} : k ∈ w.recorded.getD r [] → Mentions w k

/-- What is shown in the outline is not what is known of the nodes. -/
theorem mentions_outline {o : Outline} (hm : Mentions { w with outline := o } k) :
    w.Mentions k := by
  cases hm with
  | binding hk => exact .binding hk
  | offers hk => exact .offers hk
  | verdict hk => exact .verdict hk
  | relevance hk => exact .relevance hk
  | revision hk => exact .revision hk
  | recorded hk => exact .recorded hk

/-- Only live nodes are mentioned. A node that a rule has led to knows of the rule, and offers are
kept for bound nodes alone. -/
structure Traced (w : Workspace) (d : Document) : Prop where
  contains : ∀ {k}, w.Mentions k → d.contains k = true
  mem_rulesOf : ∀ {r k}, k ∈ w.recorded.getD r [] → r ∈ w.rulesOf k
  bound : ∀ {h os}, w.offers.get? h = some os → ∃ c, w.binding? h = some c

/-- Nothing is known of a node that is not live. -/
theorem Traced.unknown (ht : Traced w d) (hk : d.contains k = false) :
    w.bindings.get? k = none ∧ w.offers.get? k = none ∧ w.verdicts.get? k = none ∧
      w.relevant.get? k = none ∧ w.revisions.get? k = none := by
  have hnot : ¬ w.Mentions k := by
    intro hm
    rw [ht.contains hm] at hk
    simp at hk
  refine ⟨?_, ?_, ?_, ?_, ?_⟩ <;> rw [Option.eq_none_iff_forall_ne_some] <;> intro x hx
  · exact hnot (.binding hx)
  · exact hnot (.offers hx)
  · exact hnot (.verdict hx)
  · exact hnot (.relevance hx)
  · exact hnot (.revision hx)

/-- Other nodes may be bound, and more nodes may come. -/
theorem Traced.change (ht : Traced w d)
    (hw : w' = { w with bindings := w'.bindings, claims := w'.claims, outline := w'.outline })
    (hb : ∀ k, d.contains k = true → w'.binding? k = w.binding? k) (hs : Sound (w', d'))
    (hc : ∀ k, d.contains k = true → d'.contains k = true) : Traced w' d' where
  contains := by
    intro k hm
    cases hm with
    | binding hk => exact hs.contains_of_bound hk
    | offers hk => rw [hw] at hk; exact hc k (ht.contains (.offers hk))
    | verdict hk => rw [hw] at hk; exact hc k (ht.contains (.verdict hk))
    | relevance hk => rw [hw] at hk; exact hc k (ht.contains (.relevance hk))
    | revision hk => rw [hw] at hk; exact hc k (ht.contains (.revision hk))
    | recorded hk => rw [hw] at hk; exact hc k (ht.contains (.recorded hk))
  mem_rulesOf := by
    intro r k hk
    rw [hw] at hk ⊢
    exact ht.mem_rulesOf hk
  bound := by
    intro k os hk
    rw [hw] at hk
    obtain ⟨c, hbound⟩ := ht.bound hk
    exact ⟨c, (hb k (ht.contains (.offers hk))).trans hbound⟩

/-! ## Recording -/

/-- What judging has found out is about live nodes. -/
structure FindingsLive (w : Workspace) (d : Document) : Prop where
  verdicts : ∀ {k v}, w.verdicts.get? k = some v → d.contains k = true
  relevant : ∀ {k rs}, w.relevant.get? k = some rs → d.contains k = true

/-- Changing the entry of a node that lives leaves a table of nodes that live. -/
theorem contains_of_get?_modify {α : Type} {t : Table Handle α} {f : α → α} {a : α}
    (ht : ∀ {k a}, t.get? k = some a → d.contains k = true) (hk : (t.modify h f).get? k = some a) :
    d.contains k = true := by
  rw [Table.get?_modify] at hk
  split_ifs at hk
  · obtain ⟨a', ha', -⟩ := Option.map_eq_some_iff.mp hk
    exact ht ha'
  · exact ht hk

/-- What is found is about live nodes when a rule is no longer relevant to one. -/
theorem FindingsLive.dropRelevance (hf : FindingsLive w d) (hh : d.contains h = true) :
    FindingsLive (w.dropRelevance r h) d where
  verdicts := fun hk => contains_of_get?_modify hf.verdicts hk
  relevant := by
    intro k rs hk
    replace hk : (w.relevant.putList h _).get? k = some rs := hk
    rw [Table.get?_putList] at hk
    split_ifs at hk with hkh
    · rwa [hkh]
    · exact hf.relevant hk

/-- What is found is about live nodes when a rule becomes relevant to one. -/
theorem FindingsLive.addRelevance (hf : FindingsLive w d) (hh : d.contains h = true) :
    FindingsLive (w.addRelevance r h) d where
  verdicts := fun hk => contains_of_get?_modify hf.verdicts hk
  relevant := by
    intro k rs hk
    replace hk : (w.relevant.insert h _).get? k = some rs := hk
    rw [Table.get?_insert] at hk
    split_ifs at hk with hkh
    · rwa [hkh]
    · exact hf.relevant hk

/-- What is found out by steps about live nodes is about live nodes. -/
theorem FindingsLive.foldl (hf : FindingsLive w d) {f : Workspace → Handle → Workspace}
    {hs : List Handle} (hhs : ∀ h ∈ hs, d.contains h = true)
    (hstep : ∀ {w h}, FindingsLive w d → d.contains h = true → FindingsLive (f w h) d) :
    FindingsLive (hs.foldl f w) d := by
  induction hs generalizing w with
  | nil => exact hf
  | cons h hs ih =>
    exact ih (hstep hf (hhs h (List.mem_cons_self ..))) fun x hx =>
      hhs x (List.mem_cons_of_mem _ hx)

/-- Dropping a rule from nodes takes it from these alone. -/
theorem mem_rulesOf_foldl_dropRelevance (hs : List Handle) (w : Workspace) (r' : RuleId)
    (k : Handle) : r' ∈ (hs.foldl (fun w h => w.dropRelevance r h) w).rulesOf k ↔
      r' ∈ w.rulesOf k ∧ ¬ (r' = r ∧ k ∈ hs) := by
  induction hs generalizing w with
  | nil => simp
  | cons h hs ih =>
    rw [List.foldl_cons, ih, rulesOf_dropRelevance]
    by_cases hkh : k = h
    · subst hkh
      rw [if_pos rfl, List.mem_filter, decide_eq_true_eq]
      simp only [List.mem_cons_self, and_true]
      tauto
    · rw [if_neg hkh]
      simp [hkh]

/-- Adding a rule to nodes adds it to these alone. -/
theorem mem_rulesOf_foldl_addRelevance (hs : List Handle) (w : Workspace) (r' : RuleId)
    (k : Handle) : r' ∈ (hs.foldl (fun w h => w.addRelevance r h) w).rulesOf k ↔
      r' ∈ w.rulesOf k ∨ (r' = r ∧ k ∈ hs) := by
  induction hs generalizing w with
  | nil => simp
  | cons h hs ih =>
    rw [List.foldl_cons, ih, rulesOf_addRelevance]
    by_cases hkh : k = h
    · subst hkh
      rw [if_pos rfl, mem_appendRule]
      simp only [List.mem_cons_self, and_true]
      tauto
    · rw [if_neg hkh]
      simp [hkh]

/-- Once the nodes of a rule are recorded, the rule is about these nodes and about those that lost
sight of it before, and other rules are about what they were about. -/
theorem mem_rulesOf_recordRule (w : Workspace) (r : RuleId) (nodes : List Handle) (r' : RuleId)
    (k : Handle) : r' ∈ (w.recordRule r nodes).rulesOf k ↔
      (r' = r ∧ k ∈ nodes) ∨
        r' ∈ w.rulesOf k ∧ ¬ (r' = r ∧ k ∈ w.recorded.getD r [] ∧ k ∉ nodes) := by
  have hadded := mem_rulesOf_foldl_addRelevance (r := r) nodes.eraseDups
    (((w.recorded.getD r []).filter fun h => !nodes.eraseDups.contains h).foldl
      (fun w h => w.dropRelevance r h) w) r' k
  rw [mem_rulesOf_foldl_dropRelevance, List.mem_eraseDups, List.mem_filter] at hadded
  refine hadded.trans ?_
  rw [Bool.not_eq_true', ← Bool.not_eq_true, List.contains_iff_mem, List.mem_eraseDups]
  exact or_comm

/-- For the rule the nodes that it has led to are recorded now. -/
theorem recorded_recordRule (w : Workspace) (r : RuleId) (nodes : List Handle) :
    (w.recordRule r nodes).recorded = w.recorded.insert r nodes.eraseDups := by
  have hsame : ∀ {f : Workspace → Handle → Workspace}, (∀ w h, (f w h).recorded = w.recorded) →
      ∀ (hs : List Handle) (w : Workspace), (hs.foldl f w).recorded = w.recorded := by
    intro f hf hs
    induction hs with
    | nil => exact fun _ => rfl
    | cons h hs ih =>
      intro w
      rw [List.foldl_cons, ih, hf]
  unfold Workspace.recordRule
  dsimp only
  rw [hsame (f := fun w h => w.addRelevance r h) fun _ _ => rfl,
    hsame (f := fun w h => w.dropRelevance r h) fun _ _ => rfl]

/-- Recording live nodes keeps everything known about live nodes. -/
theorem Traced.recordRule (ht : Traced w d) {nodes : List Handle}
    (hn : ∀ k ∈ nodes, d.contains k = true) : Traced (w.recordRule r nodes) d := by
  have hf : FindingsLive w d :=
    ⟨fun hk => ht.contains (.verdict hk), fun hk => ht.contains (.relevance hk)⟩
  have hled : ∀ k ∈ nodes.eraseDups, d.contains k = true := fun k hk =>
    hn k (List.mem_eraseDups.mp hk)
  have hleft : ∀ k ∈ (w.recorded.getD r []).filter fun h => !nodes.eraseDups.contains h,
      d.contains k = true := fun k hk => ht.contains (.recorded (List.mem_filter.mp hk).1)
  have hadded := (hf.foldl hleft fun hf hh => hf.dropRelevance (r := r) hh).foldl hled
    fun hf hh => hf.addRelevance (r := r) hh
  have heq := recordRule_eq w r nodes
  have hmem : ∀ r' k, k ∈ (w.recordRule r nodes).recorded.getD r' [] ↔
      if r' = r then k ∈ nodes.eraseDups else k ∈ w.recorded.getD r' [] := by
    intro r' k
    rw [recorded_recordRule, Table.getD, Table.get?_insert]
    split_ifs <;> rfl
  have hknows : ∀ r' k, k ∈ (w.recordRule r nodes).recorded.getD r' [] →
      r' ∈ (w.recordRule r nodes).rulesOf k := by
    intro r' k hk
    rw [hmem] at hk
    -- other rules are neither dropped nor added
    rw [mem_rulesOf_recordRule]
    split_ifs at hk with hr
    · exact Or.inl ⟨hr, List.mem_eraseDups.mp hk⟩
    · exact Or.inr ⟨ht.mem_rulesOf hk, fun hsame => hr hsame.1⟩
  refine ⟨?_, fun {r' k} => hknows r' k, ?_⟩
  · intro k hm
    cases hm with
    | binding hk => rw [heq] at hk; exact ht.contains (.binding hk)
    | offers hk => rw [heq] at hk; exact ht.contains (.offers hk)
    | verdict hk => exact hadded.verdicts hk
    | relevance hk => exact hadded.relevant hk
    | revision hk => rw [heq] at hk; exact ht.contains (.revision hk)
    | @recorded r' hk =>
      rw [hmem] at hk
      split_ifs at hk with hr
      · exact hled k hk
      · exact ht.contains (.recorded hk)
  · intro k os hk
    rw [heq] at hk ⊢
    exact ht.bound hk

/-! ## Giving up -/

/-- Giving up the offers for a live node leaves only live nodes mentioned. -/
theorem Traced.invalidateNode (ht : Traced w d) (hh : d.contains h = true) :
    Traced (w.invalidateNode h) d := by
  have hoffers : ∀ {k os}, (w.invalidateNode h).offers.get? k = some os →
      w.offers.get? k = some os := by
    intro k os hk
    replace hk := (Table.get?_erase w.offers h k).symm.trans hk
    split_ifs at hk
    exact hk
  refine ⟨?_, fun hk => ht.mem_rulesOf hk, fun hk => ht.bound (hoffers hk)⟩
  intro k hm
  cases hm with
  | binding hk => exact ht.contains (.binding hk)
  | offers hk => exact ht.contains (.offers (hoffers hk))
  | verdict hk => exact ht.contains (.verdict hk)
  | relevance hk => exact ht.contains (.relevance hk)
  | revision hk =>
    replace hk := (Table.get?_insert w.revisions h k _).symm.trans hk
    split_ifs at hk with hkh
    · rwa [hkh]
    · exact ht.contains (.revision hk)
  | recorded hk => exact ht.contains (.recorded hk)

/-- Giving up offers changes nothing but offers and revisions. -/
theorem invalidate_eq (w : Workspace) (d : Document) (p : Handle) :
    w.invalidate d p = { w with
      offers := (w.invalidate d p).offers
      revisions := (w.invalidate d p).revisions } := by
  unfold Workspace.invalidate
  generalize d.subtree p = hs
  induction hs generalizing w with
  | nil => rfl
  | cons h hs ih =>
    rw [List.foldl_cons, ih]
    rfl

/-- Only revisions of live nodes go up. -/
theorem Traced.invalidate (ht : Traced w d) (hd : d.Linked) (p : Handle) :
    Traced (w.invalidate d p) d := by
  have hall : ∀ k ∈ d.subtree p, d.contains k = true := fun k hk =>
    (Document.within_of_mem_subtreeAux hd hk).contains
  unfold Workspace.invalidate
  generalize d.subtree p = hs at hall
  induction hs generalizing w with
  | nil => exact ht
  | cons h hs ih =>
    exact ih (ht.invalidateNode (hall h (List.mem_cons_self ..)))
      fun x hx => hall x (List.mem_cons_of_mem _ hx)

/-! ## Forgetting -/

/-- Nodes that were forgotten are gone from a table that every forgotten node is erased from. -/
theorem get?_forgetNodes {α : Type} (part : Workspace → Table Handle α)
    (hpart : ∀ (w : Workspace) (h : Handle), part (w.forgetNode d h).1 = (part w).erase h)
    (hs : List Handle) (w : Workspace) (k : Handle) :
    (part (w.forgetNodes d hs).1).get? k = if k ∈ hs then none else (part w).get? k := by
  induction hs generalizing w with
  | nil => rfl
  | cons h hs ih =>
    show (part ((w.forgetNode d h).1.forgetNodes d hs).1).get? k = _
    rw [ih, hpart, Table.get?_erase]
    by_cases hk : k ∈ hs
    · simp [hk]
    · by_cases hkh : k = h <;> simp [hk, hkh]

/-- A forgotten node is taken from what is recorded for the rules about it. -/
theorem mem_recorded_forgetNode (w : Workspace) (d : Document) (h k : Handle) (r : RuleId) :
    k ∈ (w.forgetNode d h).1.recorded.getD r [] ↔
      k ∈ w.recorded.getD r [] ∧ ¬ (k = h ∧ r ∈ w.rulesOf h) := by
  have hfold : ∀ (rs : List RuleId) (t : Table RuleId (List Handle)),
      k ∈ (rs.foldl (fun t r => t.modify r fun hs => hs.filter (· ≠ h)) t).getD r [] ↔
        k ∈ t.getD r [] ∧ ¬ (k = h ∧ r ∈ rs) := by
    intro rs
    induction rs with
    | nil => simp
    | cons r' rs ih =>
      intro t
      rw [List.foldl_cons, ih]
      have hone : k ∈ (t.modify r' fun hs => hs.filter (· ≠ h)).getD r [] ↔
          k ∈ t.getD r [] ∧ ¬ (k = h ∧ r = r') := by
        rw [Table.getD, Table.get?_modify, Table.getD]
        by_cases hr : r = r'
        · subst hr
          rw [if_pos rfl]
          cases t.get? r <;> simp
        · simp [hr]
      rw [hone, List.mem_cons]
      tauto
  exact hfold _ _

/-- Forgetting a node leaves what was mentioned except for it. -/
theorem Traced.forgetNode (ht : Traced w d) (h : Handle) : Traced (w.forgetNode d h).1 d ∧
    ∀ k, (w.forgetNode d h).1.Mentions k → w.Mentions k ∧ k ≠ h := by
  have hmentions : ∀ k, (w.forgetNode d h).1.Mentions k → w.Mentions k ∧ k ≠ h := by
    intro k hm
    -- what is left in a table from which the node was erased
    have hleft : ∀ {α : Type} {t : Table Handle α} {a : α}, (t.erase h).get? k = some a →
        t.get? k = some a ∧ k ≠ h := by
      intro α t a hk
      rw [Table.get?_erase] at hk
      split_ifs at hk with hkh
      exact ⟨hk, hkh⟩
    cases hm with
    | binding hk => exact (hleft hk).imp_left .binding
    | offers hk => exact (hleft hk).imp_left .offers
    | verdict hk => exact (hleft hk).imp_left .verdict
    | relevance hk => exact (hleft hk).imp_left .relevance
    | revision hk => exact (hleft hk).imp_left .revision
    | recorded hk =>
      obtain ⟨hold, hnot⟩ := (mem_recorded_forgetNode w d h k _).mp hk
      refine ⟨.recorded hold, ?_⟩
      rintro rfl
      exact hnot ⟨rfl, ht.mem_rulesOf hold⟩
  refine ⟨⟨fun hm => ht.contains (hmentions _ hm).1, ?_, ?_⟩, hmentions⟩
  · intro r k hk
    have hkh := (hmentions k (.recorded hk)).2
    have hold := ((mem_recorded_forgetNode w d h k r).mp hk).1
    show r ∈ (w.relevant.erase h).getD k []
    rw [Table.getD, Table.get?_erase, if_neg hkh]
    exact ht.mem_rulesOf hold
  · intro k os hk
    replace hk := (Table.get?_erase w.offers h k).symm.trans hk
    split_ifs at hk with hkh
    obtain ⟨c, hc⟩ := ht.bound hk
    exact ⟨c, (binding?_forgetNode w d h k).trans ((if_neg hkh).trans hc)⟩

/-- Forgetting nodes leaves what was mentioned except for them. -/
theorem Traced.forgetNodes (ht : Traced w d) (hs : List Handle) :
    Traced (w.forgetNodes d hs).1 d ∧
      ∀ k, (w.forgetNodes d hs).1.Mentions k → w.Mentions k ∧ k ∉ hs := by
  induction hs generalizing w with
  | nil => exact ⟨ht, fun k hm => ⟨hm, by simp⟩⟩
  | cons h hs ih =>
    obtain ⟨hone, hmentions⟩ := ht.forgetNode h
    obtain ⟨hrest, hmentions'⟩ := ih hone
    refine ⟨hrest, ?_⟩
    intro k hm
    obtain ⟨hm', hkhs⟩ := hmentions' k hm
    obtain ⟨hm'', hkh⟩ := hmentions k hm'
    exact ⟨hm'', by simp [hkh, hkhs]⟩

/-- Nothing mentions a forgotten node, nor one that was not mentioned before. -/
theorem Traced.forget (ht : Traced w d) (hd : d.Forest) (h : Handle) :
    Traced (w.forget d h).1 d ∧
      ∀ k, (w.forget d h).1.Mentions k → w.Mentions k ∧ ¬ d.Within h k := by
  have hdetached : Traced { w with outline := w.outline.detach h } d :=
    ⟨fun hm => ht.contains (mentions_outline hm), ht.mem_rulesOf, ht.bound⟩
  obtain ⟨hgone, hmentions⟩ := hdetached.forgetNodes (d.subtree h)
  refine ⟨hgone, ?_⟩
  intro k hm
  obtain ⟨hm', hk⟩ := hmentions k hm
  exact ⟨mentions_outline hm', fun hw => hk (Document.mem_subtree_iff hd |>.mpr hw)⟩

/-- Once nothing below a node is mentioned, it can be discarded. -/
theorem Traced.pruned (ht : Traced w d) (hr : d.Pruned d' h)
    (hno : ∀ k, w.Mentions k → ¬ d.Within h k) : Traced w d' :=
  ⟨fun hm => hr.contains_iff.mpr ⟨ht.contains hm, hno _ hm⟩, ht.mem_rulesOf, ht.bound⟩

end Workspace

/-! ## Judging -/

namespace Session

variable {s s' : Session}

/-- A step of judging mentions live nodes alone. -/
theorem JudgeStep.traced (hj : JudgeStep s s') (hd : s.document.Linked)
    (ht : s.workspace.Traced s.document)
    (hb : ∀ h, s.workspace.isBound h = true → s.document.contains h = true) :
    s'.workspace.Traced s'.document := by
  cases hj with
  | tell => exact ht
  | note rule r diagnostics => exact ht.recordRule fun k hk => Rule.contains_of_mem_nodes hd hk
  | @find h v hbound =>
    refine ⟨?_, ht.mem_rulesOf, ht.bound⟩
    intro k hm
    cases hm with
    | binding hk => exact ht.contains (.binding hk)
    | offers hk => exact ht.contains (.offers hk)
    | verdict hk =>
      replace hk := (Table.get?_insert s.workspace.verdicts h k v).symm.trans hk
      split_ifs at hk with hkh
      · rw [hkh]
        exact hb h hbound
      · exact ht.contains (.verdict hk)
    | relevance hk => exact ht.contains (.relevance hk)
    | revision hk => exact ht.contains (.revision hk)
    | recorded hk => exact ht.contains (.recorded hk)

/-- Judging mentions live nodes alone. -/
theorem Judges.traced (hj : Judges s s') (hd : s.document.Linked)
    (ht : s.workspace.Traced s.document)
    (hb : ∀ h, s.workspace.isBound h = true → s.document.contains h = true) :
    s'.workspace.Traced s'.document := by
  induction hj with
  | refl => exact ht
  | @tail t t' hj hstep ih =>
    have hj' : Judges s t := hj
    refine hstep.traced (hj'.document ▸ hd) ih ?_
    intro h hbound
    rw [hj'.document]
    refine hb h ?_
    rw [hj'.workspace] at hbound
    exact hbound

end Session

end GuidedXml
