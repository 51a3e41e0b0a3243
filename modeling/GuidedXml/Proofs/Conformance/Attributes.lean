/-
# Attributes of guided sessions

While only what is offered is done, an attribute of an element that stays is added or removed only
if it comes and goes freely, and every new element has all attributes that come with it.

The main statements say this of every edit that can be offered and of every guided request.
-/
import GuidedXml.Proofs.Conformance.Guided
import GuidedXml.Proofs.Conformance.Kempt
import GuidedXml.Proofs.Conformance.Provision

namespace GuidedXml.Session

open Schema (ConstraintId ContentModel)
open Workspace (ComesAlong Carries Grows Provided Stage)

variable {strict : Prop} {s s' s'' : Session} {t : Stage} {d : Document} {a h k p new parent : Handle}
  {c : ConstraintId} {after : Option Handle} {seen seen' : List Offer} {r : Request}

/-! ## Edits that leave attributes alone -/

/-- The node is bound to an attribute constraint that comes and goes freely. -/
def ComesFreely (w : Workspace) (k : Handle) : Prop :=
  ∃ e, w.constraint? k = some e ∧ e.isFreeOptional = true

theorem ComesFreely.congr {w w' : Workspace} (hk : ComesFreely w k) (hm : w'.model = w.model)
    (hb : w'.binding? k = w.binding? k) : ComesFreely w' k := by
  obtain ⟨e, he, hfree⟩ := hk
  refine ⟨e, ?_, hfree⟩
  rw [Workspace.constraint?, hm, hb]
  exact he

theorem ComesFreely.not_comesAlong {w : Workspace} (hk : ComesFreely w k) {i : ConstraintId}
    {e : ContentModel.Entry} (hb : w.binding? k = some i) (he : w.model.get? i = some e) :
    e.comesAlong = false := by
  obtain ⟨e', he', hfree⟩ := hk
  rw [Workspace.constraint?, hb, Option.bind_some, he] at he'
  rw [← Option.some.inj he'] at hfree
  by_contra hcomes
  rw [Bool.not_eq_false] at hcomes
  rw [Schema.Constraint.isFreeOptional_of_comesAlong hcomes] at hfree
  simp at hfree

/-- From `s` to `s'` no attribute of an element that stays was added or removed, unless it comes and
goes freely. New attributes have a place if they come freely, and all others come along; if `strict`,
new elements have all that come along. Nowhere do two attributes of one name come together. -/
structure LeavesAlone (strict : Prop) (s s' : Session) : Prop where
  tidy : s'.Tidy
  keyed : s.document.Tidy → s'.document.Tidy
  model : s'.workspace.model = s.workspace.model
  size : s.document.slots.size ≤ s'.document.slots.size
  dead : ∀ k, k.index < s.document.slots.size → s'.document.contains k = true →
    s.document.contains k = true
  binding? : ∀ k, s.document.contains k = true → s'.document.contains k = true →
    s'.workspace.binding? k = s.workspace.binding? k
  kind? : ∀ k, s.document.contains k = true → s'.document.contains k = true →
    s'.document.kind? k = s.document.kind? k
  placed : ∀ k, s.document.contains k = true → s'.document.isAttribute k = true →
    s.document.parent? k ≠ none → s'.document.parent? k ≠ none
  kept : ∀ k a, s.document.contains k = true → s'.document.contains k = true →
    a ∈ s.document.attributes k → a ∈ s'.document.attributes k ∨ ComesFreely s.workspace a
  given : ∀ k a, s.document.contains k = true → a ∈ s'.document.attributes k →
    a ∈ s.document.attributes k ∨ ComesFreely s'.workspace a
  ofAttribute : ∀ k, s.document.contains k = false → s'.document.isAttribute k = true →
    ComesAlong s'.workspace k ∨ ComesFreely s'.workspace k ∧ s'.document.parent? k ≠ none
  element : strict → ∀ k, s.document.contains k = false → s'.document.isElement k = true →
    Carries s'.workspace s'.document k

theorem LeavesAlone.of_sameSeats (hsame : SameSeats s s') (ht : s'.Tidy) :
    LeavesAlone strict s s' where
  tidy := ht
  keyed := fun hs => hsame.document ▸ hs
  model := hsame.model
  size := Nat.le_of_eq (by rw [hsame.document])
  dead := fun _ _ hk => hsame.document ▸ hk
  binding? := fun k _ _ => hsame.binding? k
  kind? := fun _ _ _ => by rw [hsame.document]
  placed := fun _ _ _ hp => hsame.document ▸ hp
  kept := fun _ _ _ _ ha => Or.inl (hsame.document ▸ ha)
  given := fun _ _ _ ha => Or.inl (hsame.document ▸ ha)
  ofAttribute := by
    intro k hc hk
    rw [hsame.document] at hk
    rw [Workspace.contains_of_kinds (Or.inr hk)] at hc
    simp at hc
  element := by
    intro _ k hc hk
    rw [hsame.document] at hk
    rw [Document.contains_of_isElement hk] at hc
    simp at hc

theorem LeavesAlone.trans (hs : s.Tidy) (h₁ : LeavesAlone strict s s')
    (h₂ : LeavesAlone strict s' s'') : LeavesAlone strict s s'' := by
  -- a node that is in the first and the last session is in the one between them
  have hmid : ∀ k, s.document.contains k = true → s''.document.contains k = true →
      s'.document.contains k = true := fun k hk hk'' =>
    h₂.dead k (Nat.lt_of_lt_of_le (Document.index_lt_of_contains hk) h₁.size) hk''
  have hattr : ∀ k, s'.document.contains k = true → s''.document.isAttribute k = true →
      s'.document.isAttribute k = true := fun k hk hk'' => (Document.isAttribute_congr
        (h₂.kind? k hk (Workspace.contains_of_kinds (Or.inr hk'')))).symm.trans hk''
  refine ⟨h₂.tidy, h₂.keyed ∘ h₁.keyed, h₂.model.trans h₁.model, h₁.size.trans h₂.size, ?_, ?_, ?_,
    ?_, ?_, ?_, ?_, ?_⟩
  · exact fun k hk hk'' => h₁.dead k hk (h₂.dead k (Nat.lt_of_lt_of_le hk h₁.size) hk'')
  · exact fun k hk hk'' => (h₂.binding? k (hmid k hk hk'') hk'').trans
      (h₁.binding? k hk (hmid k hk hk''))
  · exact fun k hk hk'' => (h₂.kind? k (hmid k hk hk'') hk'').trans
      (h₁.kind? k hk (hmid k hk hk''))
  · intro k hk hk'' hp
    have hlive := hmid k hk (Workspace.contains_of_kinds (Or.inr hk''))
    exact h₂.placed k hlive hk'' (h₁.placed k hk (hattr k hlive hk'') hp)
  · intro k a hk hk'' ha
    have hlive := hmid k hk hk''
    rcases h₁.kept k a hk hlive ha with ha' | hfree
    · refine (h₂.kept k a hlive hk'' ha').imp_right fun hfree => ?_
      refine hfree.congr h₁.model.symm (h₁.binding? a ?_ ?_).symm
      · exact hs.linked.contains_of_mem (Document.mem_inside.mpr (Or.inl ha))
      · exact h₁.tidy.linked.contains_of_mem (Document.mem_inside.mpr (Or.inl ha'))
    · exact Or.inr hfree
  · intro k a hk ha
    have hlive := hmid k hk (Document.contains_of_mem_inside (Document.mem_inside.mpr (Or.inl ha)))
    rcases h₂.given k a hlive ha with ha' | hfree
    · refine (h₁.given k a hk ha').imp_right fun hfree => ?_
      refine hfree.congr h₂.model (h₂.binding? a ?_ ?_)
      · exact h₁.tidy.linked.contains_of_mem (Document.mem_inside.mpr (Or.inl ha'))
      · exact h₂.tidy.linked.contains_of_mem (Document.mem_inside.mpr (Or.inl ha))
    · exact Or.inr hfree
  · intro k hc hk
    cases hlive : s'.document.contains k with
    | false => exact h₂.ofAttribute k hlive hk
    | true =>
      have hsame := h₂.binding? k hlive (Workspace.contains_of_kinds (Or.inr hk))
      rcases h₁.ofAttribute k hc (hattr k hlive hk) with hcomes | ⟨hfree, hp⟩
      · exact Or.inl (hcomes.congr h₂.model hsame)
      · exact Or.inr ⟨hfree.congr h₂.model hsame, h₂.placed k hlive hk hp⟩
  · intro hst k hc hk
    cases hlive : s'.document.contains k with
    | false => exact h₂.element hst k hlive hk
    | true =>
      have hlive'' := Document.contains_of_isElement hk
      have hsame := h₂.binding? k hlive hlive''
      have hel := (Document.isElement_congr (h₂.kind? k hlive hlive'')).symm.trans hk
      intro c i e hb hi he hcomes
      rw [h₂.model] at hi he
      obtain ⟨a, ha, hba⟩ := h₁.element hst k hc hel c i e (hsame.symm.trans hb) hi he hcomes
      rcases h₂.kept k a hlive hlive'' ha with ha'' | hfree
      · refine ⟨a, ha'', (h₂.binding? a ?_ ?_).trans hba⟩
        · exact h₁.tidy.linked.contains_of_mem (Document.mem_inside.mpr (Or.inl ha))
        · exact h₂.tidy.linked.contains_of_mem (Document.mem_inside.mpr (Or.inl ha''))
      · rw [hfree.not_comesAlong hba he] at hcomes
        simp at hcomes

/-! ## Additions -/

/-- What was made gets its place at a node that was there before: an element with what comes along,
or an attribute that comes freely. -/
theorem leavesAlone_of_given (hg : Grows (s.workspace, s.document) t)
    (hattr : ∀ k, s.document.slots.size ≤ k.index → t.2.isAttribute k = true → k ≠ new →
      ComesAlong t.1 k)
    (hel : strict → ∀ k, s.document.slots.size ≤ k.index → t.2.isElement k = true →
      Carries t.1 t.2 k)
    (hfree : t.2.isAttribute new = true → ComesFreely t.1 new)
    (hr : t.2.Relinked d p none (some new)) (hunknown : s.document.slots.size ≤ new.index)
    (hp : s.document.contains p = true) (hsame : SameSeats (s.withStage (t.1, d)) s')
    (ht : s'.Tidy) (hkeyed : s.document.Tidy → d.Tidy) : LeavesAlone strict s s' := by
  have hdoc : s'.document = d := hsame.document
  have hbind : ∀ k, s'.workspace.binding? k = t.1.binding? k := hsame.binding?
  have hmodel : s'.workspace.model = t.1.model := hsame.model
  have hlookups := fun k (hk : s.document.contains k = true) => hg.document.lookups hk
  have hnew := fun k (hc : s.document.contains k = false) (hk : t.2.contains k = true) =>
    hg.document.le_index hc hk
  -- only the parent lists more attributes than before, and only the new one
  have hmem : ∀ k a, s.document.contains k = true → (a ∈ d.attributes k ↔
      (k = p ∧ new = a ∧ t.2.isAttribute a = true) ∨ a ∈ s.document.attributes k) := by
    intro k a hk
    rw [hr.mem_attributes_iff, (hlookups k hk).2.2.2.1]
    simp
  refine ⟨ht, fun hs => hdoc ▸ hkeyed hs, hmodel.trans hg.workspace.model, ?_, ?_, ?_, ?_, ?_, ?_, ?_,
    ?_, ?_⟩
  · rw [hdoc, hr.size]
    exact hg.document.size
  · intro k hk hc
    rwa [hdoc, Document.contains_congr (hr.kind? k), hg.document.contains_eq hk] at hc
  · intro k hk _
    have := Document.index_lt_of_contains hk
    exact (hbind k).trans (hg.workspace.binding? k (Nat.not_le.mpr this))
  · intro k hk _
    rw [hdoc, hr.kind?, (hlookups k hk).1]
  · intro k hk _ hpar
    rw [hdoc, hr.parent?]
    by_cases hkn : some new = some k
    · rw [if_pos hkn]
      exact Option.some_ne_none _
    · rwa [if_neg hkn, if_neg nofun, (hlookups k hk).2.2.1]
  · intro k a hk _ ha
    rw [hdoc, hmem k a hk]
    exact Or.inl (Or.inr ha)
  · intro k a hk ha
    rw [hdoc, hmem k a hk] at ha
    rcases ha with ⟨-, rfl, hat⟩ | ha
    · exact Or.inr ((hfree hat).congr hmodel (hbind _))
    · exact Or.inl ha
  · intro k hc hk
    rw [hdoc, Document.isAttribute_congr (hr.kind? k)] at hk
    by_cases hkn : k = new
    · subst hkn
      refine Or.inr ⟨(hfree hk).congr hmodel (hbind _), ?_⟩
      rw [hdoc, hr.parent?, if_pos rfl]
      exact Option.some_ne_none _
    · exact Or.inl ((hattr k (hnew k hc (Workspace.contains_of_kinds (Or.inr hk))) hk hkn).congr
        hmodel (hbind k))
  · intro hst k hc hk
    rw [hdoc, Document.isElement_congr (hr.kind? k)] at hk
    have hkp : k ≠ p := by
      rintro rfl
      rw [hp] at hc
      simp at hc
    refine (hel hst k (hnew k hc (Document.contains_of_isElement hk)) hk).congr hmodel (hbind k)
      fun a ha => ⟨?_, hbind a⟩
    rw [hdoc, hr.attributes k hkp]
    exact ha

theorem leavesAlone_addNode (hs : s.Tidy) (hm : s.workspace.model.Built)
    (hdist : strict → s.workspace.model.AttributesDistinct)
    (hp : s.document.isElement parent = true)
    (hafter : ∀ x, after = some x → x ∈ s.document.children parent) :
    LeavesAlone strict s (s.addNode c parent after).1 := by
  by_cases hk : s.workspace.model.kind? c = some .element
  · obtain ⟨e, he, hkind⟩ := exists_of_kind? hk
    obtain ⟨-, hraise, -⟩ := Workspace.create_of_element hs.sound he hkind
    have hprovided := Workspace.provided_create hm hdist hs.sound (c := c)
      (by rw [hk]; exact nofun)
    have hdrift := drifts_addNode hs c parent after
    obtain ⟨d, s', hd, hadd, hsame⟩ := exists_addNode hs hk hp hafter
    obtain ⟨hr, -⟩ := Document.relinked_insertAfter hraise.sound.orderly.toLinked hd
    rw [hadd] at hdrift ⊢
    refine leavesAlone_of_given hprovided.grows (fun k hn hat _ => hprovided.comesAlong k hn hat)
      hprovided.carries (fun hat => ?_) hr (Nat.le_refl _) (Document.contains_of_isElement hp) hsame
      hdrift.tidy fun hkeyed => ((Workspace.builds_create hs.sound c).tidy hkeyed).insertAfter hd
    rw [Document.not_isAttribute_of_isElement hraise.isElement] at hat
    simp at hat
  · have hrefused : (s.addNode c parent after).1 = s := by simp [addNode, hk]
    rw [hrefused]
    exact .of_sameSeats ⟨rfl, rfl, rfl, fun _ => rfl⟩ hs

theorem leavesAlone_addAttribute (hs : s.Tidy) {e : ContentModel.Entry}
    (he : s.workspace.model.get? c = some e) (hfree : e.isFreeOptional = true)
    (hp : s.document.isElement parent = true)
    (hnone : s.document.attribute? parent (s.workspace.model.name c) = none) :
    LeavesAlone strict s (s.addAttribute c parent).1 := by
  have hkind : e.kind = .attribute := by
    unfold Schema.Constraint.isFreeOptional at hfree
    simp only [Bool.and_eq_true, decide_eq_true_eq] at hfree
    exact hfree.1.1
  have hk : s.workspace.model.kind? c = some .attribute := by
    rw [ContentModel.kind?, he, ← hkind]
    rfl
  obtain ⟨-, hg, hl, -⟩ := Workspace.create_of_attribute hs.sound he hkind
  have hone := fun k hn hc => Workspace.eq_next_of_create_attribute (w := s.workspace)
    (d := s.document) (k := k) hk hn hc
  have hdrift := drifts_addAttribute hs c parent
  obtain ⟨d, s', hd, hadd, hsame⟩ := exists_addAttribute hs hk hp hnone
  obtain ⟨hr, -⟩ := Document.relinked_placeAttribute hg.sound.orderly.toLinked hd
  rw [hadd] at hdrift ⊢
  refine leavesAlone_of_given hg (fun k hn hat hne => ?_) (fun _ k hn hel => ?_) (fun _ => ?_) hr
    (Nat.le_refl _) (Document.contains_of_isElement hp) hsame hdrift.tidy
    fun hkeyed => ((Workspace.builds_create hs.sound c).tidy hkeyed).placeAttribute hd
  · exact absurd (hone k hn (Workspace.contains_of_kinds (Or.inr hat))).1 hne
  · rw [(hone k hn (Document.contains_of_isElement hel)).2.2] at hel
    simp at hel
  · exact ⟨e, (hone _ (Nat.le_refl _) hl.contains).2.1.trans he, hfree⟩

/-! ## Removals -/

/-- A node inside an element may go if it is no attribute or one that goes freely. -/
theorem leavesAlone_removeNode (hs : s.Tidy) (hpe : s.parentElement? h = some parent)
    (hfree : s.document.isAttribute h = true → ComesFreely s.workspace h) :
    LeavesAlone strict s (s.removeNode h).1 := by
  obtain ⟨hp, -⟩ := parent?_of_parentElement? hpe
  obtain ⟨d, s', hdetach, hr, -, hrem, hpruned, hdrift⟩ := removeNode_of_parentElement hs hpe
  rw [hrem]
  have hkeyed : s.document.Tidy → s'.document.Tidy := fun hkeyed =>
    (hkeyed.detach hdetach).cut hpruned.cut (by rw [hr.parent?, if_neg nofun, if_pos rfl])
      hdrift.tidy.orderly.kind?_top
  have hout : ∀ k, s'.document.contains k = true → ¬ d.Within h k := fun k hk =>
    (hpruned.contains_iff.mp hk).2
  have hlookups := fun k (hk : s'.document.contains k = true) =>
    Document.lookups_congr (hpruned.kept k (hout k hk))
  have hold : ∀ k, s'.document.contains k = true → s.document.contains k = true := by
    intro k hk
    rw [← Document.contains_congr (hr.kind? k)]
    exact (hpruned.contains_iff.mp hk).1
  have hne : ∀ k, s'.document.contains k = true → k ≠ h := by
    rintro k hk rfl
    refine hout k hk (Document.Within.self ?_)
    exact (hpruned.contains_iff.mp hk).1
  have hmem : ∀ k a, s'.document.contains k = true →
      (a ∈ s'.document.attributes k ↔ a ∈ s.document.attributes k ∧ (k = parent → a ≠ h)) := by
    intro k a hk
    rw [(hlookups k hk).2.2.2.1, hr.mem_attributes_iff]
    simp [eq_comm (a := h)]
  -- nothing new comes up, so that the clauses about new nodes are empty
  have hgone : ∀ k, s.document.contains k = false → s'.document.contains k = true → False := by
    intro k hc hk
    rw [hold k hk] at hc
    simp at hc
  refine ⟨hdrift.tidy, hkeyed, hdrift.model, hdrift.size, hdrift.dead, hdrift.binding?, ?_, ?_, ?_,
    ?_, ?_, ?_⟩
  · intro k _ hk
    exact (hlookups k hk).1.trans (hr.kind? k)
  · intro k _ hk hpar
    have hlive := Workspace.contains_of_kinds (Or.inr hk)
    rw [(hlookups k hlive).2.2.1, hr.parent?, if_neg nofun, if_neg]
    · exact hpar
    · exact fun heq => hne k hlive (Option.some.inj heq).symm
  · intro k a _ hk ha
    rw [hmem k a hk]
    by_cases hah : a = h
    · subst hah
      exact Or.inr (hfree (hs.linked.kinds_of_attribute ha).1)
    · exact Or.inl ⟨ha, fun _ => hah⟩
  · intro k a _ ha
    have hk := Document.contains_of_mem_inside (Document.mem_inside.mpr (Or.inl ha))
    exact Or.inl ((hmem k a hk).mp ha).1
  · exact fun k hc hk => (hgone k hc (Workspace.contains_of_kinds (Or.inr hk))).elim
  · exact fun _ k hc hk => (hgone k hc (Document.contains_of_isElement hk)).elim

/-! ## Alternatives -/

theorem leavesAlone_chooseAlternative (hs : s.Tidy) (hm : s.workspace.model.Built)
    (hdist : strict → s.workspace.model.AttributesDistinct)
    (he : s.document.isElement h = true) (hpe : s.parentElement? h = some parent) :
    LeavesAlone strict s
      (s.chooseAlternative c parent (s.document.previousSibling? h) h).1 := by
  by_cases hk : s.workspace.model.kind? c = some .element
  · obtain ⟨hp, hep⟩ := parent?_of_parentElement? hpe
    have hdrift := drifts_chooseAlternative hs c parent (s.document.previousSibling? h) h
    have hadded : LeavesAlone strict s
        (s.addNode c parent (s.document.previousSibling? h)).1 :=
      leavesAlone_addNode hs hm hdist hep fun x hx =>
        mem_children_of_previousSibling? hp hx
    obtain ⟨s₁, s₂, hadd, hpe₁, he₁, hrem, hchoose⟩ := exists_chooseAlternative hs hk he hpe
    rw [hadd] at hadded
    have hremoved : LeavesAlone strict s₁ (s₁.removeNode h).1 := by
      refine leavesAlone_removeNode hadded.tidy hpe₁ fun hat => ?_
      rw [Document.not_isAttribute_of_isElement he₁] at hat
      simp at hat
    rw [hrem] at hremoved
    rw [hchoose] at hdrift ⊢
    exact (hadded.trans hs hremoved).trans hs
      (.of_sameSeats (sameSeats_invalidate s₂ parent) hdrift.tidy)
  · -- there is no way to add what is no element
    have hadd : s.addNode c parent (s.document.previousSibling? h) =
        (s, .error (s.unsupported c)) := by simp [addNode, hk]
    have hrefused : (s.chooseAlternative c parent (s.document.previousSibling? h) h).1 = s := by
      rw [chooseAlternative, hadd]
    rw [hrefused]
    exact .of_sameSeats ⟨rfl, rfl, rfl, fun _ => rfl⟩ hs

/-! ## Values -/

/-- A value may come with a text; no element or attribute comes or goes. -/
theorem leavesAlone_setValue (hs : s.Tidy) (hsane : Workspace.Sane (s.workspace, s.document))
    (h : Handle) (value : String) : LeavesAlone strict s (s.setValue h value).1 := by
  have hdrift := drifts_setValue hs h value
  rcases setValue_cases hsane h value with ⟨fault, hfault⟩ | ⟨s', hok, hset⟩
  · rw [hfault]
    exact .of_sameSeats ⟨rfl, rfl, rfl, fun _ => rfl⟩ hs
  rw [hok] at hdrift ⊢
  have hstays := fun k (hk : s'.document.contains k = true) =>
    Document.stays_or_isText_of_setValue hs.orderly hset.document hk
  have hattrs := fun k (hk : s.document.contains k = true) =>
    Document.attributes_setValue hset.document hk
  have hold : ∀ k, s'.document.isElement k = true ∨ s'.document.isAttribute k = true →
      s.document.contains k = true ∧ s'.document.parent? k = s.document.parent? k := by
    intro k hk
    rcases hstays k (Workspace.contains_of_kinds hk) with ⟨hc, -, -, hp⟩ | ⟨-, htext, -⟩
    · exact ⟨hc, hp⟩
    · simp only [Document.isText, Document.isElement, Document.isAttribute,
        decide_eq_true_eq] at htext hk
      rw [htext] at hk
      simp at hk
  have hgone : ∀ k, s.document.contains k = false →
      s'.document.isElement k = true ∨ s'.document.isAttribute k = true → False := by
    intro k hc hk
    rw [(hold k hk).1] at hc
    simp at hc
  refine ⟨hdrift.tidy, fun hkeyed => hkeyed.setValue hset.document, hdrift.model, hdrift.size,
    hdrift.dead, hdrift.binding?, ?_, ?_, ?_, ?_, ?_, ?_⟩
  · exact fun k hk _ => (Document.kind?_of_setValue hs.orderly hset.document).2 k
      (Document.index_lt_of_contains hk)
  · intro k _ hk hp
    rw [(hold k (Or.inr hk)).2]
    exact hp
  · exact fun k a hk _ ha => Or.inl (by rw [hattrs k hk]; exact ha)
  · exact fun k a hk ha => Or.inl (by rw [hattrs k hk] at ha; exact ha)
  · exact fun k hc hk => (hgone k hc (Or.inr hk)).elim
  · exact fun _ k hc hk => (hgone k hc (Or.inl hk)).elim

/-! ## Requests -/

section Requests

variable (hs : s.Tidy) (hm : s.workspace.model.Built)
  (hdist : strict → s.workspace.model.AttributesDistinct)

include hs hm hdist

/-- What is offered for a node leaves attributes alone. -/
theorem leavesAlone_perform {action : Action} (hb : s.workspace.binding? h = some c)
    (ho : s.Offered h c action) (hleaves : LeavesAttributes s.workspace.model c action) :
    LeavesAlone strict s (s.perform action).1 := by
  cases ho with
  | addSibling he hpe _ =>
    refine leavesAlone_addNode hs hm hdist (parent?_of_parentElement? hpe).2 ?_
    rintro x ⟨⟩
    exact Document.mem_elements.mp (mem_elements_of_parentElement? hs he hpe).1 |>.1
  | addChild he _ _ =>
    refine leavesAlone_addNode hs hm hdist he fun x hx => ?_
    exact (Document.mem_elements.mp (List.mem_filter.mp (List.mem_of_getLast? hx)).1).1
  | addAttribute he _ hnone =>
    obtain ⟨e, hget, hfree⟩ := hleaves
    exact leavesAlone_addAttribute hs hget hfree he hnone
  | remove he hpe _ =>
    refine leavesAlone_removeNode hs hpe fun ha => ?_
    rw [Document.not_isAttribute_of_isElement he] at ha
    simp at ha
  | removeAttribute ha =>
    cases hpe : s.parentElement? h with
    | none =>
      have hrefused : (s.removeNode h).1 = s := by
        unfold removeNode
        rw [hpe]
        split <;> rfl
      show LeavesAlone strict s (s.removeNode h).1
      rw [hrefused]
      exact .of_sameSeats ⟨rfl, rfl, rfl, fun _ => rfl⟩ hs
    | some p =>
      refine leavesAlone_removeNode hs hpe fun _ => ?_
      obtain ⟨e, hget, hfree⟩ := hleaves
      exact ⟨e, by rw [Workspace.constraint?, hb]; exact hget, hfree⟩
  | chooseAlternative he hpe _ _ => exact leavesAlone_chooseAlternative hs hm hdist he hpe

/-- Taking an offer that is not stale, or any other one, leaves attributes alone. -/
theorem leavesAlone_take {o : Offer} (ho : s.StaleOrFresh o) :
    LeavesAlone strict s (s.take o).1 := by
  rcases ho.take_or_mem with hstale | ⟨c, hb, hmem⟩
  · rw [hstale]
    exact .of_sameSeats ⟨rfl, rfl, rfl, fun _ => rfl⟩ hs
  · unfold take
    split
    · exact leavesAlone_perform hs hm hdist hb (offered_of_mem_makeOffers hmem)
        (leavesAttributes_of_mem_makeOffers hmem)
    · exact .of_sameSeats ⟨rfl, rfl, rfl, fun _ => rfl⟩ hs

/-- Every request of a guided run leaves attributes alone. -/
theorem leavesAlone_answer (hsane : Workspace.Sane (s.workspace, s.document)) (hfresh : s.Fresh)
    (hseen : ∀ o ∈ seen, s.StaleOrFresh o) (hguided : guided seen r) :
    LeavesAlone strict s (s.answer r).1 := by
  have htidy : (s.answer r).1.Tidy := (staleOrFresh_answer hs hfresh r).1
  cases r with
  | look h => exact .of_sameSeats (sameSeats_offers s h) htidy
  | take o => exact leavesAlone_take hs hm hdist (hseen o hguided)
  | setValue h value => exact leavesAlone_setValue hs hsane h value
  | judge h deep => exact .of_sameSeats (alike_verdictOn s h deep).sameSeats htidy
  | revalidate => exact .of_sameSeats (alike_revalidate s).sameSeats htidy
  | addNode => exact hguided.elim
  | addAttribute => exact hguided.elim
  | remove => exact hguided.elim
  | choose => exact hguided.elim
  | replace => exact hguided.elim

end Requests

/-! ## Runs -/

/-- A guided run leaves attributes alone, from wherever it goes on. -/
theorem Leads.leavesAlone (hl : Leads guided s seen s' seen') (hr : Reached guided s seen)
    (hm : s.workspace.model.Built) (hdist : strict → s.workspace.model.AttributesDistinct) :
    LeavesAlone strict s s' := by
  induction hl with
  | still => exact .of_sameSeats ⟨rfl, rfl, rfl, fun _ => rfl⟩ hr.staleOrFresh.1
  | @asked s' seen' r hl hguided ih =>
    have hreached := hl.reached hr
    have hmodel := hl.model hr
    obtain ⟨htidy, hfresh, hseen⟩ := hreached.staleOrFresh
    rw [← hmodel] at hm hdist
    have hkempt : Kempt False False s' := hreached.kempt hm.treeShaped False.elim
    exact ih.trans hr.staleOrFresh.1
      (leavesAlone_answer htidy hm hdist hkempt.poised.sane hfresh hseen hguided)

/-- In a new document every attribute comes along, and elements have all of those that do. -/
theorem comesAlong_of_create {m : ContentModel} {rules : RuleBook} {settings : Settings}
    (hm : m.Built) (hdist : strict → m.AttributesDistinct)
    (hc : create m rules settings = .ok s) :
    (∀ k, s.document.isAttribute k = true → ComesAlong s.workspace k) ∧
      (strict → ∀ k, s.document.isElement k = true → Carries s.workspace s.document k) := by
  have hstart := opened_start Document.orderly_empty m rules settings
  have hsound : Workspace.Sound ((start .empty m rules settings).workspace, .empty) :=
    hstart.tidy.sound
  obtain ⟨stage, h, d, hcreate, happend, halike⟩ := create_eq_ok hc
  have hprovided := Workspace.provided_create hm hdist hsound
    (by rw [show (start .empty m rules settings).workspace.model = m from rfl,
      hm.treeShaped.kind?_root]; exact nofun)
  rw [hcreate] at hprovided
  have hdoc : s.document = d := halike.document
  have hsame := halike.sameSeats
  have hold := hprovided.grows.document.lookups hstart.tidy.linked.contains_top
  -- every node but the document itself is new
  have hnew : ∀ k, k ≠ Document.top → (Document.empty).slots.size ≤ k.index := by
    intro k hk
    have hsize : (Document.empty).slots.size = 1 := rfl
    by_contra hlt
    exact hk (congrArg Handle.mk (by omega : k.index = 0))
  constructor
  · intro k hk
    rw [hdoc, Document.isAttribute_congr (Document.kind?_append happend k)] at hk
    refine (hprovided.comesAlong k (hnew k ?_) hk).congr hsame.model (hsame.binding? k)
    rintro rfl
    rw [Document.isAttribute_congr hold.1, Document.isAttribute,
      Document.orderly_empty.kind?_top] at hk
    simp at hk
  · intro hst k hk
    rw [hdoc, Document.isElement_congr (Document.kind?_append happend k)] at hk
    refine (hprovided.carries hst k (hnew k ?_) hk).congr hsame.model (hsame.binding? k)
      fun a ha => ⟨?_, hsame.binding? a⟩
    · rintro rfl
      rw [Document.isElement_congr hold.1, Document.orderly_empty.isElement_top] at hk
      simp at hk
    · rw [hdoc, Document.attributes_append happend]
      exact ha

end GuidedXml.Session
