/-
# Agreement with the document

What a session keeps beside its document agrees with it at every moment: the outline is the one that
would be drawn anew, every live node has its place and its label, and nothing that is kept names a
node that is gone.

The main statements say this for all sessions that arise.
-/
import GuidedXml.Proofs.Conformance.Kempt

namespace GuidedXml

open Document (Within)
open Schema (ConstraintId)

/-! ## Outlines -/

/-- Two outlines of the same document have the same entries. -/
theorem Outline.Mirrors.get?_eq {o o' : Outline} {d : Document} (hm : o.Mirrors d)
    (hm' : o'.Mirrors d) (h : Handle) : o.entries.get? h = o'.entries.get? h := by
  by_cases hh : d.isElement h = true ∧ d.Within Document.top h
  · rw [hm.shown h hh.1 hh.2, hm'.shown h hh.1 hh.2]
  · have hnone : ∀ {o : Outline}, o.Mirrors d → o.entries.get? h = none := by
      intro o hm
      rw [← Option.not_isSome_iff_eq_none]
      exact fun hc => hh (hm.hidden h hc)
    rw [hnone hm, hnone hm']

namespace Session

variable {s : Session} {h k p : Handle} {c : ConstraintId} {o : Offer}

/-- In every session that arises, the outline is the one of the document: it has the outermost
element of the document, it shows exactly the elements that lie in the document, each with the
elements just inside it in document order and with the element around it, and it is what would be
drawn anew. -/
theorem outline_eq_ofDocument (ha : Arises atWill s) (hm : s.workspace.model.Built) :
    (∃ r, s.document.root? = some r ∧ s.workspace.outline.root = some r ∧
      s.workspace.outline.parent? r = none) ∧
    (∀ h, s.workspace.outline.contains h = true ↔
      s.document.isElement h = true ∧ s.document.isAttached h = true) ∧
    (∀ h, s.document.isElement h = true → s.document.isAttached h = true →
      s.workspace.outline.children h = s.document.elements h ∧
      s.workspace.outline.parent? h = s.parentElement? h) ∧
    s.workspace.outline.root = (Outline.ofDocument s.document).root ∧
    ∀ h, s.workspace.outline.entries.get? h = (Outline.ofDocument s.document).entries.get? h := by
  have hk : Kempt False False s := ha.kempt not_false.elim hm.treeShaped not_false.elim
  have hmirrors := hk.mirrors
  have horder := hk.poised.sane.orderly
  have hdrawn := Outline.mirrors_ofDocument horder.forest hmirrors.single
  have hshown : ∀ h, s.document.isElement h = true → s.document.isAttached h = true →
      s.workspace.outline.children h = s.document.elements h ∧
        s.workspace.outline.parent? h = s.parentElement? h := by
    intro h he hin
    have hentry := hmirrors.shown h he ((Document.isAttached_iff horder).mp hin)
    rw [Outline.children, Outline.parent?, hentry]
    exact ⟨rfl, rfl⟩
  refine ⟨?_, fun h => ?_, hshown, hmirrors.root.trans hdrawn.root.symm, hmirrors.get?_eq hdrawn⟩
  · obtain ⟨r, hsingle⟩ := hmirrors.single
    have hroot : s.document.root? = some r := by rw [Document.root?, hsingle]; rfl
    have hmem : r ∈ s.document.elements Document.top := by
      rw [hsingle]
      exact List.mem_singleton_self r
    have hpar := horder.parent?_of_mem_elements hmem
    have htop : s.document.Within Document.top r := Within.of_parent? horder.toLinked hpar
    refine ⟨r, hroot, hmirrors.root.trans hroot, ?_⟩
    rw [(hshown r (Document.mem_elements.mp hmem).2
      ((Document.isAttached_iff horder).mpr htop)).2, parentElement?, hpar]
    simp [Option.filter, horder.isElement_top]
  · rw [hmirrors.contains_iff, Document.isAttached_iff horder]

theorem twins_outline : twins.workspace.outline.children ⟨1⟩ = [⟨3⟩, ⟨5⟩] ∧
    ∀ h, twins.workspace.outline.entries.get? h =
      (Outline.ofDocument twins.document).entries.get? h := by
  obtain ⟨-, -, hshown, -, hdrawn⟩ :=
    outline_eq_ofDocument (arises_twins.mono fun _ _ _ => trivial) built_roster
  exact ⟨(hshown ⟨1⟩ (by decide) (by decide)).1, hdrawn⟩

/-! ## Names of nodes -/

/-- The nodes that an action is about. -/
def actionNodes : Action → List Handle
  | .addSibling _ parent after => [parent, after]
  | .addChild _ parent after => parent :: after.toList
  | .addAttribute _ element => [element]
  | .remove node | .removeAttribute node => [node]
  | .chooseAlternative _ parent after replaced => parent :: replaced :: after.toList

/-- Something that the session keeps beside its document names the node. -/
inductive Names (s : Session) (k : Handle) : Prop
  /-- A binding, a list of offers, a verdict, the rules about the node, its revision, or what a rule
  led to. -/
  | known : s.workspace.Mentions k → Names s k
  | offered {h : Handle} {os : List Offer} {o : Offer} : s.workspace.offers.get? h = some os →
      o ∈ os → k = o.anchor ∨ k ∈ actionNodes o.action → Names s k
  | outermost : s.workspace.outline.root = some k → Names s k
  | shown : s.workspace.outline.contains k = true → Names s k
  | around {h : Handle} : s.workspace.outline.parent? h = some k → Names s k
  | inside {h : Handle} : k ∈ s.workspace.outline.children h → Names s k
  | inLine {name : String} : k ∈ s.workspace.claims.candidates name → Names s k

/-- Only live nodes are offered anything about. -/
theorem Offered.contains {a : Action} (hd : s.document.Linked)
    (hh : s.document.contains h = true) (ho : s.Offered h c a) (hk : k ∈ actionNodes a) :
    s.document.contains k = true := by
  have hparent : ∀ {p}, s.parentElement? h = some p → s.document.contains p = true := fun hp =>
    hd.contains_parent (parent?_of_parentElement? hp).1
  have hchild : ∀ {p}, k ∈ s.document.children p → s.document.contains k = true := fun hk =>
    hd.contains_of_mem (Document.mem_inside.mpr (Or.inr hk))
  cases ho with
  | addSibling he hp hmore =>
    simp only [actionNodes, List.mem_cons, List.not_mem_nil, or_false] at hk
    rcases hk with rfl | rfl
    · exact hparent hp
    · exact hh
  | addChild he hcs hcan =>
    simp only [actionNodes, List.mem_cons, Option.mem_toList] at hk
    rcases hk with rfl | hlast
    · exact hh
    · have hmem := List.mem_of_getLast? hlast
      exact hchild (Document.mem_elements.mp (List.mem_filter.mp hmem).1).1
  | addAttribute he hmem hnone => exact List.mem_singleton.mp hk ▸ hh
  | remove he hp hfewer => exact List.mem_singleton.mp hk ▸ hh
  | removeAttribute ha => exact List.mem_singleton.mp hk ▸ hh
  | chooseAlternative he hp hmem hne =>
    simp only [actionNodes, List.mem_cons, Option.mem_toList] at hk
    rcases hk with rfl | rfl | hprev
    · exact hparent hp
    · exact hh
    · exact hchild (mem_children_of_previousSibling? (parent?_of_parentElement? hp).1 hprev)

/-- Whatever a kempt session names is a live node. -/
theorem Kempt.contains_of_names {strict : Prop} (hk : Kempt strict True s) (hf : s.Fresh)
    (hn : s.Names k) : s.document.contains k = true := by
  have hd : s.document.Linked := hk.poised.sane.orderly.toLinked
  have hshown : ∀ {h e}, s.workspace.outline.entries.get? h = some e →
      e = ⟨s.document.outer? h, s.document.elements h⟩ := by
    intro h e he
    obtain ⟨hel, hin⟩ := hk.mirrors.hidden h (Option.isSome_iff_exists.mpr ⟨e, he⟩)
    exact Option.some.inj (he.symm.trans (hk.mirrors.shown h hel hin))
  -- offers are fresh, so what they name is what would be offered now
  cases hn with
  | known hm => exact hk.poised.sane.traced.contains hm
  | @offered h os o hos ho hmem =>
    obtain ⟨c, hb, rfl⟩ := hf h os hos
    have hh : s.document.contains h = true := hk.poised.sane.contains_of_bound hb
    rcases hmem with rfl | hmem
    · rw [(anchor_of_mem_makeOffers ho).1]
      exact hh
    · exact (offered_of_mem_makeOffers ho).contains hd hh hmem
  | outermost hroot =>
    rw [hk.mirrors.root, Document.root?] at hroot
    have hmem := List.mem_of_mem_head? (Option.mem_def.mpr hroot)
    exact Document.contains_of_isElement (Document.mem_elements.mp hmem).2
  | shown hc => exact Document.contains_of_isElement (hk.mirrors.hidden k hc).1
  | around hp =>
    obtain ⟨e, he, hpe⟩ := Option.bind_eq_some_iff.mp hp
    rw [hshown he] at hpe
    exact Document.contains_of_isElement (Document.outer?_eq_some_iff.mp hpe).2
  | @inside h hmem =>
    rw [Outline.children] at hmem
    cases he : s.workspace.outline.entries.get? h with
    | none => rw [he] at hmem; simp at hmem
    | some e =>
      rw [he, hshown he] at hmem
      exact Document.contains_of_isElement (Document.mem_elements.mp hmem).2
  | inLine hmem =>
    obtain ⟨-, -, c, hb, -⟩ := (hk.registered trivial).mem_candidates_iff.mp hmem
    exact hk.poised.sane.contains_of_bound hb

/-- In every session that arises without removing a text by itself, under a content model that
declares no attribute of an element twice: every live node lies in the document, every element is
bound to a constraint for elements of its own name, every attribute is whitelisted or bound to a
constraint for attributes of its own name, and nothing that is kept beside the document names a node
that is not live. -/
theorem upkept_of_arises (ha : Arises SparesTexts s) (hm : s.workspace.model.Built)
    (hd : s.workspace.model.AttributesDistinct) :
    (∀ h, s.document.contains h = true → s.document.isAttached h = true) ∧
    (∀ h, s.document.isElement h = true → ∃ c, s.workspace.binding? h = some c ∧
      s.workspace.model.kind? c = some .element ∧
      s.workspace.model.name c = s.document.name h) ∧
    (∀ h, s.document.isAttribute h = true → s.workspace.isWhitelisted (s.document.name h) = true ∨
      ∃ c, s.workspace.binding? h = some c ∧ s.workspace.model.kind? c = some .attribute ∧
        s.workspace.model.name c = s.document.name h) ∧
    ∀ h, s.Names h → s.document.contains h = true := by
  have hk : Kempt True True s := ha.kempt (fun _ _ _ hr => hr) hm.treeShaped fun _ => hd
  have horder := hk.poised.sane.orderly
  have hrooted : s.document.Rooted fun _ => False := by
    refine hk.tended.rooted.mono fun k hk => ?_
    rcases hk with ⟨hnot, -⟩ | hhand
    · exact hnot trivial
    · simp at hhand
  refine ⟨fun h hc => ?_, fun h he => (hk.tended.labelled h).element he,
    fun h hattr => (hk.tended.labelled h).ofAttribute hattr, fun h hn => ?_⟩
  · exact (Document.isAttached_iff horder).mpr (hrooted.within_top horder hc)
  · exact hk.contains_of_names ha.fresh.2 hn

/-- Once a twin is removed, nothing names it. -/
theorem unnamed_twin : ¬ (twins.answer (.remove ⟨3⟩)).1.Names ⟨3⟩ := by
  have hspare : twins.SparesTexts (.remove ⟨3⟩) :=
    show twins.document.isText ⟨3⟩ = false by decide
  obtain ⟨-, -, -, hnames⟩ :=
    upkept_of_arises (arises_twins.asked hspare) built_roster attributesDistinct_roster
  intro hn
  have hgone : (twins.answer (.remove ⟨3⟩)).1.document.contains ⟨3⟩ = false := by decide
  rw [hnames ⟨3⟩ hn] at hgone
  simp at hgone

end Session

end GuidedXml
