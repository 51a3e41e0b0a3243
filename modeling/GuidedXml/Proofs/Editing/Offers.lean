/-
# What offers are made from

The offers for a node are made from what can be seen from it in the document, the bindings of the
node and of the elements inside it, the content model, and the revision of the node.

The main statement says that nothing else has a part in them.
-/
import GuidedXml.Editing.Session.Offers
import GuidedXml.Proofs.Document.Surroundings

namespace GuidedXml.Session

open Schema (ConstraintId ContentModel)

variable {s s' s'' : Session} {h k : Handle}

/-- All that offers for the node are made from is the same in both sessions. -/
structure Unmoved (s s' : Session) (h : Handle) : Prop where
  model : s'.workspace.model = s.workspace.model
  seen : s.document.Undisturbed s'.document h
  binding? : s'.workspace.binding? h = s.workspace.binding? h
  inside : ∀ k ∈ s.document.elements h, s'.workspace.binding? k = s.workspace.binding? k
  revision : s'.workspace.revision h = s.workspace.revision h

theorem Unmoved.trans (h₁ : Unmoved s s' h) (h₂ : Unmoved s' s'' h) : Unmoved s s'' h where
  model := h₂.model.trans h₁.model
  seen := h₁.seen.trans h₂.seen
  binding? := h₂.binding?.trans h₁.binding?
  inside := fun k hk => (h₂.inside k (h₁.seen.elements ▸ hk)).trans (h₁.inside k hk)
  revision := h₂.revision.trans h₁.revision

/-- Which constraint of a list a node is bound to depends on its binding only. -/
theorem boundTo_congr (hb : s'.workspace.binding? k = s.workspace.binding? k)
    (cs : List ConstraintId) : s'.boundTo cs k = s.boundTo cs k := by
  rw [boundTo, boundTo, hb]

/-! ## Places inside an element -/

section Inside

variable {es : List Handle}

/-- The first run of a name depends on the kinds and names of the nodes only. -/
theorem firstRun_congr (hk : ∀ k ∈ es, s'.document.isElement k = s.document.isElement k)
    (hn : ∀ k ∈ es, s'.document.name k = s.document.name k) (name : String) :
    s'.document.firstRun name es = s.document.firstRun name es := by
  have hfilter : es.filter s'.document.isElement = es.filter s.document.isElement :=
    List.filter_congr hk
  have hdrop :
      (es.filter s.document.isElement).dropWhile
          (fun h => !decide (s'.document.name h = name)) =
        (es.filter s.document.isElement).dropWhile fun h => !decide (s.document.name h = name) := by
    apply Document.dropWhile_congr
    intro k hk
    rw [hn k (List.mem_filter.mp hk).1]
  simp only [Document.firstRun, hfilter, hdrop]
  congr 1
  apply Document.takeWhile_congr
  intro k hk
  rw [hn k (List.mem_filter.mp ((List.dropWhile_sublist _).mem hk)).1]

/-- The actions offered for children depend on the model and on their kinds, names and bindings. -/
theorem childActionsAux_congr (hm : s'.workspace.model = s.workspace.model)
    (hk : ∀ k ∈ es, s'.document.isElement k = s.document.isElement k)
    (hn : ∀ k ∈ es, s'.document.name k = s.document.name k)
    (hb : ∀ k ∈ es, s'.workspace.binding? k = s.workspace.binding? k)
    (before cs : List ConstraintId) :
    s'.childActionsAux h es before cs = s.childActionsAux h es before cs := by
  have hbound : ∀ ds : List ConstraintId, ∀ k ∈ es, s'.boundTo ds k = s.boundTo ds k :=
    fun ds k hk => boundTo_congr (hb k hk) ds
  have hcan : ∀ c, s'.canAddInside es c = s.canAddInside es c := by
    intro c
    have hany : es.any (s'.boundTo (s.workspace.model.alternatives c)) =
        es.any (s.boundTo (s.workspace.model.alternatives c)) := by
      rw [Bool.eq_iff_iff, List.any_eq_true, List.any_eq_true]
      constructor
      · rintro ⟨k, hk, hb⟩
        exact ⟨k, hk, by rw [← hbound _ k hk, hb]⟩
      · rintro ⟨k, hk, hb⟩
        exact ⟨k, hk, by rw [hbound _ k hk, hb]⟩
    rw [canAddInside, canAddInside, hm, firstRun_congr hk hn, hany]
  induction cs generalizing before with
  | nil => rfl
  | cons c cs ih =>
    have hfilter : es.filter (s'.boundTo before) = es.filter (s.boundTo before) :=
      List.filter_congr (hbound before)
    rw [childActionsAux, childActionsAux, ih, hcan, hfilter, hm]

end Inside

/-! ## Offers -/

/-- Where nothing that offers are made from has changed, the same offers are made. -/
theorem makeOffers_congr (hu : Unmoved s s' h) (c : ConstraintId) :
    s'.makeOffers h c = s.makeOffers h c := by
  have hparent : s'.parentElement? h = s.parentElement? h := by
    rw [parentElement?, parentElement?, hu.seen.parent?]
    cases hp : s.document.parent? h with
    | none => rfl
    | some p => simp [Option.filter, hu.seen.parent_isElement p hp]
  have hsiblings : ∀ p, s'.siblingActions h p c = s.siblingActions h p c := by
    intro p
    simp only [siblingActions, hu.model, hu.seen.name, hu.seen.runLength,
      hu.seen.previousSibling?]
  have hchildren : s'.childActions h c = s.childActions h c := by
    rw [childActions, childActions, hu.seen.elements, hu.model]
    apply childActionsAux_congr hu.model
    · intro k hk
      have hk' : k ∈ s'.document.elements h := by
        rw [hu.seen.elements]
        exact hk
      rw [(Document.mem_elements.mp hk).2, (Document.mem_elements.mp hk').2]
    · exact hu.seen.name_of_mem
    · exact hu.inside
  have hattributes : s'.attributeActions h c = s.attributeActions h c := by
    simp only [attributeActions, hu.model, hu.seen.attribute?]
  have helement : s'.elementActions h c = s.elementActions h c := by
    simp only [elementActions, hparent, hsiblings, hchildren, hattributes]
  have hown : s'.ownActions h c = s.ownActions h c := by
    simp only [ownActions, hu.model, hu.seen.name]
  simp only [makeOffers, helement, hown, hu.revision,
    Document.isElement_congr hu.seen.kind?, Document.isAttribute_congr hu.seen.kind?]

end GuidedXml.Session
