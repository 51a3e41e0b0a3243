/-
# Refused edits

An edit that is refused changes nothing, although it may have made, placed and bound nodes before
that. Only handles may have been given out.

The main statement says this for all edits of all sessions that arise.
-/
import GuidedXml.Proofs.Conformance.Kempt

namespace GuidedXml.Session

open Schema (ConstraintId)

variable {s s' : Session}

/-- A new element that is refused a place is taken back without a trace. -/
theorem unchanged_addNode (hk : Kempt True False s) {c : ConstraintId} {parent : Handle}
    {after : Option Handle} {fault : EditFault}
    (hr : s.addNode c parent after = (s', .error fault)) : s.Unchanged s' := by
  unfold addNode at hr
  split at hr
  · obtain rfl := (Prod.mk.inj hr).1
    exact Unchanged.refl s
  · rename_i hkind
    rw [not_not] at hkind
    cases hf : s.elementFault? parent with
    | some other =>
      rw [hf] at hr
      obtain rfl := (Prod.mk.inj hr).1
      exact Unchanged.refl s
    | none =>
      obtain ⟨e, he, hke⟩ := exists_of_kind? hkind
      obtain ⟨hsome, -, -⟩ := Workspace.create_of_element hk.poised.sane.toSound he hke
      obtain ⟨t, ht⟩ : ∃ t, s.workspace.create s.document c = (t, some s.document.next) :=
        ⟨_, Prod.ext rfl hsome⟩
      -- the new element was not shown yet, so the outline is left alone when it is forgotten
      have hhidden : s.workspace.outline.contains s.document.next = false := by
        by_contra hc
        rw [Bool.not_eq_false] at hc
        have hlive := Document.contains_of_isElement (hk.mirrors.hidden _ hc).1
        exact Document.ne_next_of_contains hlive rfl
      rw [hf, ht] at hr
      dsimp only at hr
      split at hr
      · rename_i other _
        have hback := unchanged_takeBack hk.poised.sane hk.tended.tree
          (hk.tended.distinct trivial) ht hhidden other
        rw [hr] at hback
        exact hback
      · simp at hr

/-- In every session that arises, under a content model that declares no attribute of an element
twice: an edit that is refused, whatever nodes and constraints it was asked for, changes nothing. -/
theorem unchanged_of_refused (ha : Arises atWill s) (hm : s.workspace.model.Built)
    (hd : s.workspace.model.AttributesDistinct) :
    (∀ c parent after s' fault, s.addNode c parent after = (s', .error fault) → s.Unchanged s') ∧
    (∀ c element s' fault, s.addAttribute c element = (s', .error fault) → s.Unchanged s') ∧
    (∀ h s' fault, s.removeNode h = (s', .error fault) → s.Unchanged s') ∧
    (∀ h value s' fault, s.setValue h value = (s', .error fault) → s.Unchanged s') ∧
    ∀ old (source : Document) node s' fault, source.Linked →
      s.replace old source node = (s', .error fault) → s.Unchanged s' := by
  have hk : Kempt True False s := ha.kempt not_false.elim hm.treeShaped fun _ => hd
  have hs := hk.poised
  refine ⟨fun c parent after s' fault he => unchanged_addNode hk he, ?_, ?_, ?_, ?_⟩
  · intro c element s' fault he
    have hclean : Clean False True s (s.addAttribute c element) := clean_addAttribute hs c element
    exact (he ▸ hclean).unchanged
  · intro h s' fault he
    have hclean : Clean False True s (s.removeNode h) := clean_removeNode hs h not_false.elim
    exact (he ▸ hclean).unchanged
  · intro h value s' fault he
    have hclean : Clean False True s (s.setValue h value) := clean_setValue hs trivial h value
    exact (he ▸ hclean).unchanged
  · intro old source node s' fault hsource he
    have hclean : Clean False True s (s.replace old source node) :=
      clean_replace hs hsource old node
    exact (he ▸ hclean).unchanged

/-- A roster with a third entry of the same name, and with something that is no entry. -/
def strangeRoster : Document :=
  .ofTree (.element "roster" [] [.element "entry" [] [.text "ada"], .element "note" [] []])

theorem linked_strangeRoster : strangeRoster.Linked := by
  have hentry : Markup.IsContent (.element "entry" [] [.text "ada"]) :=
    Markup.isContent_element (by simpa using Markup.isContent_text "ada")
  have hnote : Markup.IsContent (.element "note" [] []) := Markup.isContent_element nofun
  have hroot : Markup.IsContent
      (.element "roster" [] [.element "entry" [] [.text "ada"], .element "note" [] []]) :=
    Markup.isContent_element (by simp [hentry, hnote])
  exact (Document.orderly_ofTree hroot.proper rfl).toLinked

/-- The strange roster is found out only after its entry was bound. -/
theorem unchanged_of_strangeRoster :
    (twins.replace ⟨1⟩ strangeRoster ⟨1⟩).2 = .error (.notCompliant ⟨1⟩) ∧
      twins.Unchanged (twins.replace ⟨1⟩ strangeRoster ⟨1⟩).1 := by
  obtain ⟨-, -, -, -, hreplace⟩ := unchanged_of_refused
    (arises_twins.mono fun _ _ _ => trivial) built_roster attributesDistinct_roster
  have hfault : (twins.replace ⟨1⟩ strangeRoster ⟨1⟩).2 = .error (.notCompliant ⟨1⟩) := by
    with_unfolding_all rfl
  exact ⟨hfault, hreplace _ _ _ _ _ linked_strangeRoster (Prod.ext rfl hfault)⟩

end GuidedXml.Session
