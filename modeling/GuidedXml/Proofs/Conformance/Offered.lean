/-
# What is offered

The conditions under which each kind of edit is offered, and where a missing element is put.

The main statements say that every offer meets the conditions of its kind, and that the place for a
missing element is in the order of the content.
-/
import GuidedXml.Proofs.Conformance.Effects

namespace GuidedXml.Session

open Schema (ConstraintId ContentModel)

variable {s : Session} {h k p : Handle} {a c i : ConstraintId} {action : Action}
  {es : List Handle} {before cs : List ConstraintId}

/-! ## Conditions -/

/-- The edits that are offered for a node bound to a constraint. -/
inductive Offered (s : Session) (h : Handle) (c : ConstraintId) : Action → Prop
  | addSibling {p : Handle} : s.document.isElement h = true → s.parentElement? h = some p →
      (s.workspace.model.occurs c).allowsMore (s.document.runLength h) = true →
      Offered s h c (.addSibling c p h)
  | addChild {before rest : List ConstraintId} {a : ConstraintId} :
      s.document.isElement h = true →
      s.workspace.model.contentElements c = before ++ a :: rest →
      s.canAddInside (s.document.elements h) a = true →
      Offered s h c (.addChild a h ((s.document.elements h).filter (s.boundTo before)).getLast?)
  | addAttribute {a : ConstraintId} : s.document.isElement h = true →
      a ∈ s.workspace.model.attributes c →
      s.document.attribute? h (s.workspace.model.name a) = none →
      Offered s h c (.addAttribute a h)
  | remove {p : Handle} : s.document.isElement h = true → s.parentElement? h = some p →
      (s.workspace.model.occurs c).min < s.document.runLength h → Offered s h c (.remove h)
  | removeAttribute : s.document.isAttribute h = true → Offered s h c (.removeAttribute h)
  | chooseAlternative {p : Handle} {a : ConstraintId} : s.document.isElement h = true →
      s.parentElement? h = some p → a ∈ s.workspace.model.alternatives c → a ≠ c →
      Offered s h c (.chooseAlternative a p (s.document.previousSibling? h) h)

theorem offered_of_mem_siblingActions (he : s.document.isElement h = true)
    (hp : s.parentElement? h = some p) {x : String × Action}
    (hx : x ∈ s.siblingActions h p c) : s.Offered h c x.2 := by
  unfold siblingActions at hx
  rcases List.mem_append.mp hx with hx | hx
  · rcases List.mem_append.mp hx with hx | hx
    · split at hx
      · rename_i hmore
        rw [List.mem_singleton.mp hx]
        exact .addSibling he hp hmore
      · simp at hx
    · split at hx
      · rename_i hfewer
        rw [List.mem_singleton.mp hx]
        exact .remove he hp hfewer
      · simp at hx
  · obtain ⟨a, ha, rfl⟩ := List.mem_map.mp hx
    obtain ⟨hmem, hne⟩ := List.mem_filter.mp ha
    exact .chooseAlternative he hp hmem (of_decide_eq_true hne)

/-- Each element that can be added is one of the content, with the ones that come before it. -/
theorem exists_of_mem_childActionsAux {x : String × Action}
    (hx : x ∈ s.childActionsAux h es before cs) :
    ∃ mid a rest, cs = mid ++ a :: rest ∧ s.canAddInside es a = true ∧
      x.2 = .addChild a h (es.filter (s.boundTo (before ++ mid))).getLast? := by
  induction cs generalizing before with
  | nil => simp [childActionsAux] at hx
  | cons c cs ih =>
    have hrest : x ∈ s.childActionsAux h es (before ++ [c]) cs → ∃ mid a rest,
        c :: cs = mid ++ a :: rest ∧ s.canAddInside es a = true ∧
          x.2 = .addChild a h (es.filter (s.boundTo (before ++ mid))).getLast? := by
      intro hx
      obtain ⟨mid, a, rest, rfl, hcan, haction⟩ := ih hx
      refine ⟨c :: mid, a, rest, rfl, hcan, ?_⟩
      rw [haction, List.append_assoc]
      rfl
    rw [childActionsAux] at hx
    split at hx
    · rename_i hcan
      rcases List.mem_cons.mp hx with rfl | hx
      · refine ⟨[], c, cs, rfl, hcan, ?_⟩
        rw [List.append_nil]
      · exact hrest hx
    · exact hrest hx

theorem offered_of_mem_attributeActions (he : s.document.isElement h = true)
    {x : String × Action} (hx : x ∈ s.attributeActions h c) : s.Offered h c x.2 := by
  obtain ⟨a, ha, rfl⟩ := List.mem_map.mp hx
  obtain ⟨hmem, hfree⟩ := List.mem_filter.mp ha
  rw [Bool.and_eq_true, Option.isNone_iff_eq_none] at hfree
  exact .addAttribute he hmem hfree.2

/-- Every offer meets the conditions of its kind. -/
theorem offered_of_mem_makeOffers {o : Offer} (ho : o ∈ s.makeOffers h c) :
    s.Offered h c o.action := by
  obtain ⟨x, hx, rfl⟩ := List.mem_map.mp ho
  dsimp only
  split at hx
  · rename_i he
    rcases List.mem_append.mp hx with hx | hx
    · rcases List.mem_append.mp hx with hx | hx
      · cases hp : s.parentElement? h with
        | none => rw [hp] at hx; simp at hx
        | some p =>
          rw [hp] at hx
          exact offered_of_mem_siblingActions he hp hx
      · obtain ⟨mid, a, rest, hcs, hcan, haction⟩ := exists_of_mem_childActionsAux hx
        rw [haction, List.nil_append]
        exact .addChild he hcs hcan
    · exact offered_of_mem_attributeActions he hx
  · split at hx
    · rename_i ha
      unfold ownActions at hx
      split at hx
      · rw [List.mem_singleton.mp hx]
        exact .removeAttribute ha
      · simp at hx
    · simp at hx

/-! ## Attributes -/

/-- The action adds or removes no attribute, but one that comes and goes freely. -/
def LeavesAttributes (m : ContentModel) (c : ConstraintId) : Action → Prop
  | .addAttribute a _ => ∃ e, m.get? a = some e ∧ e.isFreeOptional = true
  | .removeAttribute _ => ∃ e, m.get? c = some e ∧ e.isFreeOptional = true
  | .addSibling _ _ _ | .addChild _ _ _ | .remove _ | .chooseAlternative _ _ _ _ => True

theorem leavesAttributes_of_mem_siblingActions {x : String × Action}
    (hx : x ∈ s.siblingActions h p c) : LeavesAttributes s.workspace.model c x.2 := by
  rcases List.mem_append.mp hx with hx | hx
  · rcases List.mem_append.mp hx with hx | hx
    · split at hx
      · rw [List.mem_singleton.mp hx]
        trivial
      · simp at hx
    · split at hx
      · rw [List.mem_singleton.mp hx]
        trivial
      · simp at hx
  · obtain ⟨a, -, rfl⟩ := List.mem_map.mp hx
    trivial

/-- Only attributes that come and go freely are offered to be added or removed. -/
theorem leavesAttributes_of_mem_makeOffers {o : Offer} (ho : o ∈ s.makeOffers h c) :
    LeavesAttributes s.workspace.model c o.action := by
  obtain ⟨x, hx, rfl⟩ := List.mem_map.mp ho
  dsimp only
  split at hx
  · rcases List.mem_append.mp hx with hx | hx
    · rcases List.mem_append.mp hx with hx | hx
      · split at hx
        · exact leavesAttributes_of_mem_siblingActions hx
        · simp at hx
      · obtain ⟨mid, a, rest, -, -, haction⟩ := exists_of_mem_childActionsAux hx
        rw [haction]
        trivial
    · obtain ⟨a, ha, rfl⟩ := List.mem_map.mp hx
      obtain ⟨-, hfree⟩ := List.mem_filter.mp ha
      rw [Bool.and_eq_true] at hfree
      exact (Option.any_eq_true _ _).mp hfree.1
  · split at hx
    · unfold ownActions at hx
      split at hx
      · rename_i hfree
        rw [List.mem_singleton.mp hx]
        exact (Option.any_eq_true _ _).mp hfree
      · simp at hx
    · simp at hx

end GuidedXml.Session
