/-
# Taking offers

What an offered edit does to the content of the element that it changes: the names still are in the
order of the content, and as frequent as the bounds say.

The main statements say that every edit that is offered succeeds, keeps bound elements where their
constraints are, and keeps the document conforming if it chooses no alternative.
-/
import GuidedXml.Proofs.Conformance.Offered

namespace GuidedXml

open Schema (ConstraintId ContentModel)
open Schema.ContentModel (Fills IsContent Ordered)

namespace Schema.Occurs

/-- A count that fits and may be exceeded can be exceeded by one. -/
theorem contains_succ {o : Occurs} {n : Nat} (hmin : o.min ≤ n + 1) (hmore : o.allowsMore n = true) :
    o.contains (n + 1) = true := by
  rw [contains, ← allowsMore_eq, hmore, Bool.and_true, decide_eq_true_eq]
  exact hmin

end Schema.Occurs

namespace Session

variable {s s' : Session} {h k p new : Handle} {a c i j : ConstraintId} {xs ys : List Handle}
  {before rest : List ConstraintId}

/-! ## Sessions ready for offers -/

/-- The session is tidy, its content model is flat and unambiguous, and bound elements sit where
their constraints are. -/
structure Ready (s : Session) : Prop where
  tidy : s.Tidy
  treeShaped : s.workspace.model.TreeShaped
  flat : s.workspace.model.FlatUnambiguous
  seated : s.Seated

namespace Ready

variable (hr : s.Ready)

include hr

/-- A change inside an element that keeps bound elements in their seats keeps the session ready. -/
theorem splices (hp : Splices p s s') (hseat : s'.Seated) : s'.Ready where
  tidy := hp.drifts.tidy
  treeShaped := by
    rw [hp.drifts.model]
    exact hr.treeShaped
  flat := by
    rw [hp.drifts.model]
    exact hr.flat
  seated := hseat

theorem kind? (hb : s.workspace.binding? h = some c) (he : s.document.isElement h = true) :
    s.workspace.model.kind? c = some .element :=
  (hr.seated.nodes h c hb he).kind?

theorem isContent (hb : s.workspace.binding? p = some i) (he : s.document.isElement p = true) :
    IsContent s.workspace.model (s.workspace.model.contentElements i) :=
  ContentModel.isContent_contentElements hr.treeShaped hr.flat (hr.kind? hb he)

theorem name (hb : s.workspace.binding? h = some c) (he : s.document.isElement h = true) :
    s.document.name h = s.workspace.model.name c :=
  (hr.seated.nodes h c hb he).name

/-- The elements inside a bound element are bound to elements of its content. -/
theorem bound_of_mem (hb : s.workspace.binding? p = some i) (he : s.document.isElement p = true)
    (hk : k ∈ s.document.elements p) :
    ∃ j ∈ s.workspace.model.contentElements i, s.workspace.binding? k = some j ∧
      s.document.name k = s.workspace.model.name j := by
  obtain ⟨j, hj, hbk⟩ := (hr.seated.nodes p i hb he).inside k hk
  exact ⟨j, hj, hbk, hr.name hbk (Document.mem_elements.mp hk).2⟩

theorem mem_content (hb : s.workspace.binding? p = some i) (he : s.document.isElement p = true)
    (hk : k ∈ s.document.elements p) (hc : s.workspace.binding? k = some c) :
    c ∈ s.workspace.model.contentElements i := by
  obtain ⟨j, hj, hbk, -⟩ := hr.bound_of_mem hb he hk
  obtain rfl := Option.some.inj (hc.symm.trans hbk)
  exact hj

/-- An element that is bound to the only constraint of its name in the content. -/
theorem binding?_of_name (hb : s.workspace.binding? p = some i)
    (he : s.document.isElement p = true) (hk : k ∈ s.document.elements p)
    (hj : j ∈ s.workspace.model.contentElements i)
    (hn : s.document.name k = s.workspace.model.name j) : s.workspace.binding? k = some j := by
  obtain ⟨j', hj', hbk, hname⟩ := hr.bound_of_mem hb he hk
  obtain rfl := (hr.isContent hb he).name_inj hj hj' (hn.symm.trans hname)
  exact hbk

end Ready

/-- An element inside another one is among its children. -/
theorem mem_elements_of_parentElement? (hs : s.Tidy) (he : s.document.isElement h = true)
    (hp : s.parentElement? h = some p) :
    h ∈ s.document.elements p ∧ s.document.isElement p = true := by
  obtain ⟨hpar, hpe⟩ := parent?_of_parentElement? hp
  exact ⟨hs.linked.mem_elements_of_parent? hpar he, hpe⟩

/-! ## Contents after an edit -/

section Contents

variable (hr : s.Ready) (hbp : s.workspace.binding? p = some i)
  (hep : s.document.isElement p = true)
  (hsuits : s.document.Suits .strict s.workspace.model s.workspace.whitelist p i)

include hr hbp hep hsuits

/-- One more element just behind one of its kind still fills the content, if there may be one
more. -/
theorem fills_again (hh : h ∈ s.document.elements p) (hb : s.workspace.binding? h = some c)
    (hchildren : s.document.children p = xs ++ ys) (hlast : xs.getLast? = some h)
    (hmore : (s.workspace.model.occurs c).allowsMore (s.document.runLength h) = true) :
    Fills .strict s.workspace.model (s.workspace.model.contentElements i)
      (s.document.namesAmong xs ++ s.workspace.model.name c :: s.document.namesAmong ys) := by
  have hcontent := hr.isContent hbp hep
  have hcs := hr.mem_content hbp hep hh hb
  have he := (Document.mem_elements.mp hh).2
  have hname := hr.name hb he
  have hf := hsuits.content
  have hrun := hf.runLength_eq hr.tidy.linked hcontent hh hcs hname
  rw [hrun] at hmore
  have hpresent : s.workspace.model.tally ((s.document.elements p).map s.document.name) c ≠ 0 := by
    rw [ContentModel.tally, ← hname, Ne, List.count_eq_zero]
    exact fun hnot => hnot (List.mem_map_of_mem hh)
  have hfits := Schema.Occurs.contains_iff.mp (hf.contains hcontent hcs hpresent)
  have hnames : (s.document.elements p).map s.document.name =
      s.document.namesAmong xs ++ s.document.namesAmong ys := by
    rw [← Document.namesAmong_append, ← hchildren]
    rfl
  rw [hnames] at hf hmore hpresent hfits
  refine hf.insert hr.treeShaped hcontent hcs ?_ ?_ ?_
  · -- the name is repeated behind itself
    obtain ⟨xs, rfl⟩ := List.getLast?_eq_some_iff.mp hlast
    have ho := (ContentModel.inOrder_iff hcontent.nodup_names).mp hf.inOrder
    rw [Document.namesAmong_append, Document.namesAmong_cons he, hname] at ho ⊢
    rw [List.append_assoc] at ho ⊢
    exact ho.again
  · exact Schema.Occurs.contains_succ (Nat.le_succ_of_le hfits.1) hmore
  · intro k hk hne
    exact hf.alone hcontent hcs hk hne hpresent

/-- One element less of a kind still fills the content, if there may be one less. -/
theorem fills_without (hh : h ∈ s.document.elements p) (hb : s.workspace.binding? h = some c)
    (hfewer : (s.workspace.model.occurs c).min < s.document.runLength h) :
    Fills .strict s.workspace.model (s.workspace.model.contentElements i)
      (s.document.namesAmong ((s.document.children p).filter (· ≠ h))) := by
  have hcontent := hr.isContent hbp hep
  have hcs := hr.mem_content hbp hep hh hb
  obtain ⟨hmem, he⟩ := Document.mem_elements.mp hh
  have hname := hr.name hb he
  have hf := hsuits.content
  have hrun := hf.runLength_eq hr.tidy.linked hcontent hh hcs hname
  rw [hrun] at hfewer
  have hnd := hr.tidy.linked.nodup_children p
  obtain ⟨xs, ys, hchildren⟩ := List.append_of_mem hmem
  have hnames : (s.document.elements p).map s.document.name =
      s.document.namesAmong xs ++ s.workspace.model.name c :: s.document.namesAmong ys := by
    show s.document.namesAmong (s.document.children p) = _
    rw [hchildren, Document.namesAmong_append, Document.namesAmong_cons he, hname]
  rw [hnames] at hf hfewer
  rw [hchildren] at hnd ⊢
  rw [Document.filter_ne_of_nodup hnd, Document.namesAmong_append]
  exact hf.erase hr.treeShaped hcontent hcs hfewer

omit hsuits in
/-- Of an element that can be added inside none is there, and no alternative to it. -/
theorem absent_of_canAddInside (ha : a ∈ s.workspace.model.contentElements i)
    (hcan : s.canAddInside (s.document.elements p) a = true) :
    s.workspace.model.tally ((s.document.elements p).map s.document.name) a = 0 ∧
      (s.workspace.model.occurs a).allowsMore 0 = true ∧
      ∀ k ∈ s.workspace.model.alternatives a,
        s.workspace.model.tally ((s.document.elements p).map s.document.name) k = 0 := by
  unfold canAddInside at hcan
  rw [Bool.and_eq_true, Bool.and_eq_true, decide_eq_true_eq, Bool.not_eq_true'] at hcan
  obtain ⟨⟨hfirst, hmore⟩, hnone⟩ := hcan
  refine ⟨?_, hmore, ?_⟩
  · rw [ContentModel.tally, List.count_eq_zero]
    intro hmem
    obtain ⟨k, hk, hname⟩ := List.mem_map.mp hmem
    exact Document.name_ne_of_firstRun hfirst hk (Document.mem_elements.mp hk).2 hname
  · intro k hk
    have hkcs := (hr.isContent hbp hep).alternatives_mem a ha k hk
    rw [ContentModel.tally, List.count_eq_zero]
    intro hmem
    obtain ⟨x, hx, hname⟩ := List.mem_map.mp hmem
    have hbx := hr.binding?_of_name hbp hep hx hkcs hname
    refine List.any_eq_false.mp hnone x hx ?_
    rw [boundTo, hbx]
    exact List.contains_iff_mem.mpr hk

/-- An element that can be added still fills the content behind the last of those that come before
it, if one is enough of it. -/
theorem fills_new (hcs : s.workspace.model.contentElements i = before ++ a :: rest)
    (hcan : s.canAddInside (s.document.elements p) a = true)
    (hchildren : s.document.children p = xs ++ ys)
    (hlast : xs.getLast? = ((s.document.elements p).filter (s.boundTo before)).getLast?)
    (hmin : s.workspace.model.isInChoice a = true → (s.workspace.model.occurs a).min ≤ 1) :
    Fills .strict s.workspace.model (s.workspace.model.contentElements i)
      (s.document.namesAmong xs ++ s.workspace.model.name a :: s.document.namesAmong ys) := by
  have hcontent := hr.isContent hbp hep
  have hmem : ∀ j ∈ before ++ a :: rest, j ∈ s.workspace.model.contentElements i := fun j hj =>
    hcs ▸ hj
  have ha := hmem a (List.mem_append_right _ (List.mem_cons_self ..))
  have hbefore : ∀ j ∈ before, j ∈ s.workspace.model.contentElements i := fun j hj =>
    hmem j (List.mem_append_left _ hj)
  obtain ⟨hzero, hmore, halone⟩ := absent_of_canAddInside hr hbp hep ha hcan
  have hf := hsuits.content
  have ho := (ContentModel.inOrder_iff hcontent.nodup_names).mp hf.inOrder
  -- outside of a choice a constraint that is absent was not required at all
  have hone : (s.workspace.model.occurs a).min ≤ 1 := by
    cases hin : s.workspace.model.isInChoice a with
    | true => exact hmin hin
    | false =>
      have hfits := hf.single a ha hin
      rw [hzero] at hfits
      have := (Schema.Occurs.contains_iff.mp hfits).1
      omega
  have hnames : (s.document.elements p).map s.document.name =
      s.document.namesAmong xs ++ s.document.namesAmong ys := by
    rw [← Document.namesAmong_append, ← hchildren]
    rfl
  have hlast' : xs.getLast? =
      ((xs ++ ys).filter fun k => s.boundTo before k && s.document.isElement k).getLast? := by
    rw [hlast, ← hchildren, Document.elements, List.filter_filter]
  rw [hnames] at hf ho hzero halone
  refine hf.insert hr.treeShaped hcontent ha (ho.put hcontent hcs ?_ ?_) ?_ ?_
  · -- the node just before the new one, if any, is an element of a constraint that comes before
    intro n hn
    cases hq : xs.getLast? with
    | none =>
      rw [List.getLast?_eq_none_iff.mp hq] at hn
      simp [Document.namesAmong] at hn
    | some q =>
      have hqmem : q ∈ (s.document.elements p).filter (s.boundTo before) :=
        List.mem_of_getLast? (hlast ▸ hq)
      obtain ⟨hqp, hbound⟩ := List.mem_filter.mp hqmem
      obtain ⟨j, -, hbq, hname⟩ := hr.bound_of_mem hbp hep hqp
      rw [boundTo, hbq] at hbound
      obtain ⟨xs, rfl⟩ := List.getLast?_eq_some_iff.mp hq
      rw [Document.namesAmong_append, Document.namesAmong_cons (Document.mem_elements.mp hqp).2] at hn
      have hqn : s.document.name q = n := by simpa [Document.namesAmong] using hn
      rw [← hqn, hname]
      exact List.mem_map_of_mem (List.contains_iff_mem.mp hbound)
  · -- and no such element stands behind it
    intro n hn hmem
    obtain ⟨j, hj, hjn⟩ := List.mem_map.mp hmem
    obtain ⟨y, hy, hyn⟩ := List.mem_map.mp hn
    obtain ⟨hys, hye⟩ := List.mem_filter.mp hy
    have hyp : y ∈ s.document.elements p := by
      rw [Document.mem_elements, hchildren]
      exact ⟨List.mem_append_right _ hys, hye⟩
    have hby := hr.binding?_of_name hbp hep hyp (hbefore j hj) (hyn.trans hjn.symm)
    have hnd := hr.tidy.linked.nodup_children p
    rw [hchildren] at hnd
    have hfalse := Document.eq_false_of_getLast?_filter hnd hlast' y hys
    rw [boundTo, hby, hye, Bool.and_true] at hfalse
    have htrue : before.contains j = true := List.contains_iff_mem.mpr hj
    rw [Option.any_some, htrue] at hfalse
    simp at hfalse
  · rw [hzero]
    exact Schema.Occurs.contains_succ hone hmore
  · exact fun k hk _ => halone k hk

/-- An element of another alternative fills the content in the place of an element exactly if that
was alone in its run and there may be one of the other alternative. -/
theorem fills_instead_iff (hh : h ∈ s.document.elements p) (hb : s.workspace.binding? h = some c)
    (ha : a ∈ s.workspace.model.alternatives c) (hne : a ≠ c)
    (hchildren : s.document.children p = xs ++ h :: ys) :
    Fills .strict s.workspace.model (s.workspace.model.contentElements i)
        (s.document.namesAmong xs ++ s.workspace.model.name a :: s.document.namesAmong ys) ↔
      s.document.runLength h = 1 ∧ (s.workspace.model.occurs a).contains 1 = true := by
  have hcontent := hr.isContent hbp hep
  have hcs := hr.mem_content hbp hep hh hb
  have he := (Document.mem_elements.mp hh).2
  have hname := hr.name hb he
  have hf := hsuits.content
  rw [hf.runLength_eq hr.tidy.linked hcontent hh hcs hname]
  have hnames : (s.document.elements p).map s.document.name =
      s.document.namesAmong xs ++ s.workspace.model.name c :: s.document.namesAmong ys := by
    show s.document.namesAmong (s.document.children p) = _
    rw [hchildren, Document.namesAmong_append, Document.namesAmong_cons he, hname]
  rw [hnames] at hf ⊢
  exact hf.swap_iff hr.treeShaped hcontent hcs ha hne

end Contents

/-! ## Edits that are offered -/

section Edits

variable (hr : s.Ready) (hb : s.workspace.binding? h = some c)

include hr hb

/-- One more element of a kind can be added where it is offered. -/
theorem addSibling_of_ready (he : s.document.isElement h = true) (hpe : s.parentElement? h = some p)
    (hmore : (s.workspace.model.occurs c).allowsMore (s.document.runLength h) = true) :
    ∃ new s', s.addNode c p (some h) = (s', .ok new) ∧ s'.Ready ∧
      (s.IsConforming → s'.IsConforming) := by
  obtain ⟨hh, hep⟩ := mem_elements_of_parentElement? hr.tidy he hpe
  have hafter : ∀ x, some h = some x → x ∈ s.document.children p := by
    intro x hx
    obtain rfl := Option.some.inj hx
    exact (Document.mem_elements.mp hh).1
  obtain ⟨new, s', xs, ys, hadd, hplaced, hlast⟩ := addNode_of_isElement hr.tidy hr.treeShaped
    hr.flat (hr.kind? hb he) hep hafter
  have hseat := hplaced.seated_of_mem hr.tidy hr.seated fun i hi => hr.mem_content hi hep hh hb
  refine ⟨new, s', hadd, hr.splices hplaced.toSplices hseat, ?_⟩
  refine hplaced.isConforming hr.tidy hr.treeShaped hr.flat hr.seated hseat ?_
  intro i hi hsuits
  rw [hplaced.suits_iff hr.tidy hsuits]
  exact fills_again hr hi hep hsuits hh hb hplaced.before hlast hmore

/-- A missing element can be added where it is offered. -/
theorem addChild_of_ready (he : s.document.isElement h = true)
    (hcs : s.workspace.model.contentElements c = before ++ a :: rest)
    (hcan : s.canAddInside (s.document.elements h) a = true) :
    ∃ new s', s.addNode a h ((s.document.elements h).filter (s.boundTo before)).getLast? =
      (s', .ok new) ∧ s'.Ready ∧
      ((s.workspace.model.isInChoice a = true → (s.workspace.model.occurs a).min ≤ 1) →
        s.IsConforming → s'.IsConforming) := by
  have ha : a ∈ s.workspace.model.contentElements c := by
    rw [hcs]
    exact List.mem_append_right _ (List.mem_cons_self ..)
  have hk := (hr.isContent hb he).kind? a ha
  have hafter : ∀ x, ((s.document.elements h).filter (s.boundTo before)).getLast? = some x →
      x ∈ s.document.children h := by
    intro x hx
    have hmem := (List.mem_filter.mp (List.mem_of_getLast? hx)).1
    exact (Document.mem_elements.mp hmem).1
  obtain ⟨new, s', xs, ys, hadd, hplaced, hlast⟩ :=
    addNode_of_isElement hr.tidy hr.treeShaped hr.flat hk he hafter
  have hseat := hplaced.seated_of_mem hr.tidy hr.seated fun i hi => by
    obtain rfl := Option.some.inj (hb.symm.trans hi)
    exact ha
  refine ⟨new, s', hadd, hr.splices hplaced.toSplices hseat, ?_⟩
  intro hmin
  refine hplaced.isConforming hr.tidy hr.treeShaped hr.flat hr.seated hseat ?_
  intro i hi hsuits
  obtain rfl := Option.some.inj (hb.symm.trans hi)
  rw [hplaced.suits_iff hr.tidy hsuits]
  exact fills_new hr hb he hsuits hcs hcan hplaced.before hlast hmin

/-- A missing attribute can be added where it is offered. -/
theorem addAttribute_of_ready (he : s.document.isElement h = true)
    (ha : a ∈ s.workspace.model.attributes c)
    (hnone : s.document.attribute? h (s.workspace.model.name a) = none) :
    ∃ new s', s.addAttribute a h = (s', .ok new) ∧ s'.Ready ∧
      (s.IsConforming → s'.IsConforming) := by
  obtain ⟨new, s', hadd, hdeclared⟩ := addAttribute_of_isElement hr.tidy hr.treeShaped hr.flat
    (hr.treeShaped.kind?_of_mem_attributes ha) he hnone
  have hseat := hdeclared.seated_of_seated hr.tidy hr.seated
  refine ⟨new, s', hadd, hr.splices hdeclared.toSplices hseat, ?_⟩
  refine hdeclared.isConforming hr.tidy hr.treeShaped hr.flat hr.seated hseat ?_
  intro i hi hsuits
  obtain rfl := Option.some.inj (hb.symm.trans hi)
  exact hdeclared.suits hr.tidy hsuits ha

/-- An element can be removed where that is offered. -/
theorem remove_of_ready (he : s.document.isElement h = true) (hpe : s.parentElement? h = some p)
    (hfewer : (s.workspace.model.occurs c).min < s.document.runLength h) :
    ∃ s', s.removeNode h = (s', .ok ()) ∧ s'.Ready ∧ (s.IsConforming → s'.IsConforming) := by
  obtain ⟨hh, hep⟩ := mem_elements_of_parentElement? hr.tidy he hpe
  obtain ⟨s', hrem, hremoved⟩ := removed_of_parentElement hr.tidy hpe
  have hseat := hremoved.seated_of_seated hr.tidy hr.seated
  refine ⟨s', hrem, hr.splices hremoved.toSplices hseat, ?_⟩
  refine hremoved.isConforming hr.tidy hr.treeShaped hr.flat hr.seated hseat ?_
  intro i hi hsuits
  exact hremoved.suits hr.tidy hsuits (fills_without hr hi hep hsuits hh hb hfewer)

omit hb in
/-- An attribute of an element can be removed. -/
theorem removeAttribute_of_ready (ha : s.document.isAttribute h = true)
    (hpe : s.parentElement? h = some p) :
    ∃ s', s.removeNode h = (s', .ok ()) ∧ s'.Ready ∧ (s.IsConforming → s'.IsConforming) := by
  obtain ⟨s', hrem, hremoved⟩ := removed_of_parentElement hr.tidy hpe
  have hseat := hremoved.seated_of_seated hr.tidy hr.seated
  refine ⟨s', hrem, hr.splices hremoved.toSplices hseat, ?_⟩
  refine hremoved.isConforming hr.tidy hr.treeShaped hr.flat hr.seated hseat ?_
  intro i hi hsuits
  refine hremoved.suits hr.tidy hsuits ?_
  -- no child is an attribute
  have hall : (s.document.children p).filter (· ≠ h) = s.document.children p := by
    rw [List.filter_eq_self]
    intro k hk
    rw [decide_eq_true_eq]
    rintro rfl
    rw [hr.tidy.linked.not_isAttribute_of_mem_children hk] at ha
    simp at ha
  rw [hall]
  exact hsuits.content

/-- Another alternative can be chosen where it is offered. The element around then is as its
constraint says exactly if the old element was alone in its run and there may be one of the other
alternative. -/
theorem chooseAlternative_of_ready (he : s.document.isElement h = true)
    (hpe : s.parentElement? h = some p) (ha : a ∈ s.workspace.model.alternatives c)
    (hne : a ≠ c) :
    ∃ new s' xs ys, s.chooseAlternative a p (s.document.previousSibling? h) h = (s', .ok new) ∧
      s'.Ready ∧ Placed s s' p new a xs [h] ys ∧
      ∀ i, s.workspace.binding? p = some i →
        s.document.Suits .strict s.workspace.model s.workspace.whitelist p i →
        (s'.document.Suits .strict s.workspace.model s.workspace.whitelist p i ↔
          s.document.runLength h = 1 ∧ (s.workspace.model.occurs a).contains 1 = true) := by
  obtain ⟨hh, hep⟩ := mem_elements_of_parentElement? hr.tidy he hpe
  obtain ⟨new, s', xs, ys, hchoose, hplaced⟩ := chooseAlternative_of_isElement hr.tidy
    hr.treeShaped hr.flat (hr.flat.kind?_of_mem_alternatives ha) he hpe
  have hseat := hplaced.seated_of_mem hr.tidy hr.seated fun i hi =>
    (hr.isContent hi hep).alternatives_mem c (hr.mem_content hi hep hh hb) a ha
  refine ⟨new, s', xs, ys, hchoose, hr.splices hplaced.toSplices hseat, hplaced, ?_⟩
  intro i hi hsuits
  rw [hplaced.suits_iff hr.tidy hsuits]
  exact fills_instead_iff hr hi hep hsuits hh hb ha hne hplaced.before

end Edits

/-! ## Performing what is offered -/

/-- An attribute in the document belongs to an element. -/
theorem exists_parentElement? (hs : s.Tidy) (ha : s.document.isAttribute h = true)
    (hin : s.document.isAttached h = true) : ∃ p, s.parentElement? h = some p := by
  have htop : h ≠ Document.top := by
    rintro rfl
    rw [Document.isAttribute, hs.linked.kind?_top] at ha
    simp at ha
  cases hp : s.document.parent? h with
  | none =>
    -- without a parent it would have to be the document itself
    have hnone : s.document.ancestors h = [] := by
      rw [Document.ancestors]
      cases s.document.slots.size with
      | zero => rfl
      | succ n => rw [Document.ancestorsAux, hp]
    rw [Document.isAttached, hnone] at hin
    simp [htop.symm] at hin
  | some p =>
    refine ⟨p, ?_⟩
    rw [parentElement?, Option.filter_eq_some_iff]
    refine ⟨hp, ?_⟩
    rcases Document.mem_inside.mp (hs.linked.mem_of_parent? hp) with hattr | hchild
    · exact (hs.linked.kinds_of_attribute hattr).2
    · rw [hs.linked.not_isAttribute_of_mem_children hchild] at ha
      simp at ha

section Performing

variable {action : Action} (hr : s.Ready) (hb : s.workspace.binding? h = some c)
  (ho : s.Offered h c action)

include hr hb ho

/-- Performing what is offered keeps bound elements where their constraints are. -/
theorem ready_perform : (s.perform action).1.Ready := by
  cases ho with
  | addSibling he hpe hmore =>
    obtain ⟨new, s', hadd, hready, -⟩ := addSibling_of_ready hr hb he hpe hmore
    rw [perform, hadd]
    exact hready
  | addChild he hcs hcan =>
    obtain ⟨new, s', hadd, hready, -⟩ := addChild_of_ready hr hb he hcs hcan
    rw [perform, hadd]
    exact hready
  | addAttribute he ha hnone =>
    obtain ⟨new, s', hadd, hready, -⟩ := addAttribute_of_ready hr hb he ha hnone
    rw [perform, hadd]
    exact hready
  | remove he hpe hfewer =>
    obtain ⟨s', hrem, hready, -⟩ := remove_of_ready hr hb he hpe hfewer
    rw [perform, hrem]
    exact hready
  | removeAttribute ha =>
    cases hpe : s.parentElement? h with
    | some p =>
      obtain ⟨s', hrem, hready, -⟩ := removeAttribute_of_ready hr ha hpe
      rw [perform, hrem]
      exact hready
    | none =>
      -- the attribute is not in the document, and its removal is refused
      have hsame : (s.removeNode h).1 = s := by
        rw [removeNode, hpe]
        split <;> rfl
      show (s.removeNode h).1.Ready
      rw [hsame]
      exact hr
  | chooseAlternative he hpe ha hne =>
    obtain ⟨new, s', xs, ys, hchoose, hready, -⟩ := chooseAlternative_of_ready hr hb he hpe ha hne
    rw [perform, hchoose]
    exact hready

/-- Performing what is offered succeeds and keeps the document conforming if no alternative is
chosen, and one element of each alternative is enough. -/
theorem isConforming_perform (hin : s.document.isAttached h = true)
    (hmin : ∀ i, s.workspace.model.isInChoice i = true → (s.workspace.model.occurs i).min ≤ 1)
    (hother : ∀ a p after replaced, action ≠ .chooseAlternative a p after replaced)
    (hconf : s.IsConforming) :
    (∃ r, (s.perform action).2 = .ok r) ∧ (s.perform action).1.IsConforming := by
  cases ho with
  | addSibling he hpe hmore =>
    obtain ⟨new, s', hadd, -, hkeeps⟩ := addSibling_of_ready hr hb he hpe hmore
    rw [perform, hadd]
    exact ⟨⟨some new, rfl⟩, hkeeps hconf⟩
  | addChild he hcs hcan =>
    obtain ⟨new, s', hadd, -, hkeeps⟩ := addChild_of_ready hr hb he hcs hcan
    rw [perform, hadd]
    exact ⟨⟨some new, rfl⟩, hkeeps (hmin _) hconf⟩
  | addAttribute he ha hnone =>
    obtain ⟨new, s', hadd, -, hkeeps⟩ := addAttribute_of_ready hr hb he ha hnone
    rw [perform, hadd]
    exact ⟨⟨some new, rfl⟩, hkeeps hconf⟩
  | remove he hpe hfewer =>
    obtain ⟨s', hrem, -, hkeeps⟩ := remove_of_ready hr hb he hpe hfewer
    rw [perform, hrem]
    exact ⟨⟨none, rfl⟩, hkeeps hconf⟩
  | removeAttribute ha =>
    obtain ⟨p, hpe⟩ := exists_parentElement? hr.tidy ha hin
    obtain ⟨s', hrem, -, hkeeps⟩ := removeAttribute_of_ready hr ha hpe
    rw [perform, hrem]
    exact ⟨⟨none, rfl⟩, hkeeps hconf⟩
  | chooseAlternative => exact absurd rfl (hother _ _ _ _)

end Performing

end Session

end GuidedXml
