/-
# Splicing

Edits put a new element between the children of an element, take one out, or give or take an
attribute. Nothing else changes among the nodes that stay.

The main statements say that such an edit keeps bound elements where their constraints are, and when
the document still conforms after it.
-/
import GuidedXml.Proofs.Conformance.Creation
import GuidedXml.Proofs.Conformance.Reshaping
import GuidedXml.Proofs.Editing.Edits

namespace GuidedXml

open Schema (ConstraintId ContentModel)

/-! ## Names among nodes -/

namespace Document

variable {d d' : Document} {h : Handle} {hs xs ys as bs : List Handle}

/-- The names of the elements among nodes. -/
def namesAmong (d : Document) (hs : List Handle) : List String :=
  (hs.filter d.isElement).map d.name

theorem namesAmong_append : d.namesAmong (xs ++ ys) = d.namesAmong xs ++ d.namesAmong ys := by
  rw [namesAmong, List.filter_append, List.map_append]
  rfl

theorem namesAmong_cons (he : d.isElement h = true) :
    d.namesAmong (h :: hs) = d.name h :: d.namesAmong hs := by
  rw [namesAmong, List.filter_cons_of_pos he]
  rfl

theorem namesAmong_congr (hk : ∀ k ∈ hs, d'.kind? k = d.kind? k ∧ d'.name k = d.name k) :
    d'.namesAmong hs = d.namesAmong hs := by
  have hkinds : hs.filter d'.isElement = hs.filter d.isElement := by
    apply List.filter_congr
    intro k hkm
    exact isElement_congr (hk k hkm).1
  rw [namesAmong, namesAmong, hkinds]
  apply List.map_congr_left
  intro k hkm
  exact (hk k (List.mem_filter.mp hkm).1).2

/-- Only the one node is taken out of a list without repetitions. -/
theorem filter_ne_of_nodup (hnd : (xs ++ h :: ys).Nodup) :
    (xs ++ h :: ys).filter (· ≠ h) = xs ++ ys := by
  rw [List.nodup_middle, List.nodup_cons] at hnd
  have hkeep : (xs ++ ys).filter (· ≠ h) = xs ++ ys := by
    rw [List.filter_eq_self]
    intro k hk
    rw [decide_eq_true_eq]
    rintro rfl
    exact hnd.1 hk
  rw [List.filter_append] at hkeep ⊢
  rw [List.filter_cons_of_neg (by simp), hkeep]

/-- Behind the last node with a property none has it. -/
theorem eq_false_of_getLast?_filter {f : Handle → Bool} (hnd : (xs ++ ys).Nodup)
    (hlast : xs.getLast? = ((xs ++ ys).filter f).getLast?) : ∀ y ∈ ys, f y = false := by
  intro y hy
  by_contra hf
  rw [Bool.not_eq_false] at hf
  have hne : ys.filter f ≠ [] := List.ne_nil_of_mem (List.mem_filter.mpr ⟨hy, hf⟩)
  rw [List.filter_append, List.getLast?_append_of_ne_nil _ hne] at hlast
  cases hz : (ys.filter f).getLast? with
  | none => exact hne (List.getLast?_eq_none_iff.mp hz)
  | some z =>
    rw [hz] at hlast
    have hzx := List.mem_of_getLast? hlast
    have hzy := (List.mem_filter.mp (List.mem_of_getLast? hz)).1
    exact (List.nodup_append.mp hnd).2.2 z hzx z hzy rfl

/-- A list is split in one way behind the last node of its first part. -/
theorem eq_of_getLast?_eq (hnd : (as ++ bs).Nodup)
    (heq : xs ++ ys = as ++ bs) (hlast : xs.getLast? = as.getLast?) : xs = as ∧ ys = bs := by
  -- no node is listed twice, so the last node of the first part is found at one place only
  cases hq : as.getLast? with
  | none =>
    obtain rfl := List.getLast?_eq_none_iff.mp hq
    obtain rfl := List.getLast?_eq_none_iff.mp (hlast.trans hq)
    exact ⟨rfl, heq⟩
  | some q =>
    obtain ⟨as, rfl⟩ := List.getLast?_eq_some_iff.mp hq
    obtain ⟨xs, rfl⟩ := List.getLast?_eq_some_iff.mp (hlast.trans hq)
    rw [List.append_assoc] at hnd heq
    rw [List.append_assoc] at heq
    obtain ⟨rfl, rfl⟩ := split_unique hnd heq.symm
    exact ⟨rfl, rfl⟩

/-- Where no run of a name is found, no element has it. -/
theorem name_ne_of_firstRun {name : String} (hz : d.firstRun name hs = 0) (hh : h ∈ hs)
    (he : d.isElement h = true) : d.name h ≠ name := by
  have hmem : h ∈ hs.filter d.isElement := List.mem_filter.mpr ⟨hh, he⟩
  simp only [firstRun] at hz
  generalize hs.filter d.isElement = es at hz hmem
  induction es with
  | nil => simp at hmem
  | cons x es ih =>
    by_cases hx : d.name x = name
    · simp [hx] at hz
    · rcases List.mem_cons.mp hmem with rfl | hmem
      · exact hx
      · refine ih ?_ hmem
        simpa [List.dropWhile_cons, hx] using hz

end Document

namespace Session

open Workspace (Grows)

variable {s s' s'' : Session} {h k p new : Handle} {c i : ConstraintId} {xs ys : List Handle}

/-! ## Changes inside one element -/

/-- An edit changed what is inside one element. -/
structure Splices (p : Handle) (s s' : Session) : Prop where
  parent : s.document.isElement p = true
  drifts : Drifts (fun _ => False) s s'
  reshapes : Reshapes (· = p) s s'

namespace Splices

theorem ne_top (hp : Splices p s s') (hs : s.Tidy) : ¬ Document.top = p := by
  rintro rfl
  have he := hp.parent
  rw [hs.linked.isElement_top] at he
  simp at he

theorem trans (h₁ : Splices p s s') (h₂ : Splices p s' s'') : Splices p s s'' where
  parent := h₁.parent
  drifts := h₁.drifts.clean h₂.drifts
  reshapes := by
    refine h₁.reshapes.trans h₁.drifts h₂.reshapes h₂.drifts ?_
    rintro h rfl
    exact Document.contains_of_isElement h₁.parent

/-- Bound elements stay where their constraints are if the new elements inside are bound to elements
of the content. -/
theorem seated (hp : Splices p s s') (hs : s.Tidy) (hseat : s.Seated)
    (hnew : ∀ i, s.workspace.binding? p = some i → ∀ k ∈ s'.document.elements p,
      s.document.contains k = false → ∃ j ∈ s.workspace.model.contentElements i,
        s'.workspace.binding? k = some j) : s'.Seated := by
  refine hp.reshapes.seated_root hp.drifts hs (hp.ne_top hs) hseat ?_
  refine hp.reshapes.seated hp.drifts hseat.nodes ?_
  rintro p rfl - i hi k hk
  -- what was inside before is bound as it was
  by_cases hc : s.document.contains k = true
  · have hc' := Document.contains_of_isElement (Document.mem_elements.mp hk).2
    have hold := hp.reshapes.inside p rfl k hk hc
    obtain ⟨j, hj, hb⟩ := (hseat.nodes p i hi hp.parent).inside k hold
    exact ⟨j, hj, (hp.drifts.binding? k hc hc').trans hb⟩
  · rw [Bool.not_eq_true] at hc
    exact hnew i hi k hk hc

/-- The document still conforms if the element still is as its constraint says. -/
theorem isConforming (hp : Splices p s s') (hs : s.Tidy) (htree : s.workspace.model.TreeShaped)
    (hflat : s.workspace.model.FlatUnambiguous) (hseat : s.Seated) (hseat' : s'.Seated)
    (hsuits : ∀ i, s.workspace.binding? p = some i →
      s.document.Suits .strict s.workspace.model s.workspace.whitelist p i →
      s'.document.Suits .strict s.workspace.model s.workspace.whitelist p i)
    (hconf : s.IsConforming) : s'.IsConforming := by
  refine hp.reshapes.isConforming hp.drifts hs (hp.ne_top hs) htree hflat hseat hseat' ?_ hconf
  rintro p rfl - i hi
  exact hsuits i hi

end Splices

/-! ## Additions and removals -/

/-- A new element of the constraint was put between the children of an element, in the place of those
that are gone. -/
structure Placed (s s' : Session) (p new : Handle) (c : ConstraintId) (xs gone ys : List Handle) :
    Prop extends Splices p s s' where
  unknown : s.document.contains new = false
  isElement : s'.document.isElement new = true
  binding? : s'.workspace.binding? new = some c
  before : s.document.children p = xs ++ (gone ++ ys)
  after : s'.document.children p = xs ++ new :: ys
  attributes : ∀ a ∈ s'.document.attributes p, a ∈ s.document.attributes p

/-- A node was taken out of an element. -/
structure Removed (s s' : Session) (p h : Handle) : Prop extends Splices p s s' where
  children : s'.document.children p = (s.document.children p).filter (· ≠ h)
  attributes : ∀ a ∈ s'.document.attributes p, a ∈ s.document.attributes p

/-- An attribute of a constraint was given to an element that had none of its name. -/
structure Declared (s s' : Session) (p : Handle) (c : ConstraintId) : Prop
    extends Splices p s s' where
  children : s'.document.children p = s.document.children p
  attributes : ∀ a ∈ s'.document.attributes p, a ∈ s.document.attributes p ∨
    s'.document.name a = s.workspace.model.name c

namespace Splices

variable (hp : Splices p s s') (hs : s.Tidy)

include hp hs

/-- Nodes listed before and after an edit have the kinds and names that they had. -/
theorem same_of_mem (hk : k ∈ s.document.inside p) (hk' : k ∈ s'.document.inside p) :
    s'.document.kind? k = s.document.kind? k ∧ s'.document.name k = s.document.name k := by
  have hc := hs.linked.contains_of_mem hk
  have hc' := hp.drifts.tidy.linked.contains_of_mem hk'
  exact ⟨hp.reshapes.kind? k hc hc', hp.reshapes.name k hc hc'⟩

/-- Attributes that were there stay as the constraint says. -/
theorem attribute_declared {a : Handle}
    (hsuits : s.document.Suits .strict s.workspace.model s.workspace.whitelist p i)
    (ha : a ∈ s.document.attributes p) (ha' : a ∈ s'.document.attributes p) :
    (∃ j ∈ s.workspace.model.attributes i, s.workspace.model.name j = s'.document.name a) ∨
      s'.document.name a ∈ s.workspace.whitelist := by
  rw [(hp.same_of_mem hs (Document.mem_inside.mpr (Or.inl ha))
    (Document.mem_inside.mpr (Or.inl ha'))).2]
  exact hsuits.attributes a ha

/-- Where children only went, bound elements stay where their constraints are. -/
theorem seated_of_subset (hsub : ∀ k ∈ s'.document.children p, k ∈ s.document.children p)
    (hseat : s.Seated) : s'.Seated := by
  refine hp.seated hs hseat ?_
  intro i _ k hk hnew
  have hold := Document.mem_inside.mpr (Or.inr (hsub k (Document.mem_elements.mp hk).1))
  rw [hs.linked.contains_of_mem hold] at hnew
  simp at hnew

/-- Where children only went, those that are left have the names that they had. -/
theorem names_of_subset (hsub : ∀ k ∈ s'.document.children p, k ∈ s.document.children p) :
    (s'.document.elements p).map s'.document.name =
      s.document.namesAmong (s'.document.children p) := by
  show s'.document.namesAmong (s'.document.children p) = _
  apply Document.namesAmong_congr
  intro k hk
  exact hp.same_of_mem hs (Document.mem_inside.mpr (Or.inr (hsub k hk)))
    (Document.mem_inside.mpr (Or.inr hk))

end Splices

namespace Placed

variable {gone : List Handle} (ha : Placed s s' p new c xs gone ys) (hs : s.Tidy)

include ha hs

/-- The new element has the name of its constraint, and the others have the names that they had. -/
theorem names : (s'.document.elements p).map s'.document.name =
    s.document.namesAmong xs ++ s.workspace.model.name c :: s.document.namesAmong ys := by
  obtain ⟨⟨j, hj, hseat, -⟩, -⟩ := ha.reshapes.new new ha.unknown ha.isElement
  obtain rfl := Option.some.inj (ha.binding?.symm.trans hj)
  have hsame : ∀ k, k ∈ xs ∨ k ∈ ys → s'.document.kind? k = s.document.kind? k ∧
      s'.document.name k = s.document.name k := by
    intro k hk
    refine ha.same_of_mem hs ?_ ?_
    · rw [Document.mem_inside, ha.before]
      refine Or.inr ?_
      rcases hk with hk | hk
      · exact List.mem_append_left _ hk
      · exact List.mem_append_right _ (List.mem_append_right _ hk)
    · rw [Document.mem_inside, ha.after]
      refine Or.inr ?_
      rcases hk with hk | hk
      · exact List.mem_append_left _ hk
      · exact List.mem_append_right _ (List.mem_cons_of_mem _ hk)
  show s'.document.namesAmong (s'.document.children p) = _
  rw [ha.after, Document.namesAmong_append, Document.namesAmong_cons ha.isElement, hseat.name,
    ha.drifts.model, Document.namesAmong_congr fun k hk => hsame k (Or.inl hk),
    Document.namesAmong_congr fun k hk => hsame k (Or.inr hk)]

/-- Bound elements stay where their constraints are if the constraint is one of the content. -/
theorem seated_of_mem (hseat : s.Seated)
    (hc : ∀ i, s.workspace.binding? p = some i → c ∈ s.workspace.model.contentElements i) :
    s'.Seated := by
  refine ha.seated hs hseat ?_
  intro i hi k hk hnew
  have hmem := (Document.mem_elements.mp hk).1
  rw [ha.after] at hmem
  -- every other child was there before
  have hkn : k = new := by
    by_contra hne
    have hold : k ∈ s.document.children p := by
      rw [ha.before]
      rcases List.mem_append.mp hmem with hmem | hmem
      · exact List.mem_append_left _ hmem
      · refine List.mem_append_right _ (List.mem_append_right _ ?_)
        exact (List.mem_cons.mp hmem).resolve_left hne
    rw [hs.linked.contains_of_mem (Document.mem_inside.mpr (Or.inr hold))] at hnew
    simp at hnew
  exact ⟨c, hc i hi, hkn ▸ ha.binding?⟩

/-- The element still is as its constraint says exactly if the names still fill the content. -/
theorem suits_iff (hsuits : s.document.Suits .strict s.workspace.model s.workspace.whitelist p i) :
    s'.document.Suits .strict s.workspace.model s.workspace.whitelist p i ↔
      ContentModel.Fills .strict s.workspace.model (s.workspace.model.contentElements i)
        (s.document.namesAmong xs ++ s.workspace.model.name c :: s.document.namesAmong ys) := by
  have hnames := ha.names hs
  constructor
  · intro hsuits'
    rw [← hnames]
    exact hsuits'.content
  · intro hf
    refine ⟨?_, ?_⟩
    · intro a ham
      exact ha.attribute_declared hs hsuits (ha.attributes a ham) ham
    · rw [hnames]
      exact hf

end Placed

/-- Steps that touch neither documents nor bindings can follow. -/
theorem Placed.sameSeats {gone : List Handle} (ha : Placed s s' p new c xs gone ys)
    (hsame : SameSeats s' s'') (hd : Drifts (fun _ => False) s s'') :
    Placed s s'' p new c xs gone ys := by
  refine ⟨⟨ha.parent, hd, ha.reshapes.sameSeats hsame⟩, ha.unknown, ?_, ?_, ha.before, ?_, ?_⟩
  · rw [hsame.document, ha.isElement]
  · rw [hsame.binding?, ha.binding?]
  · rw [hsame.document, ha.after]
  · rw [hsame.document]
    exact ha.attributes

/-- A new element is in the place of an old one once that is removed from behind it. -/
theorem Placed.remove (ha : Placed s s' p new c xs [] (h :: ys)) (hr : Removed s' s'' p h) :
    Placed s s'' p new c xs [h] ys := by
  have hnd := ha.drifts.tidy.linked.nodup_children p
  have hsplit : s'.document.children p = (xs ++ [new]) ++ h :: ys := by
    rw [ha.after, List.append_assoc]
    rfl
  have hafter : s''.document.children p = xs ++ new :: ys := by
    rw [hsplit] at hnd
    rw [hr.children, hsplit, Document.filter_ne_of_nodup hnd, List.append_assoc]
    rfl
  have hlive := Document.contains_of_isElement ha.isElement
  have hlive' : s''.document.contains new = true := by
    refine hr.drifts.tidy.linked.contains_of_mem (h := p) (Document.mem_inside.mpr (Or.inr ?_))
    rw [hafter]
    exact List.mem_append_right _ (List.mem_cons_self ..)
  refine ⟨ha.toSplices.trans hr.toSplices, ha.unknown, ?_, ?_, ha.before, hafter, ?_⟩
  · rw [Document.isElement_congr (hr.reshapes.kind? new hlive hlive'), ha.isElement]
  · rw [hr.drifts.binding? new hlive hlive', ha.binding?]
  · exact fun a ham => ha.attributes a (hr.attributes a ham)

namespace Removed

variable (hr : Removed s s' p h) (hs : s.Tidy)

include hr hs

/-- Bound elements stay where their constraints are. -/
theorem seated_of_seated (hseat : s.Seated) : s'.Seated := by
  refine hr.seated_of_subset hs ?_ hseat
  intro k hk
  rw [hr.children] at hk
  exact (List.mem_filter.mp hk).1

/-- The element still is as its constraint says if the names that are left still fill the
content. -/
theorem suits (hsuits : s.document.Suits .strict s.workspace.model s.workspace.whitelist p i)
    (hf : ContentModel.Fills .strict s.workspace.model (s.workspace.model.contentElements i)
      (s.document.namesAmong ((s.document.children p).filter (· ≠ h)))) :
    s'.document.Suits .strict s.workspace.model s.workspace.whitelist p i where
  attributes := by
    intro a ha
    exact hr.attribute_declared hs hsuits (hr.attributes a ha) ha
  content := by
    rw [hr.names_of_subset hs, hr.children]
    · exact hf
    · intro k hk
      rw [hr.children] at hk
      exact (List.mem_filter.mp hk).1

end Removed

namespace Declared

variable (hd : Declared s s' p c) (hs : s.Tidy)

include hd hs

/-- Bound elements stay where their constraints are. -/
theorem seated_of_seated (hseat : s.Seated) : s'.Seated := by
  refine hd.seated_of_subset hs ?_ hseat
  intro k hk
  rwa [hd.children] at hk

/-- The element still is as its constraint says if that declares the attribute. -/
theorem suits (hsuits : s.document.Suits .strict s.workspace.model s.workspace.whitelist p i)
    (hc : c ∈ s.workspace.model.attributes i) :
    s'.document.Suits .strict s.workspace.model s.workspace.whitelist p i where
  attributes := by
    intro a ha
    rcases hd.attributes a ha with hold | hname
    · exact hd.attribute_declared hs hsuits hold ha
    · exact Or.inl ⟨c, hc, hname.symm⟩
  content := by
    rw [hd.names_of_subset hs, hd.children]
    · exact hsuits.content
    · intro k hk
      rwa [hd.children] at hk

end Declared

end Session

end GuidedXml
