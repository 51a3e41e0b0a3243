/-
# Reshaping

What an edit does to the elements of a document: it changes what is inside some of them, leaves all
others as they were, and adds good ones.

The main statements say that such a change keeps bound elements where their constraints are, and that
the document conforms afterwards if the elements that were changed still are as their constraints
say.
-/
import GuidedXml.Proofs.Conformance.Seats
import GuidedXml.Proofs.Editing.Drift

namespace GuidedXml.Session

open Schema (ConstraintId ContentModel)
open Document (Kept)

variable {s s' s'' : Session} {P D : Handle → Prop} {h k p : Handle} {i : ConstraintId}

/-! ## Conforming sessions -/

/-- The outermost element is bound to the constraint of the root, and every bound element sits where
its constraint is. -/
structure Seated (s : Session) : Prop where
  root : ∀ r, s.document.root? = some r →
    s.workspace.binding? r = some ContentModel.root
  nodes : s.workspace.Seated s.document

/-- There is one outermost element. It has the name of the root, and conforms to its constraint without
missing a choice that is required. -/
def IsConforming (s : Session) : Prop :=
  ∃ r, s.document.elements Document.top = [r] ∧
    s.document.name r = s.workspace.model.name ContentModel.root ∧
    s.document.Conforms .strict s.workspace.model s.workspace.whitelist r ContentModel.root

/-- The sessions differ neither in their documents nor in what nodes are bound to. -/
structure SameSeats (s s' : Session) : Prop where
  document : s'.document = s.document
  model : s'.workspace.model = s.workspace.model
  whitelist : s'.workspace.whitelist = s.workspace.whitelist
  binding? : ∀ h, s'.workspace.binding? h = s.workspace.binding? h

theorem Alike.sameSeats (ha : Alike s s') : SameSeats s s' :=
  ⟨ha.document, ha.workspace.model, ha.workspace.whitelist, ha.binding?⟩

theorem SameSeats.trans (h₁ : SameSeats s s') (h₂ : SameSeats s' s'') : SameSeats s s'' where
  document := h₂.document.trans h₁.document
  model := h₂.model.trans h₁.model
  whitelist := h₂.whitelist.trans h₁.whitelist
  binding? := fun h => (h₂.binding? h).trans (h₁.binding? h)

/-- Giving up offers binds no node otherwise. -/
theorem sameSeats_invalidate (s : Session) (h : Handle) :
    SameSeats s { s with workspace := s.workspace.invalidate s.document h } := by
  obtain ⟨hm, hwl, hb, -⟩ := foldl_invalidateNode (s.document.subtree h) s.workspace
  refine ⟨rfl, hm, hwl, ?_⟩
  intro k
  rw [Workspace.binding?, Workspace.binding?, Workspace.invalidate, hb]

/-- Showing offers binds no node otherwise. -/
theorem sameSeats_offers (s : Session) (h : Handle) : SameSeats s (s.offers h).1 := by
  unfold offers
  split
  · exact ⟨rfl, rfl, rfl, fun _ => rfl⟩
  · split
    · exact ⟨rfl, rfl, rfl, fun _ => rfl⟩
    · exact ⟨rfl, rfl, rfl, fun _ => rfl⟩

theorem SameSeats.seated (hsame : SameSeats s s') (hseat : s.Seated) : s'.Seated where
  root := by
    intro r hr
    rw [hsame.document] at hr
    rw [hsame.binding?, hseat.root r hr]
  nodes := by
    intro h i hi he
    rw [hsame.document] at he ⊢
    rw [hsame.binding?] at hi
    exact (hseat.nodes h i hi he).kept (Kept.refl _ h) hsame.model fun k _ => hsame.binding? k

theorem SameSeats.isConforming (hsame : SameSeats s s') (hconf : s.IsConforming) :
    s'.IsConforming := by
  obtain ⟨r, htop, hname, hconf⟩ := hconf
  refine ⟨r, ?_, ?_, ?_⟩
  · rw [hsame.document, htop]
  · rw [hsame.document, hsame.model, hname]
  · rw [hsame.document, hsame.model, hsame.whitelist]
    exact hconf

/-! ## Changes -/

/-- Of the nodes that are in both sessions, elements without the property are as they were, and those
with it got no elements that were elsewhere. New elements are good, with new elements inside. -/
structure Reshapes (P : Handle → Prop) (s s' : Session) : Prop where
  kind? : ∀ h, s.document.contains h = true → s'.document.contains h = true →
    s'.document.kind? h = s.document.kind? h
  name : ∀ h, s.document.contains h = true → s'.document.contains h = true →
    s'.document.name h = s.document.name h
  kept : ∀ h, s.document.contains h = true → s'.document.contains h = true → ¬ P h →
    Kept s.document s'.document h
  inside : ∀ p, P p → ∀ k ∈ s'.document.elements p, s.document.contains k = true →
    k ∈ s.document.elements p
  new : ∀ h, s.document.contains h = false → s'.document.isElement h = true →
    s'.workspace.IsGood .strict s'.document h ∧
      ∀ k ∈ s'.document.elements h, s.document.contains k = false

/-- A change can be followed by steps that touch neither documents nor bindings. -/
theorem Reshapes.sameSeats (hr : Reshapes P s s') (hsame : SameSeats s' s'') :
    Reshapes P s s'' := by
  refine ⟨?_, ?_, ?_, ?_, ?_⟩
  · rw [hsame.document]
    exact hr.kind?
  · rw [hsame.document]
    exact hr.name
  · rw [hsame.document]
    exact hr.kept
  · rw [hsame.document]
    exact hr.inside
  · rw [hsame.document]
    intro h hc he
    obtain ⟨hgood, hnew⟩ := hr.new h hc he
    exact ⟨hgood.kept (Kept.refl _ h) hsame.model hsame.whitelist (hsame.binding? h)
      fun k _ => hsame.binding? k, hnew⟩

section Drifting

variable (hr : Reshapes P s s') (hd : Drifts D s s')

include hr hd

/-- A change keeps all bound elements where their constraints are, if this is so for the elements
inside those that were changed. -/
theorem Reshapes.seated (hseat : s.workspace.Seated s.document)
    (hP : ∀ p, P p → s'.document.isElement p = true → ∀ i, s.workspace.binding? p = some i →
      ∀ k ∈ s'.document.elements p, ∃ j ∈ s.workspace.model.contentElements i,
        s'.workspace.binding? k = some j) : s'.workspace.Seated s'.document := by
  intro h i hi he
  have hc' := Document.contains_of_isElement he
  by_cases hc : s.document.contains h = true
  · have hold := hd.binding? h hc hc'
    rw [hi] at hold
    have he₀ : s.document.isElement h = true := by
      rwa [← Document.isElement_congr (hr.kind? h hc hc')]
    have hat := hseat h i hold.symm he₀
    by_cases hPh : P h
    · refine ⟨hd.model ▸ hat.kind?, ?_, ?_⟩
      · rw [hr.name h hc hc', hat.name, hd.model]
      · rw [hd.model]
        exact hP h hPh he i hold.symm
    · refine hat.kept (hr.kept h hc hc' hPh) hd.model ?_
      intro k hk
      have hkept := (hr.kept h hc hc' hPh).elements
      refine hd.binding? k (Document.contains_of_isElement (Document.mem_elements.mp hk).2) ?_
      exact Document.contains_of_isElement (Document.mem_elements.mp (hkept ▸ hk)).2
  · rw [Bool.not_eq_true] at hc
    obtain ⟨⟨i', hi', hat, -⟩, -⟩ := hr.new h hc he
    obtain rfl := Option.some.inj (hi.symm.trans hi')
    exact hat

/-- New elements conform. -/
theorem Reshapes.conforms_new (htree : s.workspace.model.TreeShaped)
    (hflat : s.workspace.model.FlatUnambiguous) (hc : s.document.contains h = false)
    (he : s'.document.isElement h = true) (hi : s'.workspace.binding? h = some i) :
    s'.document.Conforms .strict s'.workspace.model s'.workspace.whitelist h i := by
  rw [← hd.model] at htree hflat
  refine Workspace.conforms_of_good hd.tidy.orderly.forest htree hflat
    (P := fun h => s.document.contains h = false ∧ s'.document.isElement h = true) ?_ ?_ ⟨hc, he⟩ hi
  · exact fun h hh => (hr.new h hh.1 hh.2).1
  · intro h hh k hk
    exact ⟨(hr.new h hh.1 hh.2).2 k hk, (Document.mem_elements.mp hk).2⟩

/-- Elements that conformed still do, if those that were changed are as their constraints say. -/
theorem Reshapes.conforms (htree : s.workspace.model.TreeShaped)
    (hflat : s.workspace.model.FlatUnambiguous) (hseat : s.workspace.Seated s.document)
    (hseat' : s'.workspace.Seated s'.document)
    (hP : ∀ p, P p → s'.document.isElement p = true → ∀ i, s.workspace.binding? p = some i →
      s.document.Suits .strict s.workspace.model s.workspace.whitelist p i →
      s'.document.Suits .strict s.workspace.model s.workspace.whitelist p i)
    (hconf : s.document.Conforms .strict s.workspace.model s.workspace.whitelist h i)
    (hi : s.workspace.binding? h = some i) (he : s.document.isElement h = true)
    (hc' : s'.document.contains h = true) :
    s'.document.Conforms .strict s'.workspace.model s'.workspace.whitelist h i := by
  -- by induction on what conforms; new elements inside conform because they are good
  induction hconf with
  | @intro h i hsuits hbelow ih =>
    have hc := Document.contains_of_isElement he
    have he' : s'.document.isElement h = true := by
      rwa [Document.isElement_congr (hr.kind? h hc hc')]
    have hat := hseat h i hi he
    have hi' : s'.workspace.binding? h = some i := (hd.binding? h hc hc').trans hi
    have hat' := hseat' h i hi' he'
    have hcontent := ContentModel.isContent_contentElements htree hflat hat.kind?
    rw [hd.model, hd.whitelist]
    constructor
    · by_cases hPh : P h
      · exact hP h hPh he' i hi hsuits
      · exact hsuits.kept (hr.kept h hc hc' hPh)
    · intro k hk j hj hname
      obtain ⟨j', hj', hb'⟩ := hat'.inside k hk
      have hke' := (Document.mem_elements.mp hk).2
      have hkc' := Document.contains_of_isElement hke'
      -- the names of a content are distinct, so the element is bound to the constraint of its name
      have hjj : j = j' := by
        rw [hd.model] at hj'
        refine hcontent.name_inj hj hj' ?_
        rw [hname, (hseat' k j' hb' hke').name, hd.model]
      subst hjj
      rw [← hd.model, ← hd.whitelist]
      by_cases hkc : s.document.contains k = true
      · have hke : s.document.isElement k = true := by
          rwa [← Document.isElement_congr (hr.kind? k hkc hkc')]
        have hkh : k ∈ s.document.elements h := by
          by_cases hPh : P h
          · exact hr.inside h hPh k hk hkc
          · rwa [← (hr.kept h hc hc' hPh).elements]
        have hb : s.workspace.binding? k = some j := (hd.binding? k hkc hkc').symm.trans hb'
        exact ih k hkh j hj (hname.trans (hr.name k hkc hkc')) hb hke hkc'
      · rw [Bool.not_eq_true] at hkc
        exact hr.conforms_new hd htree hflat hkc hke' hb'

/-- A change of what is inside elements can be followed by another one. -/
theorem Reshapes.trans {E : Handle → Prop} (hr' : Reshapes P s' s'') (hd' : Drifts E s' s'')
    (hP : ∀ h, P h → s.document.contains h = true) : Reshapes P s s'' := by
  -- a node that is in the first and the last session is in the one between them
  have hmid : ∀ h, s.document.contains h = true → s''.document.contains h = true →
      s'.document.contains h = true := by
    intro h hc hc''
    have hlt := Document.index_lt_of_contains hc
    exact hd'.dead h (Nat.lt_of_lt_of_le hlt hd.size) hc''
  refine ⟨?_, ?_, ?_, ?_, ?_⟩
  · intro h hc hc''
    have hc' := hmid h hc hc''
    rw [hr'.kind? h hc' hc'', hr.kind? h hc hc']
  · intro h hc hc''
    have hc' := hmid h hc hc''
    rw [hr'.name h hc' hc'', hr.name h hc hc']
  · intro h hc hc'' hPh
    have hc' := hmid h hc hc''
    exact (hr.kept h hc hc' hPh).trans (hr'.kept h hc' hc'' hPh)
  · intro p hp k hk hc
    have hc'' := Document.contains_of_isElement (Document.mem_elements.mp hk).2
    exact hr.inside p hp k (hr'.inside p hp k hk (hmid k hc hc'')) hc
  · intro h hc he
    have hc'' := Document.contains_of_isElement he
    -- new already after the first change, or only after the second one
    by_cases hc' : s'.document.contains h = true
    · have hPh : ¬ P h := by
        intro hp
        rw [hP h hp] at hc
        simp at hc
      have hkept := hr'.kept h hc' hc'' hPh
      have he' : s'.document.isElement h = true := by
        rwa [← Document.isElement_congr (hr'.kind? h hc' hc'')]
      obtain ⟨hgood, hnew⟩ := hr.new h hc he'
      refine ⟨hgood.kept hkept hd'.model hd'.whitelist (hd'.binding? h hc' hc'') ?_, ?_⟩
      · intro k hk
        refine hd'.binding? k ?_ ?_
        · exact Document.contains_of_isElement (Document.mem_elements.mp hk).2
        · rw [← hkept.elements] at hk
          exact Document.contains_of_isElement (Document.mem_elements.mp hk).2
      · intro k hk
        rw [hkept.elements] at hk
        exact hnew k hk
    · rw [Bool.not_eq_true] at hc'
      obtain ⟨hgood, hnew⟩ := hr'.new h hc' he
      refine ⟨hgood, ?_⟩
      intro k hk
      by_contra hkc
      rw [Bool.not_eq_false] at hkc
      have hk' := hmid k hkc (Document.contains_of_isElement (Document.mem_elements.mp hk).2)
      rw [hnew k hk] at hk'
      simp at hk'

end Drifting

/-! ## The outermost element -/

section Rooted

variable (hr : Reshapes P s s') (hd : Drifts D s s') (hs : s.Tidy) (hP : ¬ P Document.top)

include hr hd hs hP

/-- The outermost element stays the same if only what is inside elements changes. -/
theorem Reshapes.elements_top :
    s'.document.elements Document.top = s.document.elements Document.top :=
  (hr.kept Document.top hs.linked.contains_top hd.tidy.linked.contains_top hP).elements

/-- The outermost element stays bound to the constraint of the root. -/
theorem Reshapes.seated_root (hseat : s.Seated)
    (hnodes : s'.workspace.Seated s'.document) : s'.Seated where
  nodes := hnodes
  root := by
    have htop := hr.elements_top hd hs hP
    intro r hroot
    have hmem' := List.mem_of_head? hroot
    have hmem := hmem'
    rw [htop] at hmem
    rw [Document.root?, htop] at hroot
    have hc := Document.contains_of_isElement (Document.mem_elements.mp hmem).2
    have hc' := Document.contains_of_isElement (Document.mem_elements.mp hmem').2
    rw [hd.binding? r hc hc', hseat.root r hroot]

/-- A session stays conforming if the elements that were changed still are as their constraints
say. -/
theorem Reshapes.isConforming (htree : s.workspace.model.TreeShaped)
    (hflat : s.workspace.model.FlatUnambiguous) (hseat : s.Seated) (hseat' : s'.Seated)
    (hsuits : ∀ p, P p → s'.document.isElement p = true →
      ∀ i, s.workspace.binding? p = some i →
        s.document.Suits .strict s.workspace.model s.workspace.whitelist p i →
        s'.document.Suits .strict s.workspace.model s.workspace.whitelist p i)
    (hconf : s.IsConforming) : s'.IsConforming := by
  obtain ⟨r, htop, hname, hconf⟩ := hconf
  have htop' := (hr.elements_top hd hs hP).trans htop
  have hmem : r ∈ s.document.elements Document.top := by rw [htop]; exact List.mem_singleton_self r
  have hmem' : r ∈ s'.document.elements Document.top := by
    rw [htop']
    exact List.mem_singleton_self r
  have he := (Document.mem_elements.mp hmem).2
  have hc' := Document.contains_of_isElement (Document.mem_elements.mp hmem').2
  refine ⟨r, htop', ?_, ?_⟩
  · rw [hr.name r (Document.contains_of_isElement he) hc', hname, hd.model]
  · refine hr.conforms hd htree hflat hseat.nodes hseat'.nodes hsuits hconf ?_ he hc'
    exact hseat.root r (by rw [Document.root?, htop]; rfl)

end Rooted

end GuidedXml.Session
