/-
# What successful binding guarantees

Where an element was bound, every element of its subtree is bound to a constraint that it fits, and
the elements inside it are bound along the content of that constraint. Failed attempts on the way
leave nothing behind. Binding passes over texts, and over attributes that are whitelisted and not
declared; these stay as they were, or are unbound because an attempt failed.

The main statement says this for every content model and every document. A node that binding passes
over may stay bound to what an earlier binding gave it, so an undeclared attribute need not be
unbound.
-/
import GuidedXml.Proofs.Conformance.Seating
import GuidedXml.Proofs.Document.Arena
import GuidedXml.Proofs.Editing.Claiming
import GuidedXml.Proofs.Editing.Region
import Mathlib.Data.List.TakeWhile

namespace GuidedXml

open Document (Within SameRegion)
open Schema (ConstraintId ContentModel)

/-! ## Lines of claims -/

namespace Claims

variable {c : Claims} {q : Handle → Bool} {h : Handle}

/-- A claim changes nothing for the other nodes in a line. -/
theorem filter_register (hq : q h = false) (name other : String) :
    ((c.register name h).candidates other).filter q = (c.candidates other).filter q := by
  rw [candidates_register]
  split_ifs with hjoin
  · rw [hjoin.1, List.filter_append, List.filter_singleton, hq]
    simp
  · rfl

/-- A withdrawal changes nothing for the other nodes in a line. -/
theorem filter_release (hq : q h = false) (name other : String) :
    ((c.release name h).1.candidates other).filter q = (c.candidates other).filter q := by
  rw [candidates_release]
  split_ifs with hn
  · rw [hn, ← List.erase_filter, List.erase_of_not_mem]
    simp [hq]
  · rfl

end Claims

/-! ## Elements along a content -/

namespace Schema.ContentModel

variable {m : ContentModel} {cs is : List ConstraintId} {i : ConstraintId}

/-- The constraints of the elements inside, one after the other, go along the content of the
constraint and leave out nothing that has to be there. -/
structure Aligned (m : ContentModel) (i : ConstraintId) (is : List ConstraintId) : Prop where
  mem : ∀ j ∈ is, j ∈ m.contentElements i
  ordered : is.Pairwise fun j k => (m.contentElements i).idxOf j ≤ (m.contentElements i).idxOf k
  required : ∀ j ∈ m.contentElements i, (m.occurs j).min ≠ 0 → m.isInChoice j = false → j ∈ is

end Schema.ContentModel

namespace Workspace

variable {d e : Document} {m : ContentModel} {v w w' : Workspace} {h k : Handle}
  {c i : ConstraintId} {cs is : List ConstraintId} {as : List Handle} {P : Handle → Prop}

namespace Along

/-- What was taken is in the order of the content, in whatever way that is put. -/
theorem pairwise (ha : Along m cs is) {r : ConstraintId → ConstraintId → Prop}
    (hrefl : ∀ c, r c c) (hcs : cs.Pairwise r) : is.Pairwise r := by
  induction ha with
  | done _ => exact List.Pairwise.nil
  | @taken c cs is n hrest ih =>
    obtain ⟨hfirst, htail⟩ := List.pairwise_cons.mp hcs
    have hsub := List.dropWhile_sublist (l := cs) (m.alternatives c).contains
    refine List.pairwise_append.mpr ⟨?_, ih (htail.sublist hsub), ?_⟩
    · exact List.pairwise_replicate.mpr (Or.inr (hrefl c))
    · intro a ha b hb
      rw [List.eq_of_mem_replicate ha]
      exact hfirst b (hsub.subset (hrest.mem b hb))
  | passed _ _ ih => exact ih (List.pairwise_cons.mp hcs).2

/-- Nothing is left out that has to be there. -/
theorem required (ha : Along m cs is) (hm : m.TreeShaped) (hi : i ∈ cs)
    (hmin : (m.occurs i).min ≠ 0) (hin : m.isInChoice i = false) : i ∈ is := by
  induction ha with
  | done hall => exact absurd (hall i hi) hmin
  | @taken c cs is n hrest ih =>
    refine List.mem_append.mpr ?_
    rcases List.mem_cons.mp hi with rfl | hi
    · exact Or.inl (List.mem_replicate.mpr ⟨Nat.succ_ne_zero n, rfl⟩)
    · rw [← List.takeWhile_append_dropWhile (p := (m.alternatives c).contains) (l := cs)] at hi
      rcases List.mem_append.mp hi with hi | hi
      · -- what is dropped is in a choice
        have halt := List.contains_iff_mem.mp (List.mem_takeWhile_imp hi)
        have hself : i ∈ m.alternatives i := hm.alternatives_congr halt ▸ halt
        rw [ContentModel.isInChoice_of_mem_alternatives hself] at hin
        simp at hin
      · exact Or.inr (ih hi)
  | @passed c cs is hdisp _ ih =>
    rcases List.mem_cons.mp hi with rfl | hi
    · rw [isDispensable, hin, Bool.or_false, decide_eq_true_eq] at hdisp
      exact absurd hdisp hmin
    · exact ih hi

theorem aligned (hm : m.TreeShaped) (ha : Along m (m.contentElements i) is) : m.Aligned i is where
  mem := ha.mem
  ordered := by
    refine ha.pairwise (fun _ => Nat.le_refl _) ?_
    rw [List.pairwise_iff_getElem]
    intro a b hla hlb hab
    rw [(hm.nodup_contentElements i).idxOf_getElem a hla,
      (hm.nodup_contentElements i).idxOf_getElem b hlb]
    exact Nat.le_of_lt hab
  required := fun _ hj hmin hin => ha.required hm hj hmin hin

end Along

/-! ## What binding leaves alone -/

/-- The second workspace differs from the first one in the bindings and the claims of nodes with the
property alone: in the line of each name the other nodes stand as they stood. -/
structure Touches (P : Handle → Prop) (w w' : Workspace) : Prop extends Rebinds P w w' where
  line : ∀ q : Handle → Bool, (∀ k, P k → q k = false) → ∀ name,
    (w'.claims.candidates name).filter q = (w.claims.candidates name).filter q

theorem touches_bindNode (w : Workspace) (d : Document) (h : Handle) (c : ConstraintId) :
    Touches (· = h) w (w.bindNode d h c) where
  toRebinds := rebinds_bindNode w d h c
  line := by
    intro q hq name
    rw [bindNode]
    dsimp only
    split_ifs
    · exact Claims.filter_register (hq h rfl) ..
    · rfl

theorem touches_unbindNode (w : Workspace) (d : Document) (h : Handle) :
    Touches (· = h) w (w.unbindNode d h) where
  toRebinds := rebinds_unbindNode w d h
  line := by
    intro q hq name
    rw [unbindNode]
    split_ifs
    · exact Claims.filter_release (hq h rfl) ..
    · rfl

theorem tracks_touches (d : Document) : Tracks d Touches where
  refl := fun P w => ⟨Rebinds.refl P w, fun _ _ _ => rfl⟩
  trans := fun h₁ h₂ => ⟨h₁.toRebinds.trans h₂.toRebinds, fun q hq name =>
    (h₂.line q hq name).trans (h₁.line q hq name)⟩
  mono := fun hr hPQ => ⟨hr.toRebinds.mono hPQ, fun q hq => hr.line q fun k hk => hq k (hPQ k hk)⟩
  bindNode := fun w h c => touches_bindNode w d h c
  unbindNode := fun w h => touches_unbindNode w d h

/-- A node that was not touched claims what it claimed. -/
theorem Touches.mem_candidates_iff (ht : Touches P w w') (hk : ¬ P k) (name : String) :
    k ∈ w'.claims.candidates name ↔ k ∈ w.claims.candidates name := by
  have hline := ht.line (fun x => decide (x = k)) (fun x hx => by
    rw [decide_eq_false_iff_not]
    rintro rfl
    exact hk hx) name
  have hfilter : ∀ l : List Handle, k ∈ l ↔ k ∈ l.filter fun x => decide (x = k) := by simp
  rw [hfilter, hline, ← hfilter]

/-! ## Single nodes -/

/-- The node is bound to the constraint, and claims its value if values under the constraint are
names. -/
structure Vouched (w : Workspace) (d : Document) (k : Handle) (i : ConstraintId) : Prop where
  binding? : w.binding? k = some i
  claims : w.isNaming i = true → d.value k ≠ "" → k ∈ w.claims.candidates (d.value k)

/-- The node is unbound, or bound and in the lines of the same names as before. -/
def Rests (v w : Workspace) (k : Handle) : Prop :=
  w.binding? k = none ∨ w.binding? k = v.binding? k ∧
    ∀ name, k ∈ w.claims.candidates name ↔ k ∈ v.claims.candidates name

theorem vouched_bindNode (w : Workspace) (d : Document) (h : Handle) (c : ConstraintId) :
    (w.bindNode d h c).Vouched d h c where
  binding? := by rw [binding?_bindNode, if_pos rfl]
  claims := by
    intro hnaming hvalue
    have hnaming' : w.isNaming c = true := hnaming
    rw [bindNode]
    dsimp only
    rw [if_pos hnaming', Claims.candidates_register]
    split_ifs with hjoin
    · simp
    · simpa [hvalue] using hjoin

theorem Vouched.touches (hv : w.Vouched d k i) (ht : Touches P w w') (hk : ¬ P k) :
    w'.Vouched d k i where
  binding? := (ht.binding? k hk).trans hv.binding?
  claims := by
    rw [isNaming_congr ht.model, ht.mem_candidates_iff hk]
    exact hv.claims

theorem rests_refl (v : Workspace) (k : Handle) : Rests v v k :=
  Or.inr ⟨rfl, fun _ => Iff.rfl⟩

theorem Rests.touches (hr : Rests v w k) (ht : Touches P w w') (hk : ¬ P k) : Rests v w' k := by
  rw [Rests, ht.binding? k hk]
  simp only [ht.mem_candidates_iff hk]
  exact hr

/-- What becomes of an attribute of an element that is bound to the constraint: it is bound to the
first attribute of its name, or it is whitelisted and left alone. -/
structure Attributed (v w : Workspace) (d : Document) (i : ConstraintId) (a : Handle) : Prop where
  declared : ∀ j, v.model.attribute? i (d.name a) = some j → w.Vouched d a j
  undeclared : v.model.attribute? i (d.name a) = none → d.name a ∈ v.whitelist ∧ Rests v w a

theorem Attributed.touches {a : Handle} (hat : Attributed v w d i a) (ht : Touches P w w')
    (ha : ¬ P a) : Attributed v w' d i a where
  declared := fun j hj => (hat.declared j hj).touches ht ha
  undeclared := fun hj => ⟨(hat.undeclared hj).1, (hat.undeclared hj).2.touches ht ha⟩

/-- The element fits the constraint and is bound to it, its attributes are bound or left alone, and
the elements inside it are bound along the content of the constraint. -/
structure Placed (v w : Workspace) (d : Document) (k : Handle) (i : ConstraintId) : Prop where
  fits : Fits d v.model k i
  vouched : w.Vouched d k i
  attributes : ∀ a ∈ d.attributes k, Attributed v w d i a
  inside : ∃ is, (d.elements k).map w.binding? = is.map some ∧ v.model.Aligned i is

theorem Placed.touches (hd : d.Linked) (hp : Placed v w d k i) (ht : Touches P w w')
    (hP : ∀ x, d.Within k x → ¬ P x) : Placed v w' d k i := by
  have hk : d.Within k k := Within.self (Document.contains_of_isElement hp.fits.isElement)
  refine ⟨hp.fits, hp.vouched.touches ht (hP k hk), ?_, ?_⟩
  · intro a ha
    refine (hp.attributes a ha).touches ht (hP a (hk.step (hd.parent?_of_mem ?_)))
    exact Document.mem_inside.mpr (Or.inl ha)
  · obtain ⟨is, his, haligned⟩ := hp.inside
    refine ⟨is, ?_, haligned⟩
    rw [← his]
    exact List.map_congr_left fun x hx =>
      ht.binding? x (hP x (hk.step (hd.parent?_of_mem_elements hx)))

/-- Binding passes over the node: a text, or an attribute that the constraint of its element does
not declare. -/
def PassedOver (w : Workspace) (d : Document) (k : Handle) : Prop :=
  d.isText k = true ∨ ∃ p i, k ∈ d.attributes p ∧ w.binding? p = some i ∧
    w.model.attribute? i (d.name k) = none

theorem PassedOver.touches (hp : w.PassedOver d k) (ht : Touches P w w')
    (hP : ∀ p, k ∈ d.attributes p → ¬ P p) : w'.PassedOver d k := by
  rcases hp with htext | ⟨p, i, ha, hi, hnone⟩
  · exact Or.inl htext
  · exact Or.inr ⟨p, i, ha, (ht.binding? p (hP p ha)).trans hi, ht.model ▸ hnone⟩

/-! ## Subtrees -/

/-- What binding makes of a subtree: the element at its top is bound to the constraint, all elements
are placed, and the other nodes are bound or left alone. -/
structure WellBound (v w : Workspace) (d : Document) (h : Handle) (c : ConstraintId) : Prop where
  isElement : d.isElement h = true
  root : w.binding? h = some c
  elements : ∀ k, d.Within h k → d.isElement k = true → ∃ i, Placed v w d k i
  nodes : ∀ k, d.Within h k → (∃ i, w.Vouched d k i) ∨ w.PassedOver d k ∧ Rests v w k

/-- Binding other nodes changes nothing in the subtree. -/
theorem WellBound.touches (hd : d.Linked) (hb : WellBound v w d h c) (ht : Touches P w w')
    (hP : ∀ x, d.Within h x → ¬ P x) : WellBound v w' d h c where
  isElement := hb.isElement
  root := (ht.binding? h (hP h (Within.self (Document.contains_of_isElement hb.isElement)))).trans
    hb.root
  elements := by
    intro k hk he
    obtain ⟨i, hi⟩ := hb.elements k hk he
    exact ⟨i, hi.touches hd ht fun x hx => hP x (hk.trans hx)⟩
  nodes := by
    intro k hk
    rcases hb.nodes k hk with ⟨i, hi⟩ | ⟨hpassed, hrests⟩
    · exact Or.inl ⟨i, hi.touches ht (hP k hk)⟩
    · refine Or.inr ⟨hpassed.touches ht fun p hp => hP p ?_, hrests.touches ht (hP k hk)⟩
      -- the element of an attribute in the subtree is in the subtree
      have hpar := hd.parent?_of_mem (Document.mem_inside.mpr (Or.inl hp))
      cases hk with
      | self _ =>
        have he := hb.isElement
        rw [Document.not_isElement_of_isAttribute (hd.kinds_of_attribute hp).1] at he
        simp at he
      | step hq hqk => exact Option.some.inj (hqk.symm.trans hpar) ▸ hq

/-- Binding may start at an element: nothing at or below it was bound since, except what was unbound
again. -/
structure MayStart (d : Document) (v w : Workspace) (h : Handle) : Prop where
  rebinds : Rebinds (fun _ => True) v w
  rests : ∀ k, d.Within h k → Rests v w k

theorem MayStart.touches (hs : MayStart d v w h) (ht : Touches P w w')
    (hP : ∀ x, d.Within h x → ¬ P x) : MayStart d v w' h where
  rebinds := hs.rebinds.trans (ht.toRebinds.mono fun _ _ => trivial)
  rests := fun k hk => (hs.rests k hk).touches ht (hP k hk)

theorem MayStart.inside {x : Handle} (hs : MayStart d v w h) (hh : d.Within h h)
    (hx : x ∈ d.elements h) (hd : d.Linked) : MayStart d v w x where
  rebinds := hs.rebinds
  rests := fun k hk => hs.rests k ((hh.step (hd.parent?_of_mem_elements hx)).trans hk)

/-- Binding that fails leaves all nodes as they were, or unbinds them all. -/
theorem MayStart.failed (hd : d.Forest) {fuel : Nat} (hs : MayStart d v w h)
    (hfalse : (bindAux d fuel w h c).2 = false) : MayStart d v (bindAux d fuel w h c).1 h where
  rebinds := hs.rebinds.trans ((isLocal_bindAux hd.toLinked fuel w h c).mono fun _ _ => trivial)
  rests := by
    have hunbound : ∀ (w : Workspace) (k : Handle), d.Within h k → Rests v (w.unbind d h) k :=
      fun w k hk => Or.inl (binding?_unbind_of_within hd w hk)
    cases fuel with
    | zero => exact hs.rests
    | succ fuel =>
      rw [bindAux] at hfalse ⊢
      dsimp only at hfalse ⊢
      split_ifs at hfalse ⊢
      · exact hs.rests
      · exact hunbound _
      · exact hunbound _

/-- The attributes of an element are bound or left alone. -/
theorem attributed_bindAttributes (hm : w.model = v.model) (hw : w.whitelist = v.whitelist)
    (hnd : as.Nodup) (hrests : ∀ a ∈ as, Rests v w a)
    (htrue : (w.bindAttributes d c as).2 = true) :
    ∀ a ∈ as, Attributed v (w.bindAttributes d c as).1 d c a := by
  induction as generalizing w with
  | nil => simp
  | cons a as ih =>
    obtain ⟨hnew, hnd⟩ := List.nodup_cons.mp hnd
    have hrest := (List.forall_mem_cons.mp hrests).2
    rw [bindAttributes] at htrue ⊢
    cases hj : w.model.attribute? c (d.name a) with
    | some j =>
      simp only [hj] at htrue ⊢
      have htouch := touches_bindNode w d a j
      have hafter : ∀ x ∈ as, Rests v (w.bindNode d a j) x := fun x hx =>
        (hrest x hx).touches htouch fun hxa => hnew (hxa ▸ hx)
      refine List.forall_mem_cons.mpr ⟨?_, ih hm hw hnd hafter htrue⟩
      have hnow : Attributed v (w.bindNode d a j) d c a := by
        refine ⟨fun j' hj' => ?_, fun hnone => ?_⟩
        · obtain rfl := Option.some.inj (hj.symm.trans (hm ▸ hj'))
          exact vouched_bindNode w d a j
        · rw [hm, hnone] at hj
          simp at hj
      exact hnow.touches ((tracks_touches d).bindAttributes _ c as) hnew
    | none =>
      simp only [hj] at htrue ⊢
      split_ifs at htrue ⊢ with hwhite
      refine List.forall_mem_cons.mpr ⟨?_, ih hm hw hnd hrest htrue⟩
      have hnow : Attributed v w d c a := by
        refine ⟨fun j' hj' => ?_, fun _ => ⟨?_, hrests a (List.mem_cons_self ..)⟩⟩
        · rw [← hm, hj] at hj'
          simp at hj'
        · rw [← hw]
          exact List.contains_iff_mem.mp hwhite
      exact hnow.touches ((tracks_touches d).bindAttributes _ c as) hnew

/-- A subtree is well bound once its top is bound, if its attributes are treated and the subtrees of
the elements inside are well bound along the content. -/
theorem wellBound_of_inside (hd : d.Forest) (hm : v.model.TreeShaped) (hf : Fits d v.model h c)
    (hvouched : w.Vouched d h c) (hmodel : w.model = v.model)
    (hattrs : ∀ a ∈ d.attributes h, Attributed v w d c a)
    (hinside : List.Forall₂ (fun x i => WellBound v w d x i) (d.elements h) is)
    (halong : Along v.model (v.model.contentElements c) is)
    (htexts : ∀ k, d.Within h k → d.isText k = true → (¬ ∃ x ∈ d.elements h, d.Within x k) →
      Rests v w k) : WellBound v w d h c := by
  have hbelow : ∀ x ∈ d.elements h, ∃ i, WellBound v w d x i := by
    intro x hx
    obtain ⟨n, hn, rfl⟩ := List.getElem_of_mem hx
    exact ⟨_, hinside.get hn (hinside.length_eq ▸ hn)⟩
  have hplaced : Placed v w d h c := by
    refine ⟨hf, hvouched, hattrs, is, ?_, halong.aligned hm⟩
    refine List.forall₂_eq_eq_eq ▸ ?_
    rw [List.forall₂_map_left_iff, List.forall₂_map_right_iff]
    exact hinside.imp fun x i hb => hb.root
  refine ⟨hf.isElement, hvouched.binding?, ?_, ?_⟩
  · intro k hk he
    rcases hk.cases_head hd.toLinked with rfl | ⟨x, hx, hxk⟩
    · exact ⟨c, hplaced⟩
    · obtain ⟨i, hb⟩ := hbelow x (Document.mem_elements_of_within hd.toLinked hx hxk he)
      exact hb.elements k hxk he
  · intro k hk
    by_cases hdeep : ∃ x ∈ d.elements h, d.Within x k
    · obtain ⟨x, hx, hxk⟩ := hdeep
      obtain ⟨i, hb⟩ := hbelow x hx
      exact hb.nodes k hxk
    · rcases hk.cases_inside hd with rfl | ⟨-, ha | hx | ht⟩
      · exact Or.inl ⟨c, hvouched⟩
      · cases hj : v.model.attribute? c (d.name k) with
        | some j => exact Or.inl ⟨j, (hattrs k ha).declared j hj⟩
        | none =>
          exact Or.inr ⟨Or.inr ⟨h, c, ha, hvouched.binding?, hmodel ▸ hj⟩,
            ((hattrs k ha).undeclared hj).2⟩
      · exact absurd hx hdeep
      · exact Or.inr ⟨Or.inl ht, htexts k hk ht hdeep⟩

/-- A binder that makes well-bound subtrees does so for all elements of a list. -/
theorem attains_wellBound (hd : d.Forest) {fuel : Nat}
    (hmade : ∀ {w h c}, MayStart d v w h → (bindAux d fuel w h c).2 = true →
      WellBound v (bindAux d fuel w h c).1 d h c) :
    Attains d Touches (bindAux d fuel) (MayStart d v) fun w h c => WellBound v w d h c where
  tracks := tracks_touches d
  isLocal := (tracks_touches d).bindAux hd.toLinked fuel
  made := hmade
  failed := fun hs hfalse => hs.failed hd hfalse
  start_kept := fun ht hP hs => hs.touches ht hP
  made_kept := fun ht hP hb => hb.touches hd.toLinked ht hP

/-- Where binding an element succeeded, its subtree is well bound. -/
theorem wellBound_of_bindAux (hd : d.Forest) (hm : v.model.TreeShaped) (fuel : Nat)
    (hs : MayStart d v w h) (htrue : (bindAux d fuel w h c).2 = true) :
    WellBound v (bindAux d fuel w h c).1 d h c := by
  induction fuel generalizing w h c with
  | zero => simp [bindAux] at htrue
  | succ fuel ih =>
    obtain ⟨hfits, hattr, hcontent⟩ := bindAux_succ.mp htrue
    have hmodel := hs.rebinds.model
    have hself := Within.self (Document.contains_of_isElement (fits_iff.mp hfits).isElement)
    have hpar : ∀ a ∈ d.attributes h, d.parent? a = some h := fun a ha =>
      hd.parent?_of_mem (Document.mem_inside.mpr (Or.inl ha))
    have hsib : Siblings d (d.elements h) h :=
      ⟨hd.nodup_elements h, fun x hx => hd.parent?_of_mem_elements hx⟩
    -- the attributes first: none of them is below an element inside
    have hattrs := (tracks_touches d).bindAttributes w c (d.attributes h)
    have hattributed := attributed_bindAttributes hmodel hs.rebinds.whitelist (hd.nodup_attributes h)
      (fun a ha => hs.rests a (hself.step (hpar a ha))) hattr
    have hstart : ∀ x ∈ d.elements h, MayStart d v (w.bindAttributes d c (d.attributes h)).1 x :=
      fun x hx => (hs.inside hself hx hd.toLinked).touches hattrs fun k hk ha =>
        hd.not_within_attribute ha hx hk
    -- then the elements inside, and the element itself at the end
    have hmatched := (tracks_touches d).matchContent
      ((tracks_touches d).bindAux hd.toLinked fuel) w.model
      (w.bindAttributes d c (d.attributes h)).1 (d.elements h) (w.model.contentElements c)
    obtain ⟨is, his, halong⟩ := (attains_wellBound hd ih).matchContent hd hsib hstart hcontent
    rw [bindAux]
    simp only [hfits, hattr, hcontent, Bool.not_true, Bool.false_eq_true, if_false, if_true]
    generalize matchContent (bindAux d fuel) w.model (w.bindAttributes d c (d.attributes h)).1
      (d.elements h) (w.model.contentElements c) = content at hmatched his
    have hlast := touches_bindNode content.1 d h c
    have hafter := (tracks_touches d).trans
      ((tracks_touches d).mono hmatched fun k hk => Or.inl hk)
      ((tracks_touches d).mono hlast fun k hk => Or.inr hk)
    have hfit : Fits d v.model h c := hmodel ▸ fits_iff.mp hfits
    refine wellBound_of_inside hd hm hfit (vouched_bindNode content.1 d h c) ?_ ?_ ?_
      (hmodel ▸ halong) ?_
    · exact hafter.model.trans (hattrs.model.trans hmodel)
    · intro a ha
      refine (hattributed a ha).touches hafter ?_
      rintro (⟨x, hx, hxa⟩ | rfl)
      · exact hd.not_within_attribute ha hx hxa
      · exact Within.not_within_parent hd.acyclic (hpar a ha) hself
    · refine List.forall₂_iff_get.mpr ⟨his.length_eq, fun n hn hn' => ?_⟩
      refine (his.get hn hn').touches hd.toLinked hlast ?_
      rintro k hk rfl
      exact Within.not_within_parent hd.acyclic
        (hd.parent?_of_mem_elements (List.get_mem _ ⟨n, hn⟩)) hk
    · intro k hk ht hdeep
      refine ((hs.rests k hk).touches hattrs ?_).touches hafter ?_
      · intro ha
        have hattribute := (hd.kinds_of_attribute ha).1
        rw [Document.not_isAttribute_of_isText ht] at hattribute
        simp at hattribute
      · rintro (hx | rfl)
        · exact hdeep hx
        · have he := hfit.isElement
          rw [Document.not_isElement_of_isText ht] at he
          simp at he

/-- An element that was bound has a well-bound subtree, and nothing else was touched. -/
theorem wellBound_of_bind (hd : d.Forest) (hm : w.model.TreeShaped)
    (htrue : (w.bind d h c).2 = true) :
    WellBound w (w.bind d h c).1 d h c ∧ Touches (d.Within h) w (w.bind d h c).1 := by
  obtain ⟨haux, heq⟩ := bind_eq_bindAux htrue
  refine ⟨?_, (tracks_touches d).bind hd.toLinked w h c⟩
  rw [heq]
  exact wellBound_of_bindAux hd hm _ ⟨Rebinds.refl _ w, fun k _ => rests_refl w k⟩ haux

/-! ## Regions -/

section Region

variable {n : Nat} (hr : SameRegion n d e)

include hr

theorem Vouched.region (hv : w.Vouched d k i) (hk : n ≤ k.index) : w.Vouched e k i where
  binding? := hv.binding?
  claims := by
    rw [hr.value hk]
    exact hv.claims

/-- What is made of an element of a region is seen in every document with the region. -/
theorem Placed.region (hp : Placed v w d k i) (hk : n ≤ k.index) : Placed v w e k i := by
  obtain ⟨hkind, hname, -, hattrs, -⟩ := hr.lookups hk
  refine ⟨⟨hp.fits.kind?, ?_, ?_, ?_⟩, hp.vouched.region hr hk, ?_, ?_⟩
  · rw [Document.isElement_congr hkind, hp.fits.isElement]
  · rw [hname, hp.fits.name]
  · rw [hr.runLength hk, hp.fits.occurs]
  · intro a ha
    rw [hattrs] at ha
    have hle := hr.attributes_le hk ha
    refine ⟨fun j hj => ?_, fun hj => ?_⟩
    · rw [(hr.lookups hle).2.1] at hj
      exact ((hp.attributes a ha).declared j hj).region hr hle
    · rw [(hr.lookups hle).2.1] at hj ⊢
      exact (hp.attributes a ha).undeclared hj
  · rw [hr.elements hk]
    exact hp.inside

theorem PassedOver.region (hp : w.PassedOver d k) (hd : d.Linked) (hk : n ≤ k.index) :
    w.PassedOver e k := by
  obtain ⟨hkind, hname, -⟩ := hr.lookups hk
  rcases hp with ht | ⟨p, i, ha, hi, hnone⟩
  · exact Or.inl (by rw [Document.isText_congr hkind, ht])
  · have hle := hr.parent_le hk (hd.parent?_of_mem (Document.mem_inside.mpr (Or.inl ha)))
    refine Or.inr ⟨p, i, ?_, hi, hname ▸ hnone⟩
    rw [(hr.lookups hle).2.2.2.1]
    exact ha

end Region

/-! ## Any document -/

/-- Whatever the content model, the document and the workspace are: where an element was bound to a
constraint, all elements of its subtree are placed, all other nodes of it are bound or passed over,
nodes elsewhere are bound as they were, and in the line of each name they stand as they stood. -/
theorem placed_of_bind (hd : Document.Made d) (hm : w.model.Built)
    (htrue : (w.bind d h c).2 = true) :
    (w.bind d h c).1.binding? h = some c ∧
      (∀ k ∈ d.subtree h, d.isElement k = true → ∃ i, Placed w (w.bind d h c).1 d k i) ∧
      (∀ k ∈ d.subtree h, (∃ i, (w.bind d h c).1.Vouched d k i) ∨
        (w.bind d h c).1.PassedOver d k ∧ Rests w (w.bind d h c).1 k) ∧
      (∀ k, k ∉ d.subtree h → (w.bind d h c).1.binding? k = w.binding? k) ∧
      ∀ name, ((w.bind d h c).1.claims.candidates name).filter (fun k => !(d.subtree h).contains k) =
        (w.claims.candidates name).filter fun k => !(d.subtree h).contains k := by
  have hlive : d.contains h = true := by
    obtain ⟨haux, -⟩ := bind_eq_bindAux htrue
    exact Document.contains_of_isElement (fits_of_bindAux haux).isElement
  -- what is bound is settled in a region that a forest has too
  obtain ⟨n, e, he, hr, hle⟩ := hd.grown.exists_region hlive
  have hforest : e.Forest := he.toForest
  rw [bind_region hr w hle c] at htrue ⊢
  rw [hr.subtree hle]
  have hin : ∀ k, k ∈ e.subtree h ↔ e.Within h k := fun k => Document.mem_subtree_iff hforest
  have hkinds : ∀ k ∈ e.subtree h, d.kind? k = e.kind? k := fun k hk =>
    (hr.lookups (hr.subtree_le hle hk)).1
  obtain ⟨hbound, htouches⟩ := wellBound_of_bind hforest hm.treeShaped htrue
  refine ⟨hbound.root, ?_, ?_, ?_, ?_⟩
  · intro k hk hel
    rw [Document.isElement_congr (hkinds k hk)] at hel
    obtain ⟨i, hi⟩ := hbound.elements k ((hin k).mp hk) hel
    exact ⟨i, hi.region hr (hr.subtree_le hle hk)⟩
  · intro k hk
    have hkle := hr.subtree_le hle hk
    rcases hbound.nodes k ((hin k).mp hk) with ⟨i, hi⟩ | ⟨hpassed, hrests⟩
    · exact Or.inl ⟨i, hi.region hr hkle⟩
    · exact Or.inr ⟨hpassed.region hr hforest.toLinked hkle, hrests⟩
  · exact fun k hk => htouches.binding? k fun hw => hk ((hin k).mpr hw)
  · refine htouches.line _ fun k hw => ?_
    rw [List.contains_iff_mem.mpr ((hin k).mpr hw), Bool.not_true]

/-! ## Bound twice -/

/-- A content model for crates, which may be marked, in which a crate without a mark may stand. -/
def nest : ContentModel :=
  let m := (ContentModel.ofRoot (.ofElement "crate" .once)).add ContentModel.root
    (.ofAttribute "mark" .optional)
  let m := m.1.add ContentModel.root { kind := .sequence }
  (m.1.add ⟨2⟩ (.ofElement "crate" .optional)).1

theorem built_nest : nest.Built := by
  refine .add (.add (.add (.ofRoot rfl) ?_) ?_) ?_ <;> decide

/-- A marked crate. -/
def markedCrate : Document :=
  Document.Operation.run Document.empty
    [.createElement "crate", .append Document.top ⟨1⟩, .setAttribute ⟨1⟩ "mark" "7"]

theorem made_markedCrate : Document.Made markedCrate :=
  .run .empty (by simp [Document.Operation.source?])

/-- A workspace where every crate may have a mark, and where the marked crate was bound to the
constraint of the outer crate. -/
def crates : Workspace :=
  (({ model := nest, whitelist := ["mark"] } : Workspace).bind markedCrate ⟨1⟩ ContentModel.root).1

theorem model_crates : crates.model = nest := by
  cases made_markedCrate.grown with
  | whole htidy => exact (rebinds_bind htidy.toLinked _ _ _).model
  | topless _ htop _ => exact absurd htop (by decide +kernel)

/-- The crate is bound anew, now to the constraint of the inner one. -/
theorem placed_bind_crates : (crates.bind markedCrate ⟨1⟩ ⟨3⟩).2 = true ∧
    (crates.bind markedCrate ⟨1⟩ ⟨3⟩).1.binding? ⟨1⟩ = some ⟨3⟩ ∧
    (∃ i, Placed crates (crates.bind markedCrate ⟨1⟩ ⟨3⟩).1 markedCrate ⟨1⟩ i) ∧
    (crates.bind markedCrate ⟨1⟩ ⟨3⟩).1.binding? Document.top = none := by
  have htrue : (crates.bind markedCrate ⟨1⟩ ⟨3⟩).2 = true := by decide +kernel
  obtain ⟨hroot, hplaced, -, hout, -⟩ :=
    placed_of_bind made_markedCrate (model_crates ▸ built_nest) htrue
  refine ⟨htrue, hroot, hplaced ⟨1⟩ (by decide +kernel) (by decide +kernel), ?_⟩
  rw [hout Document.top (by decide +kernel)]
  decide +kernel

/-- So an attribute of an element that was bound need neither be bound to an attribute that the
constraint of the element declares, nor be unbound. -/
theorem leftover_crates : Document.Made markedCrate ∧ nest.Built ∧ crates.model = nest ∧
    (crates.bind markedCrate ⟨1⟩ ⟨3⟩).2 = true ∧ ⟨2⟩ ∈ markedCrate.attributes ⟨1⟩ ∧
    ¬ ((∃ j, nest.attribute? ⟨3⟩ (markedCrate.name ⟨2⟩) = some j ∧
        (crates.bind markedCrate ⟨1⟩ ⟨3⟩).1.binding? ⟨2⟩ = some j) ∨
      (crates.bind markedCrate ⟨1⟩ ⟨3⟩).1.binding? ⟨2⟩ = none ∧
        markedCrate.name ⟨2⟩ ∈ crates.whitelist) := by
  refine ⟨made_markedCrate, built_nest, model_crates, by decide +kernel, by decide +kernel, ?_⟩
  have hundeclared : nest.attribute? ⟨3⟩ (markedCrate.name ⟨2⟩) = none := by decide +kernel
  have hleft : (crates.bind markedCrate ⟨1⟩ ⟨3⟩).1.binding? ⟨2⟩ = some ⟨1⟩ := by decide +kernel
  rw [hundeclared, hleft]
  simp

end Workspace

end GuidedXml
