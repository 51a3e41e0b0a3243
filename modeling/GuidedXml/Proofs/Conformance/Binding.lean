/-
# What binding accepts

Binding an element succeeds exactly if the element and all elements below it are as their
constraints say, where choices may be missing with the lenient excuse.

The main statements say this, and that the strict excuse is too strict for it.
-/
import GuidedXml.Proofs.Conformance.Filling
import GuidedXml.Proofs.Conformance.Matching
import GuidedXml.Proofs.Conformance.Seats
import GuidedXml.Proofs.Document.Arena
import GuidedXml.Proofs.Document.Growth
import GuidedXml.Proofs.Editing.Region

namespace GuidedXml

open Schema (ConstraintId ContentModel)
open Schema.ContentModel (Fills IsContent Excuse isInChoice_of_mem_alternatives runLength_of_runs
  tally_of_runs)

/-! ## Contents -/

namespace Schema.Occurs

theorem contains_zero {o : Occurs} : o.contains 0 = true ↔ o.min = 0 := by
  rw [contains_iff]
  constructor
  · intro h
    omega
  · intro h
    exact ⟨by omega, fun n _ => Nat.zero_le n⟩

end Schema.Occurs

namespace Schema.ContentModel

variable {m : ContentModel} {cs : List ConstraintId} {i : ConstraintId}

theorem IsContent.remaining (hc : IsContent m cs) : Workspace.Remaining m cs where
  nodup := hc.nodup
  grouped := hc.grouped
  mem_alternatives := hc.mem_alternatives

end Schema.ContentModel

namespace Workspace

variable {d : Document} {m : ContentModel} {cs : List ConstraintId} {p h k : Handle}
  {i c : ConstraintId} {w : Workspace} {whitelist : List String}

/-- The element itself is as the constraint says. -/
structure Fits (d : Document) (m : ContentModel) (h : Handle) (c : ConstraintId) : Prop where
  kind? : m.kind? c = some .element
  isElement : d.isElement h = true
  name : d.name h = m.name c
  occurs : (m.occurs c).contains (d.runLength h) = true

theorem fits_iff : w.fits d h c = true ↔ Fits d w.model h c := by
  rw [fits]
  cases hg : w.model.get? c with
  | none =>
    constructor
    · intro hf
      simp at hf
    · intro hf
      have hk := hf.kind?
      rw [ContentModel.kind?, hg] at hk
      simp at hk
  | some e =>
    have hkind : w.model.kind? c = some e.kind := by rw [ContentModel.kind?, hg]; rfl
    have hname : w.model.name c = e.name := by rw [ContentModel.name, hg]; rfl
    have hoccurs : w.model.occurs c = e.occurs := by rw [ContentModel.occurs, hg]; rfl
    rw [Option.any_some, Bool.and_eq_true, Bool.and_eq_true, Bool.and_eq_true, decide_eq_true_eq,
      decide_eq_true_eq]
    constructor
    · rintro ⟨⟨⟨hk, he⟩, hn⟩, ho⟩
      exact ⟨by rw [hkind, hk], he, by rw [hname, hn], by rw [hoccurs, ho]⟩
    · rintro ⟨hk, he, hn, ho⟩
      rw [hkind] at hk
      rw [hname] at hn
      rw [hoccurs] at ho
      exact ⟨⟨⟨Option.some.inj hk, he⟩, hn.symm⟩, ho⟩

section Runs

variable {run : ConstraintId → List Handle} {ok : Handle → ConstraintId → Prop}

/-- Elements that fall into runs fill the content. -/
theorem fills_of_matching (hd : d.Linked) (htree : m.TreeShaped) (hc : IsContent m cs)
    (hfit : ∀ h i, ok h i → Fits d m h i) (hm : Matching m ok (d.elements p) cs run) :
    Fills .lenient m cs ((d.elements p).map d.name) := by
  have hname : ∀ j ∈ cs, ∀ a ∈ run j, d.name a = m.name j := fun j hj a ha =>
    (hfit a j (hm.ok j hj a ha)).name
  -- how often a name occurs is how long the run of its constraint is
  have htally : ∀ i ∈ cs, m.tally ((d.elements p).map d.name) i = (run i).length := fun i hi =>
    tally_of_runs hc hm.eq hname hi
  have hzero : ∀ i ∈ cs, m.tally ((d.elements p).map d.name) i = 0 ↔ run i = [] := by
    intro i hi
    rw [htally i hi, List.length_eq_zero_iff]
  have hcontains : ∀ i ∈ cs, run i ≠ [] →
      (m.occurs i).contains (m.tally ((d.elements p).map d.name) i) = true := by
    intro i hi hne
    obtain ⟨h, hh⟩ := List.exists_mem_of_ne_nil _ hne
    rw [htally i hi, ← runLength_of_runs hd hc hm.eq hname hi hh]
    exact (hfit h i (hm.ok i hi h hh)).occurs
  have halts : ∀ {i k}, i ∈ cs → k ∈ m.alternatives i → k ∈ cs := fun hi hk =>
    hc.alternatives_mem _ hi _ hk
  refine ⟨?_, ?_, ?_⟩
  · conv_lhs => rw [hm.eq, Runs.map_flatMap hname]
    exact List.flatMap_congr fun j hj => by rw [htally j hj]
  · -- outside choices the only excuse for an empty run is that nothing has to be there
    intro i hi hin
    by_cases hempty : run i = []
    · have ht := (hzero i hi).mpr hempty
      rw [ht, Schema.Occurs.contains_zero]
      rcases hm.excused i hi hempty with h0 | ⟨k, -, hka, -⟩ | ⟨hin', -⟩
      · exact h0
      · rw [isInChoice_of_mem_alternatives hka] at hin
        simp at hin
      · rw [hin'] at hin
        simp at hin
    · exact hcontains i hi hempty
  · intro i hi hin
    by_cases hsome : ∃ k ∈ m.alternatives i, run k ≠ []
    · obtain ⟨k, hk, hne⟩ := hsome
      have hkcs := halts hi hk
      refine Or.inl ⟨k, hk, ?_, hcontains k hkcs hne, ?_⟩
      · rwa [Ne, hzero k hkcs]
      · intro l hl hlk
        rw [hzero l (halts hi hl)]
        exact hm.alone k hkcs l (halts hi hl) (htree.alternatives_congr hk ▸ hl) hlk hne
    · have hnone : ∀ k ∈ m.alternatives i, run k = [] := fun k hk => by
        by_contra hne
        exact hsome ⟨k, hk, hne⟩
      refine Or.inr ⟨fun k hk => (hzero k (halts hi hk)).mpr (hnone k hk), ?_⟩
      have hself := hc.mem_alternatives i hi hin
      rcases hm.excused i hi (hnone i hself) with h0 | ⟨k, -, hk, hne⟩ | ⟨-, j, hs, hne⟩
      · exact Or.inl h0
      · exact absurd (hnone k hk) hne
      · refine Or.inr ⟨j, hs, ?_⟩
        rwa [Ne, hzero j (hs.subset (by simp))]

/-- Elements that fill the content fall into runs. -/
theorem exists_matching_of_fills (hd : d.Linked) (hc : IsContent m cs)
    (hf : Fills .lenient m cs ((d.elements p).map d.name))
    (hok : ∀ k ∈ d.elements p, ∀ i ∈ cs, Fits d m k i → ok k i) :
    ∃ run, Matching m ok (d.elements p) cs run := by
  obtain ⟨run, heq, hname, hlength⟩ := Runs.exists_runs hc.nodup_names hf.inOrder
  have hzero : ∀ i ∈ cs, m.tally ((d.elements p).map d.name) i = 0 ↔ run i = [] := by
    intro i hi
    rw [← hlength i hi, List.length_eq_zero_iff]
  refine ⟨run, heq, ?_, ?_, ?_⟩
  · -- an element of a run fits, for the run is as long as its name is frequent
    intro i hi h hh
    have hmem : h ∈ d.elements p := by
      rw [heq]
      exact List.mem_flatMap.mpr ⟨i, hi, hh⟩
    have ht : m.tally ((d.elements p).map d.name) i ≠ 0 := by
      rw [Ne, hzero i hi]
      exact List.ne_nil_of_mem hh
    refine hok h hmem i hi ⟨hc.kind? i hi, (Document.mem_elements.mp hmem).2, hname i hi h hh, ?_⟩
    rw [runLength_of_runs hd hc heq hname hi hh, hlength i hi]
    exact hf.contains hc hi ht
  · intro i hi k hk hka hki hne
    rw [← hzero k hk]
    exact hf.alone hc hi hka hki (by rwa [Ne, hzero i hi])
  · intro i hi hempty
    have ht := (hzero i hi).mpr hempty
    cases hin : m.isInChoice i with
    | false =>
      have h0 := hf.single i hi hin
      rw [ht, Schema.Occurs.contains_zero] at h0
      exact Or.inl h0
    | true =>
      rcases hf.choice i hi hin with ⟨k, hk, hne, -⟩ | ⟨-, h0 | ⟨j, hs, hne⟩⟩
      · have hkcs := hc.alternatives_mem i hi k hk
        refine Or.inr (Or.inl ⟨k, hkcs, hk, ?_⟩)
        rwa [Ne, ← hzero k hkcs]
      · exact Or.inl h0
      · refine Or.inr (Or.inr ⟨rfl, j, hs, ?_⟩)
        rwa [Ne, ← hzero j (hs.subset (by simp))]

end Runs

/-! ## Attributes -/

theorem bindAttributes_iff {as : List Handle} : (w.bindAttributes d c as).2 = true ↔
    ∀ a ∈ as, (∃ i ∈ w.model.attributes c, w.model.name i = d.name a) ∨ d.name a ∈ w.whitelist := by
  induction as generalizing w with
  | nil => simp [bindAttributes]
  | cons a as ih =>
    rw [bindAttributes, List.forall_mem_cons]
    cases ha : w.model.attribute? c (d.name a) with
    | some i =>
      have hdeclared : ∃ i ∈ w.model.attributes c, w.model.name i = d.name a := by
        refine ⟨i, List.mem_of_find?_eq_some ha, ?_⟩
        simpa using List.find?_some ha
      dsimp only
      rw [ih]
      exact ⟨fun hr => ⟨Or.inl hdeclared, hr⟩, fun hr => hr.2⟩
    | none =>
      have hundeclared : ¬ ∃ i ∈ w.model.attributes c, w.model.name i = d.name a := by
        rintro ⟨i, hi, hn⟩
        exact List.find?_eq_none.mp ha i hi (decide_eq_true hn)
      dsimp only
      split_ifs with hw
      · rw [ih]
        exact ⟨fun hr => ⟨Or.inr (List.contains_iff_mem.mp hw), hr⟩, fun hr => hr.2⟩
      · constructor
        · intro hf
          simp at hf
        · rintro ⟨hd | hm, -⟩
          · exact absurd hd hundeclared
          · exact absurd (List.contains_iff_mem.mpr hm) hw

/-! ## Elements -/

/-- What can be bound, looking at most so many levels down. -/
def Bindable (d : Document) (m : ContentModel) (whitelist : List String) :
    Nat → Handle → ConstraintId → Prop
  | 0, _, _ => False
  | fuel + 1, h, c => Fits d m h c ∧
    (∀ a ∈ d.attributes h,
      (∃ i ∈ m.attributes c, m.name i = d.name a) ∨ d.name a ∈ whitelist) ∧
    ∃ run, Matching m (Bindable d m whitelist fuel) (d.elements h) (m.contentElements c) run

theorem Bindable.fits {fuel : Nat} (hb : Bindable d m whitelist fuel h c) : Fits d m h c := by
  cases fuel with
  | zero => exact hb.elim
  | succ fuel => exact hb.1

/-- An element is bound if its name, attributes and content allow it. -/
theorem bindAux_succ {fuel : Nat} : (bindAux d (fuel + 1) w h c).2 = true ↔
    w.fits d h c = true ∧ (w.bindAttributes d c (d.attributes h)).2 = true ∧
      (matchContent (bindAux d fuel) w.model (w.bindAttributes d c (d.attributes h)).1
        (d.elements h) (w.model.contentElements c)).2 = true := by
  rw [bindAux]
  dsimp only
  split_ifs with hf ha hm
  · rw [Bool.not_eq_true'] at hf
    simp [hf]
  · rw [Bool.not_eq_true'] at ha
    simp [ha]
  · rw [Bool.not_eq_true, Bool.not_eq_false'] at hf ha
    simp [hf, ha, hm]
  · simp [hm]

/-- What could be bound fits. -/
theorem fits_of_bindAux {fuel : Nat} (htrue : (bindAux d fuel w h c).2 = true) :
    Fits d w.model h c := by
  cases fuel with
  | zero => simp [bindAux] at htrue
  | succ fuel => exact fits_iff.mp (bindAux_succ.mp htrue).1

/-- Binding that succeeds does so within its bound on the depth. -/
theorem bind_eq_bindAux (htrue : (w.bind d h c).2 = true) :
    (bindAux d d.slots.size w h c).2 = true ∧ w.bind d h c = bindAux d d.slots.size w h c := by
  rw [bind] at htrue ⊢
  split_ifs at htrue ⊢ with haux
  exact ⟨haux, rfl⟩

theorem decides_bindAux (hd : d.Linked) (htree : m.TreeShaped) (hflat : m.FlatUnambiguous)
    (fuel : Nat) : Decides d m whitelist (bindAux d fuel) (Bindable d m whitelist fuel) where
  isLocal := isLocal_bindAux hd fuel
  iff := by
    induction fuel with
    | zero =>
      intro w h c _ _
      simp [bindAux, Bindable]
    | succ fuel ih =>
      rintro w h c rfl rfl
      rw [bindAux_succ, Bindable, ← fits_iff, ← bindAttributes_iff]
      by_cases hfits : w.fits d h c = true
      · have hkind := (fits_iff.mp hfits).kind?
        have hcontent := ContentModel.isContent_contentElements htree hflat hkind
        have hattrs := rebinds_bindAttributes w d c (d.attributes h)
        -- what can be bound has the name of its constraint, and names are distinct
        have hdistinct : Distinct (Bindable d w.model w.whitelist fuel)
            (w.model.contentElements c) := by
          intro x i hi k hk hbi hbk
          exact hcontent.name_inj hi hk (hbi.fits.name.symm.trans hbk.fits.name)
        rw [matchContent_iff ⟨isLocal_bindAux hd fuel, ih⟩ htree hattrs.model hattrs.whitelist
          hcontent.remaining hdistinct]
      · constructor
        · exact fun hf => absurd hf.1 hfits
        · exact fun hf => absurd hf.1 hfits

/-- With as much fuel as the element is high, what can be bound is what conforms. -/
theorem bindable_iff (hd : d.Linked) (htree : m.TreeShaped) (hflat : m.FlatUnambiguous)
    {height : Handle → Nat} (hh : ∀ k p, d.parent? k = some p → height k < height p) {fuel : Nat}
    (hfuel : height h < fuel) : Bindable d m whitelist fuel h c ↔
      Fits d m h c ∧ d.Conforms .lenient m whitelist h c := by
  -- elements inside are less high, so the fuel that is left is enough for them
  induction fuel generalizing h c with
  | zero => omega
  | succ fuel ih =>
    rw [Bindable]
    have hinside : ∀ k ∈ d.elements h, ∀ i, Bindable d m whitelist fuel k i ↔
        Fits d m k i ∧ d.Conforms .lenient m whitelist k i := by
      intro k hk i
      have := hh _ _ (hd.parent?_of_mem_elements hk)
      exact ih (by omega)
    constructor
    · rintro ⟨hfits, hattrs, run, hm⟩
      have hcontent := ContentModel.isContent_contentElements htree hflat hfits.kind?
      refine ⟨hfits, ⟨hattrs, ?_⟩, ?_⟩
      · exact fills_of_matching hd htree hcontent (fun _ _ hb => hb.fits) hm
      · intro k hk i hi hn
        have hk' := hk
        rw [hm.eq, List.mem_flatMap] at hk'
        obtain ⟨j, hj, hkj⟩ := hk'
        have hb := hm.ok j hj k hkj
        obtain rfl := hcontent.name_inj hi hj (hn.trans hb.fits.name)
        exact ((hinside k hk i).mp hb).2
    · rintro ⟨hfits, ⟨hsuits, hbelow⟩⟩
      have hcontent := ContentModel.isContent_contentElements htree hflat hfits.kind?
      refine ⟨hfits, hsuits.attributes,
        exists_matching_of_fills hd hcontent hsuits.content ?_⟩
      intro k hk i hi hfit
      exact (hinside k hk i).mpr ⟨hfit, hbelow k hk i hi hfit.name.symm⟩

/-- Binding succeeds exactly for elements that fit and conform. -/
theorem bind_iff (hd : d.Forest) (htree : w.model.TreeShaped) (hflat : w.model.FlatUnambiguous) :
    (w.bind d h c).2 = true ↔
      Fits d w.model h c ∧ d.Conforms .lenient w.model w.whitelist h c := by
  obtain ⟨height, hlt, hsize⟩ := hd.exists_height
  have hdecides : Decides d w.model w.whitelist _ _ :=
    decides_bindAux hd.toLinked htree hflat d.slots.size
  have hiff := hdecides.iff w h c rfl rfl
  have hbind : (w.bind d h c).2 = true ↔
      Bindable d w.model w.whitelist d.slots.size h c := by
    rw [← hiff, bind]
    split_ifs with hb
    · simp [hb]
    · simp [hb]
  rw [hbind]
  by_cases hc : d.contains h = true
  · exact bindable_iff hd.toLinked htree hflat hlt (hsize h hc)
  · constructor
    · intro hb
      exact absurd (Document.contains_of_isElement hb.fits.isElement) hc
    · intro hf
      exact absurd (Document.contains_of_isElement hf.1.isElement) hc

/-- Binding an element to the constraint of an element succeeds exactly if it has the name, stands
in a run of an allowed length, and conforms with lenient excuses. The nodes of every document that
can be made form trees, also if its document node was discarded. -/
theorem bind_iff_conforms (hd : d.Wooded) (hm : w.model.Built) (hf : w.model.FlatUnambiguous)
    (hc : w.model.kind? c = some .element) : (w.bind d h c).2 = true ↔
      d.isElement h = true ∧ d.name h = w.model.name c ∧
        (w.model.occurs c).contains (d.runLength h) = true ∧
        d.Conforms .lenient w.model w.whitelist h c := by
  by_cases hlive : d.contains h = true
  · -- what binding meets lies in a region that a forest has too
    obtain ⟨n, e, he, hr, hle⟩ := hd h hlive
    have hsame := hr.lookups hle
    rw [bind_region hr w hle c, bind_iff he hm.treeShaped hf, Document.isElement_congr hsame.1,
      hsame.2.1, hr.runLength hle]
    constructor
    · rintro ⟨⟨-, hel, hn, ho⟩, hconf⟩
      exact ⟨hel, hn, ho, hconf.region hr hle⟩
    · rintro ⟨hel, hn, ho, hconf⟩
      exact ⟨⟨hc, hel, hn, ho⟩, hconf.region hr.symm hle⟩
  · constructor
    · intro hb
      obtain ⟨haux, -⟩ := bind_eq_bindAux hb
      exact absurd (Document.contains_of_isElement (fits_of_bindAux haux).isElement) hlive
    · intro hf
      exact absurd (Document.contains_of_isElement hf.1) hlive

/-! ## A choice that is missing -/

/-- A content model where a choice comes before something that may be missing. -/
def basket : ContentModel :=
  let m := (ContentModel.ofRoot (.ofElement "basket" .once)).add ContentModel.root
    { kind := .sequence }
  let m := m.1.add ⟨1⟩ { kind := .choice }
  let m := m.1.add ⟨2⟩ (.ofElement "apple" .once)
  let m := m.1.add ⟨2⟩ (.ofElement "pear" .once)
  (m.1.add ⟨1⟩ (.ofElement "note" .optional)).1

theorem built_basket : basket.Built := by
  refine .add (.add (.add (.add (.add (.ofRoot rfl) ?_) ?_) ?_) ?_) ?_ <;> decide

theorem flatUnambiguous_basket : basket.FlatUnambiguous := by
  decide

/-- A basket with a note alone. -/
def notedBasket : Document :=
  .ofTree (.element "basket" [] [.element "note" [] []])

theorem forest_notedBasket : notedBasket.Forest := by
  have hnote : (Tree.element "note" [] []).Proper :=
    .node (by simp) (by simp) (by simp) (by simp)
  refine (Document.orderly_ofTree (.node (fun _ => rfl) (fun _ => Or.inl rfl) ?_ ?_) rfl).forest
  · intro t ht
    rw [List.mem_singleton.mp ht]
    exact Or.inl rfl
  · intro t ht
    rw [List.mem_singleton.mp ht]
    exact hnote

/-- Binding accepts a basket without any fruit, since a note comes after the missing choice. The
strict excuse would not allow it. -/
theorem bind_notedBasket : basket.Built ∧ basket.FlatUnambiguous ∧ notedBasket.Forest ∧
    (({ model := basket } : Workspace).bind notedBasket ⟨1⟩ ContentModel.root).2 = true ∧
    ¬ notedBasket.Conforms .strict basket [] ⟨1⟩ ContentModel.root := by
  refine ⟨built_basket, flatUnambiguous_basket, forest_notedBasket, by decide +kernel, ?_⟩
  rintro ⟨hsuits, -⟩
  -- neither alternative is there, and both of them have to be
  have hchoice := hsuits.content.choice ⟨3⟩ (by decide) (by decide)
  revert hchoice
  unfold Excuse.strict
  decide

theorem notedBasket_conforms :
    (({ model := basket } : Workspace).bind notedBasket ⟨1⟩ ContentModel.root).2 = true ↔
      notedBasket.isElement ⟨1⟩ = true ∧ notedBasket.name ⟨1⟩ = basket.name ContentModel.root ∧
        (basket.occurs ContentModel.root).contains (notedBasket.runLength ⟨1⟩) = true ∧
        notedBasket.Conforms .lenient basket [] ⟨1⟩ ContentModel.root :=
  bind_iff_conforms forest_notedBasket.wooded built_basket flatUnambiguous_basket rfl

end Workspace

end GuidedXml
