/-
# Outlines that mirror documents

The outline of a session shows exactly the elements that lie in the document, each with its parent
and its children in document order, although it is patched at single places only.

The main statements say this for every kind of change of the document, and for runs of moves.
-/
import GuidedXml.Proofs.Conformance.Upkeep
import GuidedXml.Proofs.Editing.Outlining

namespace GuidedXml

open Document (Within)
open Schema (ConstraintId)

namespace Outline

variable {o o' : Outline} {d d' : Document} {h k p : Handle} {taken given : Option Handle}

/-! ## Changes that show nowhere -/

/-- The outline of a document does not change while nodes are made. -/
theorem Mirrors.extends (hm : Mirrors o d) (he : d.Extends d') (hd : d.Linked) (hd' : d'.Linked) :
    Mirrors o d' := by
  have hwithin : ∀ k, d'.Within Document.top k ↔ d.Within Document.top k := fun k =>
    he.within_old_iff hd hd' hd.contains_top
  have hkind : ∀ {k}, d.contains k = true → d'.kind? k = d.kind? k := fun hk => (he.lookups hk).1
  have helements : ∀ {k}, d.contains k = true → d'.elements k = d.elements k := fun hk =>
    Document.elements_congr (he.lookups hk).2.2.2.2 fun x hx =>
      hkind (hd.contains_of_mem (Document.mem_inside.mpr (Or.inr hx)))
  refine hm.congr ?_ ?_ (helements hd.contains_top)
  · intro k
    rw [hwithin]
    constructor
    · rintro ⟨hel, hw⟩
      exact ⟨(Document.isElement_congr (hkind hw.contains)).symm.trans hel, hw⟩
    · rintro ⟨hel, hw⟩
      exact ⟨(Document.isElement_congr (hkind hw.contains)).trans hel, hw⟩
  · intro k hel hw
    refine ⟨Document.outer?_congr (he.lookups hw.contains).2.2.1 fun p hp => ?_,
      helements hw.contains⟩
    exact Document.isElement_congr (hkind (hd.contains_parent hp))

/-- The outline of a document does not change while attributes and texts come and go. -/
theorem Mirrors.leaf (hm : Mirrors o d) (hd : d.Forest) (hr : d.Relinked d' p taken given)
    (hp : d.Within Document.top p) (hgiven : ∀ c, given = some c → d.CanHold p c)
    (htaken : ∀ c, taken = some c → d.parent? c = some p)
    (hleaf : ∀ c, given = some c ∨ taken = some c → d.isElement c = false)
    (helements : d'.elements p = d.elements p) : Mirrors o d' := by
  -- what is moved is no element and has none inside, so that the outline does not show it
  have hlone : ∀ c k, given = some c ∨ taken = some c → d.Within c k → d.isElement k = false := by
    intro c k hc hw
    rw [hw.eq_of_leaf hd.toLinked (hleaf c hc) ?_]
    · exact hleaf c hc
    · intro hdoc
      rcases hc with hc | hc
      · rcases (hgiven c hc).kinds with ⟨ha, -⟩ | ⟨he | ht, -⟩
        · simp [Document.isAttribute, hdoc] at ha
        · simp [Document.isElement, hdoc] at he
        · simp [Document.isText, hdoc] at ht
      · exact hd.not_mem_inside hdoc (hd.mem_of_parent? (htaken c hc))
  have hkind : ∀ k, d'.isElement k = d.isElement k := fun k => Document.isElement_congr (hr.kind? k)
  have helements' : ∀ k, d'.elements k = d.elements k := by
    intro k
    by_cases hkp : k = p
    · rw [hkp, helements]
    · exact Document.elements_congr (hr.children k hkp) fun x _ => hr.kind? x
  refine hm.congr ?_ ?_ (helements' _)
  · intro k
    rw [hkind, hr.within_top_iff hd hp hgiven htaken]
    refine and_congr_right fun he => ?_
    have hne : ∀ c, given = some c ∨ taken = some c → ¬ d.Within c k := fun c hc hw => by
      rw [hlone c k hc hw] at he
      simp at he
    constructor
    · rintro (⟨hw, -⟩ | ⟨c, hc, hw⟩)
      · exact hw
      · exact absurd hw (hne c (Or.inl hc))
    · exact fun hw => Or.inl ⟨hw, fun c hc => hne c (Or.inr hc)⟩
  · intro k he hw
    have hne : ∀ c, given = some c ∨ taken = some c → c ≠ k := by
      rintro c hc rfl
      rw [hleaf c hc] at he
      simp at he
    refine ⟨Document.outer?_congr ?_ fun q _ => hkind q, helements' k⟩
    rw [hr.parent?, if_neg fun hg => hne k (Or.inl hg) rfl, if_neg fun ht => hne k (Or.inr ht) rfl]

/-- The outline of a document does not change when a node beside the document is discarded. -/
theorem Mirrors.pruned (hm : Mirrors o d) (hd : d.Linked) (hr : d.Pruned d' h) (hh : d.Held h) :
    Mirrors o d' := by
  have hout : ∀ {k}, d.Within Document.top k → ¬ d.Within h k := fun hk =>
    hd.not_within_of_detached hk hh.detached hh.ne_top
  have hkind : ∀ {k}, ¬ d.Within h k → d'.kind? k = d.kind? k := fun hk =>
    (Document.lookups_congr (hr.kept _ hk)).1
  have helements : ∀ {k}, ¬ d.Within h k → d'.elements k = d.elements k := by
    intro k hk
    refine Document.elements_congr (Document.lookups_congr (hr.kept k hk)).2.2.2.2 fun x hx => ?_
    exact hkind (Within.not_within_of_mem hd hh.detached hk (Document.mem_inside.mpr (Or.inr hx)))
  refine hm.congr ?_ ?_ (helements (hout (Within.self hd.contains_top)))
  · intro k
    rw [hr.within_top_iff hd hh.detached hh.ne_top]
    refine and_congr_left fun hw => ?_
    rw [Document.isElement_congr (hkind (hout hw))]
  · intro k he hw
    have hsame := Document.lookups_congr (hr.kept k (hout hw))
    refine ⟨Document.outer?_congr hsame.2.2.1 fun p hp => ?_, helements (hout hw)⟩
    refine Document.isElement_congr (hkind ?_)
    exact fun hwp => hout hw (hwp.step hp)

/-- The outline of a document does not change with values. -/
theorem Mirrors.setValue (hm : Mirrors o d) (hd : d.Orderly) {value : String}
    (hs : d.setValue h value = .ok d') : Mirrors o d' := by
  have hseen := fun k (hk : d.contains k = true) => Document.undisturbed_of_setValue hd hs hk
  have hlinked := (hd.setValue hs).toLinked
  have hstays : ∀ {k}, d'.contains k = true → d'.isText k = false → d.contains k = true ∧
      d'.kind? k = d.kind? k ∧ d'.parent? k = d.parent? k := by
    intro k hk ht
    rcases Document.stays_or_isText_of_setValue hd hs hk with ⟨hc, hkind, -, hpar⟩ | ⟨-, htext, -⟩
    · exact ⟨hc, hkind, hpar⟩
    · rw [ht] at htext
      simp at htext
  -- nothing is inside a text, so a path downwards does not pass the one that may be new
  have hback : ∀ {k}, d'.Within Document.top k → d'.isText k = false → d.Within Document.top k := by
    intro k hw
    induction hw with
    | self _ => exact fun _ => Within.self hd.contains_top
    | @step p k hw hp ih =>
      intro ht
      have hpt : d'.isText p = false := by
        rcases hlinked.kind_of_parent hp with he | hdoc
        · exact Workspace.not_isText_of_kinds (Or.inl he)
        · simp [Document.isText, hdoc]
      obtain ⟨-, -, hpar⟩ := hstays (Document.contains_of_parent? hp) ht
      exact (ih hpt).step (hpar.symm.trans hp)
  have hforth : ∀ {k}, d.Within Document.top k → d'.Within Document.top k := by
    intro k hw
    induction hw with
    | self _ => exact Within.self hlinked.contains_top
    | @step p k _ hp ih =>
      exact ih.step ((hseen k (Document.contains_of_parent? hp)).parent?.trans hp)
  refine hm.congr ?_ ?_ (hseen _ hd.contains_top).elements
  · intro k
    constructor
    · rintro ⟨he, hw⟩
      have ht : d'.isText k = false := Workspace.not_isText_of_kinds (Or.inl he)
      exact ⟨(Document.isElement_congr (hstays hw.contains ht).2.1).symm.trans he, hback hw ht⟩
    · rintro ⟨he, hw⟩
      exact ⟨(Document.isElement_congr (hseen k hw.contains).kind?).trans he, hforth hw⟩
  · intro k he hw
    refine ⟨Document.outer?_congr (hseen k hw.contains).parent? fun p hp => ?_,
      (hseen k hw.contains).elements⟩
    exact Document.isElement_congr (hseen p (hd.contains_parent hp)).kind?

/-- Outlines and documents are compared by their lookups. -/
theorem Mirrors.same (hm : Mirrors o d)
    (ho : ∀ k, o'.entries.get? k = o.entries.get? k) (hroot : o'.root = o.root)
    (hn : ∀ k, d'.node? k = d.node? k) : Mirrors o' d' := by
  have hd' : Mirrors o d' := by
    have hsame := fun k => Document.lookups_congr (hn k)
    have hc : ∀ k, d'.contains k = d.contains k := fun k => Document.contains_congr (hsame k).1
    have hwithin : ∀ k, d'.Within Document.top k ↔ d.Within Document.top k := fun k =>
      Document.SameParents.within_iff (fun k => (hsame k).2.2.1) hc
    have hkind : ∀ k, d'.isElement k = d.isElement k := fun k =>
      Document.isElement_congr (hsame k).1
    have helements : ∀ k, d'.elements k = d.elements k := fun k =>
      Document.elements_congr (hsame k).2.2.2.2 fun x _ => (hsame x).1
    refine hm.congr (fun k => by rw [hkind, hwithin]) (fun k _ _ => ?_) (helements _)
    exact ⟨Document.outer?_congr (hsame k).2.2.1 fun p _ => hkind p, helements k⟩
  refine ⟨hd'.single, hroot.trans hd'.root, fun k he hw => (ho k).trans (hd'.shown k he hw), ?_⟩
  intro k hk
  refine hd'.hidden k ?_
  rwa [contains, Table.contains, ho] at hk

/-! ## Changes that show -/

/-- What is left of a list without the one that joined it. -/
theorem filter_joined {xs ys : List Handle} (hx : h ∉ xs) (hy : h ∉ ys) :
    (xs ++ h :: ys).filter (fun c => some h ≠ some c) = xs ++ ys := by
  have hleft : ∀ {zs : List Handle}, h ∉ zs → zs.filter (fun c => some h ≠ some c) = zs := by
    intro zs hz
    refine List.filter_eq_self.mpr fun c hc => ?_
    rw [decide_eq_true_eq]
    intro heq
    rw [Option.some.inj heq] at hz
    exact hz hc
  rw [List.filter_append, List.filter_cons, hleft hx, hleft hy]
  simp

/-- Nothing that belongs to no parent is shown. -/
theorem Mirrors.not_contains_of_held (hm : Mirrors o d) (hd : d.Linked) (hh : d.Held h) :
    o.contains h = false := by
  by_contra hc
  rw [Bool.not_eq_false] at hc
  exact hd.not_within_of_detached (hm.hidden h hc).2 hh.detached hh.ne_top
    (Within.self hh.contains)

/-- The outline of a document does not change when an element is given an attribute. -/
theorem Mirrors.placeAttribute (hm : Mirrors o d) (hd : d.Forest) {a : Handle}
    {displaced : Option Handle} (hp : d.Within Document.top p)
    (hpl : d.placeAttribute p a = .ok (d', displaced)) : Mirrors o d' := by
  obtain ⟨hr, hcan, hattr, -⟩ := Document.relinked_placeAttribute hd.toLinked hpl
  have htaken := fun x => Document.parent?_of_displaced (h := x) hd.toLinked hpl
  refine hm.leaf hd hr hp ?_ (fun x hx => (htaken x hx).1) ?_ ?_
  · intro c hc
    exact Option.some.inj hc ▸ hcan
  · rintro c (hc | hc)
    · obtain rfl := Option.some.inj hc
      exact Document.not_isElement_of_isAttribute hattr
    · exact Document.not_isElement_of_isAttribute (htaken c hc).2
  · exact Document.elements_congr (Document.children_placeAttribute hpl p) fun x _ => hr.kind? x

/-- Showing a new element where it was placed. -/
theorem Mirrors.insert (hm : Mirrors o d) (hd : d.Forest) (hd' : d'.Forest) {q : Option Handle}
    (hp : d.Within Document.top p) (hpe : d.isElement p = true) (he : d.isElement h = true)
    (hi : d.insertAfter p q h = .ok d') : Mirrors (o.attach d' h) d' := by
  obtain ⟨hr, hpl, xs, ys, hold, hnew, -⟩ := Document.relinked_insertAfter hd.toLinked hi
  have hout := hd.not_mem_children_of_detached hpl.detached (p := p)
  rw [hold, List.mem_append, not_or] at hout
  have ht : Trades d d' p none (some h) := by
    refine ⟨hd, hd', hr, hp, ?_, ?_, by simp, ?_⟩
    · rw [hnew, hold]
      exact (filter_joined hout.1 hout.2).trans (by simp)
    · intro c hc
      obtain rfl := Option.some.inj hc
      exact ⟨hpl.canHold, he⟩
    · rintro rfl
      rw [hd.isElement_top] at hpe
      simp at hpe
  exact hm.trades ht

/-- Taking a node out of the outline that was taken out of its place, if it is shown at all. -/
theorem Mirrors.detach (hm : Mirrors o d) (hd : d.Forest) (hd' : d'.Forest)
    (hr : d.Relinked d' p (some h) none) (hp : d.Within Document.top p)
    (hpe : d.isElement p = true) (hph : d.parent? h = some p)
    (hch : d'.children p = (d.children p).filter (· ≠ h)) :
    Mirrors (if d'.isElement h then o.detach h else o) d' := by
  rw [Document.isElement_congr (hr.kind? h)]
  split_ifs with he
  · have ht : Trades d d' p (some h) none := by
      refine ⟨hd, hd', hr, hp, ?_, by simp, ?_, ?_⟩
      · rw [hch, List.filter_filter]
        refine List.filter_congr fun c _ => ?_
        by_cases hc : c = h
        · simp [hc]
        · simp [hc, Ne.symm hc]
      · intro c hc
        obtain rfl := Option.some.inj hc
        exact ⟨hph, he⟩
      · rintro rfl
        rw [hd.isElement_top] at hpe
        simp at hpe
    exact hm.trades ht
  · rw [Bool.not_eq_true] at he
    refine hm.leaf hd hr hp (by simp) ?_ ?_ ?_
    · intro c hc
      exact Option.some.inj hc ▸ hph
    · rintro c (hc | hc)
      · simp at hc
      · exact Option.some.inj hc ▸ he
    · have hkind : d'.isElement = d.isElement := by
        funext x
        exact Document.isElement_congr (hr.kind? x)
      rw [Document.elements, Document.elements, hkind, hch, List.filter_filter]
      refine List.filter_congr fun c _ => ?_
      by_cases hc : c = h
      · simp [hc, he]
      · simp [hc]

/-- What has taken the place of the outermost element is the outermost element. -/
theorem elements_top_of_swapped (hm : Mirrors o d) {w : Workspace} {old new : Handle}
    {d₀ : Document} (hsw : Swapped w Document.top old new d₀ d d') (ho : d.isElement old = true)
    (hn : d.isElement new = true) : d'.elements Document.top = [new] := by
  obtain ⟨xs, ys, hold, hnew⟩ := hsw.listed
  have hkind : d'.isElement = d.isElement := by
    funext k
    exact Document.isElement_congr (hsw.relinked.kind? k)
  -- there is only one element outside all others, so the old one
  obtain ⟨r, hr⟩ := hm.single
  rw [Document.elements, hold, List.filter_append, List.filter_cons, if_pos ho] at hr
  rw [Document.elements, hkind, hnew, List.filter_append, List.filter_cons, if_pos hn]
  cases hxs : xs.filter d.isElement with
  | nil =>
    rw [hxs] at hr
    rw [(List.cons.inj hr).2]
    rfl
  | cons x zs =>
    rw [hxs] at hr
    have := congrArg List.length hr
    simp at this

/-- Showing a copy in the place of an old element, which can be the outermost one. -/
theorem Mirrors.exchange (hm : Mirrors o d) {w : Workspace} {old new : Handle} {d₀ : Document}
    (hsw : Swapped w p old new d₀ d d') (hp : d.Within Document.top p)
    (ho : d.isElement old = true) (hn : d.isElement new = true) :
    Mirrors ((o.detach old).attach d' new) d' := by
  have horder : d.Orderly := hsw.grows.sound.orderly
  obtain ⟨xs, ys, hold, hnew⟩ := hsw.listed
  have hnd := horder.nodup_children p
  have hout := horder.not_mem_children_of_detached hsw.parent?_new (p := p)
  rw [hold, List.mem_append, List.mem_cons, not_or, not_or] at hout
  rw [hold] at hnd
  obtain ⟨hxo, hyo⟩ : old ∉ xs ∧ old ∉ ys := by
    rw [List.nodup_middle, List.nodup_cons, List.mem_append, not_or] at hnd
    exact hnd.1
  have ht : Trades d d' p (some old) (some new) := by
    refine ⟨horder.forest, hsw.orderly.forest, hsw.relinked, hp, ?_, ?_, ?_, ?_⟩
    · rw [hnew, hold]
      exact (filter_joined hout.1 hout.2.2).trans (filter_joined hxo hyo).symm
    · intro c hc
      obtain rfl := Option.some.inj hc
      exact ⟨hsw.placeable.canHold, hn⟩
    · intro c hc
      obtain rfl := Option.some.inj hc
      exact ⟨hsw.parent?_old, ho⟩
    · rintro rfl
      exact ⟨new, rfl, elements_top_of_swapped hm hsw ho hn⟩
  exact hm.trades ht

end Outline

/-! ## Runs -/

namespace Session

open Outline (Mirrors)

variable {strict sparing writing : Prop} {s s' : Session} {t t' : Stance}

/-- The outline has nothing to do with what is offered and found out. -/
theorem mirrors_of_quiet (hm : Mirrors s.workspace.outline s.document) (hq : Quiet s s') :
    Mirrors s'.workspace.outline s'.document := by
  rw [hq.workspace, hq.document]
  exact hm

/-- The element that a copy takes the place of: it is bound, and no attribute since it has a place
among children. -/
theorem isElement_of_swapped {d d' : Document} {p old new : Handle} {c : ConstraintId}
    (hs : Poised (s, none)) (hb : s.workspace.binding? old = some c)
    (hsw : Swapped s.workspace p old new s.document d d') : d.isElement old = true := by
  obtain ⟨xs, ys, hch, -⟩ := hsw.listed
  have hattr := hsw.grows.sound.orderly.toLinked.not_isAttribute_of_mem_children (h := p)
    (k := old) (by rw [hch]; simp)
  have hsame := (hsw.grows.document.lookups (Document.contains_of_parent? hsw.parent?_before)).1
  rw [Document.isAttribute_congr hsame] at hattr
  rw [Document.isElement_congr hsame]
  exact (hs.sane.kinds hb).resolve_right (by rw [hattr]; simp)

/-- A move keeps the outline the one of the document. -/
theorem Move.mirrors (hm : Move sparing writing t t') (hs : Poised t) (ht : Tended strict t)
    (ho : Mirrors t.1.workspace.outline t.1.document) :
    Mirrors t'.1.workspace.outline t'.1.document := by
  have horder := hs.sane.orderly
  have horder' := (hm.poised hs).sane.orderly
  cases hm with
  | judge hj => exact mirrors_of_quiet ho hj.quiet
  | giveUp p => exact mirrors_of_quiet ho (quiet_giveUp _ p)
  | look h => exact mirrors_of_quiet ho (quiet_offers _ h)
  | @make s t c h hc =>
    obtain ⟨hg, -⟩ := Workspace.create_loose hs.sane.toSound c
    have hb := Workspace.builds_create hs.sane.toSound c
    rw [hc] at hg hb
    show Mirrors t.1.outline t.2
    rw [hb.workspace]
    exact ho.extends hg.document horder.toLinked hg.sound.orderly.toLinked
  | @insert s d p h after hp hh hlt hd =>
    have hin := ht.within_top_of_isElement hs hp (by rintro x hx; exact Option.some.inj hx ▸ hlt)
    exact ho.insert horder.forest horder'.forest hin hp hh hd
  | @give s d p a displaced hlt hd =>
    have hin := ht.within_top_of_isElement hs (Document.isElement_of_placeAttribute hd)
      (by rintro x hx; exact Option.some.inj hx ▸ hlt)
    exact ho.placeAttribute horder.forest hin hd
  | @detach s d p h hp hspare hd =>
    obtain ⟨hr, hpar, hpe, hch⟩ := hs.relinked hp hd
    have hin := ht.within_top_of_isElement hs hpe (by simp)
    exact ho.detach horder.forest horder'.forest hr hin hpe hpar hch
  | @exchange s source d d' w node p old new c hsource hb hp hcopy hreplace hbind =>
    have hsw := hs.swapped hsource hp hcopy hreplace
    have hd : d.Linked := hsw.grows.sound.orderly.toLinked
    have hw := (hsw.builds hs.sane c).workspace
    have hnew := Workspace.isElement_of_bind (w := s.workspace) (c := c) (by rw [hbind])
    rw [hbind] at hw
    dsimp only at hw
    rw [Document.isElement_congr (hsw.relinked.kind? new)] at hnew
    have hin := ht.within_top hs (horder.toLinked.contains_parent hp) (by
      rcases horder.toLinked.kind_of_parent hp with he | hdoc
      · exact Document.not_isAttribute_of_isElement he
      · simp [Document.isAttribute, hdoc]) (by simp)
    show Mirrors ((w.outline.detach old).attach d' new) d'
    rw [show w.outline = s.workspace.outline by rw [hw]]
    refine (ho.extends hsw.grows.document horder.toLinked hd).exchange hsw ?_
      (isElement_of_swapped hs hb hsw) hnew
    exact (hsw.grows.document.within_old_iff horder.toLinked hd horder.contains_top).mpr hin
  | @discard s d h hd =>
    have hheld := hs.hand h rfl
    show Mirrors (s.workspace.forget s.document h).1.outline d
    -- what is in hand is not shown, so that there is nothing to be taken out
    rw [Workspace.outline_forget,
      Outline.detach_of_not_contains (ho.not_contains_of_held horder.toLinked hheld)]
    exact ho.pruned horder.toLinked (hs.pruned hd) hheld
  | @setValue s s' h value hwrite hv =>
    have hset := hs.setsValue hv
    obtain ⟨c, -, hw⟩ := hset.exists_claims
    rw [hw]
    exact ho.setValue horder hset.document
  | undo hu => exact ho.same hu.workspace.entries hu.workspace.root hu.node?

/-- Runs of moves keep the outline the one of the document. -/
theorem Moves.mirrors (hm : Moves sparing writing t t') (hs : Poised t) (ht : Tended strict t)
    (ho : Mirrors t.1.workspace.outline t.1.document) :
    Mirrors t'.1.workspace.outline t'.1.document := by
  induction hm with
  | refl => exact ho
  | tail hm hlast ih => exact hlast.mirrors (Moves.poised hm hs) (Moves.tended hm hs ht) ih

end Session

end GuidedXml
