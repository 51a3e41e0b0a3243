/-
# Upkeep

While a document is edited, the only node without a parent, apart from the document itself, is the
one in hand; and every element and attribute keeps a label, a constraint of its own name. Where
elements may declare an attribute twice, an attribute that was displaced while an element was made
can be left without a parent, and nothing else.

The main statements say this for single moves and for runs of moves.
-/
import GuidedXml.Proofs.Conformance.Labels
import GuidedXml.Proofs.Editing.Requests

namespace GuidedXml

open Document (Within)
open Schema (ConstraintId)

/-! ## Labels -/

namespace Workspace

variable {w w' : Workspace} {d d' : Document} {h k : Handle}

/-- Whatever is as it was keeps its label. -/
theorem labelled_of_kept (hl : ∀ k, Labelled w d k) (hm : w'.model = w.model)
    (hw : w'.whitelist = w.whitelist)
    (hk : ∀ k, d'.contains k = true → Labelled w' d' k ∨
      (d'.kind? k = d.kind? k ∧ d'.name k = d.name k ∧ w'.binding? k = w.binding? k)) (k : Handle) :
    Labelled w' d' k := by
  cases hc : d'.contains k with
  | false => exact labelled_of_not_contains hc
  | true =>
    rcases hk k hc with hl' | ⟨hkind, hname, hb⟩
    · exact hl'
    · exact (hl k).congr hm hw hkind hname hb

end Workspace

namespace Session

variable {strict sparing writing : Prop} {s s' : Session} {t t' : Stance} {x : Option Handle}
  {d : Document} {h k p : Handle} {c : ConstraintId}

/-- An attribute that may have been displaced. -/
def Stray (strict : Prop) (d : Document) (k : Handle) : Prop :=
  ¬ strict ∧ d.isAttribute k = true

theorem Stray.congr {d' : Document} (hs : Stray strict d k) (hk : d'.kind? k = d.kind? k) :
    Stray strict d' k :=
  ⟨hs.1, (Document.isAttribute_congr hk).trans hs.2⟩

/-- The content model is a tree, what is in hand is the only node without a parent, and everything
has its label. -/
structure Tended (strict : Prop) (t : Stance) : Prop where
  tree : t.1.workspace.model.TreeShaped
  distinct : strict → t.1.workspace.model.AttributesDistinct
  rooted : t.1.document.Rooted fun k => Stray strict t.1.document k ∨ t.2 = some k
  labelled : ∀ k, Workspace.Labelled t.1.workspace t.1.document k

/-! ## Nodes without parents -/

/-- Relinking exchanges what is in hand. -/
theorem rooted_of_relinked {d d' : Document} {taken given : Option Handle}
    (hr : d.Relinked d' p taken given) (hd : d.Rooted fun k => Stray strict d k ∨ given = some k) :
    d'.Rooted fun k => Stray strict d' k ∨ taken = some k :=
  (hr.rooted hd).mono fun k hk => hk.imp_left fun hs => hs.congr (hr.kind? k)

/-- Where nodes are added, the new ones without a parent are in hand, and nothing was before. -/
theorem rooted_of_extends {d d' : Document} (he : d.Extends d')
    (hd : d.Rooted fun k => Stray strict d k ∨ none = some k)
    (hnew : ∀ k, d.slots.size ≤ k.index → d'.contains k = true → d'.parent? k = none →
      Stray strict d' k ∨ x = some k) : d'.Rooted fun k => Stray strict d' k ∨ x = some k := by
  intro k hk hnone
  by_cases hlt : d.slots.size ≤ k.index
  · exact Or.inr (hnew k hlt hk hnone)
  · have hsame := Document.lookups_congr (he.node? k (Nat.lt_of_not_le hlt))
    have hold := hd k ((Document.contains_congr hsame.1).symm.trans hk)
      (hsame.2.2.1.symm.trans hnone)
    rcases hold with htop | hstray | hhand
    · exact Or.inl htop
    · exact Or.inr (Or.inl (hstray.congr hsame.1))
    · simp at hhand

/-- After a move, what is in hand is still the only node without a parent. -/
theorem Move.rooted (hm : Move sparing writing t t') (hs : Poised t) (ht : Tended strict t) :
    t'.1.document.Rooted fun k => Stray strict t'.1.document k ∨ t'.2 = some k := by
  have hrooted := ht.rooted
  cases hm with
  | judge hj =>
    rw [hj.quiet.document]
    exact hrooted
  | giveUp p => exact hrooted
  | look h =>
    rw [(quiet_offers _ h).document]
    exact hrooted
  | @make s t c h hc =>
    have hf := Workspace.furnished_create ht.tree ht.distinct hs.sane.toSound c
    rw [hc] at hf
    refine rooted_of_extends hf.grows.document hrooted ?_
    intro k hk hlive hnone
    exact (hf.rooted k hk hlive hnone).symm.imp_right Option.mem_toList.mp
  | insert hp hh hlt hd =>
    exact rooted_of_relinked (Document.relinked_insertAfter hs.sane.orderly.toLinked hd).1 hrooted
  | give hlt hd =>
    have hr := (Document.relinked_placeAttribute hs.sane.orderly.toLinked hd).1
    exact rooted_of_relinked hr hrooted
  | detach hp hspare hd => exact rooted_of_relinked (hs.relinked hp hd).1 hrooted
  | @exchange s source d d' w node p old new c hsource hb hp hcopy hreplace hbind =>
    have hsw := hs.swapped hsource hp hcopy hreplace
    refine rooted_of_relinked hsw.relinked (rooted_of_extends hsw.grows.document hrooted ?_)
    intro k hk hlive hnone
    exact Or.inr (congrArg some (hsw.rooted k hk hlive hnone).symm)
  | @discard s d h hd =>
    have hpruned := hs.pruned hd
    intro k hk hnone
    obtain ⟨hk', hout⟩ := hpruned.contains_iff.mp hk
    have hsame := Document.lookups_congr (hpruned.kept k hout)
    -- what was in hand is gone with all below it
    rcases hrooted k hk' (hsame.2.2.1.symm.trans hnone) with htop | hstray | hhand
    · exact Or.inl htop
    · exact Or.inr (Or.inl (hstray.congr hsame.1))
    · rw [← Option.some.inj hhand] at hout
      exact absurd (Within.self (hs.hand h rfl).contains) hout
  | @setValue s s' h value hwrite hv =>
    intro k hk hnone
    rcases Document.stays_or_isText_of_setValue hs.sane.orderly (hs.setsValue hv).document hk with
      ⟨hold, hkind, -, hpar⟩ | ⟨-, -, hpar⟩
    · exact (hrooted k hold (hpar.symm.trans hnone)).imp_right
        (Or.imp_left fun hs => hs.congr hkind)
    · rw [hpar] at hnone
      simp at hnone
  | @undo s s' hu =>
    intro k hk hnone
    have hsame := Document.lookups_congr (hu.node? k)
    exact (hrooted k ((Document.contains_congr hsame.1).symm.trans hk)
      (hsame.2.2.1.symm.trans hnone)).imp_right (Or.imp_left fun hs => hs.congr hsame.1)

/-! ## Labels -/

/-- Labels have nothing to do with what is offered and found out. -/
theorem labelled_of_quiet (hl : Workspace.Labelled s.workspace s.document k)
    (hq : Quiet s s') : Workspace.Labelled s'.workspace s'.document k := by
  refine hl.congr hq.model ?_ ?_ ?_ (hq.binding? k)
  · rw [hq.workspace]
  · rw [hq.document]
  · rw [hq.document]

/-- After a move, everything has its label. -/
theorem Move.labelled (hm : Move sparing writing t t') (hs : Poised t) (ht : Tended strict t)
    (k : Handle) : Workspace.Labelled t'.1.workspace t'.1.document k := by
  have hl := ht.labelled
  cases hm with
  | judge hj => exact labelled_of_quiet (hl k) hj.quiet
  | giveUp p => exact labelled_of_quiet (hl k) (quiet_giveUp _ p)
  | look h => exact labelled_of_quiet (hl k) (quiet_offers _ h)
  | @make s t c h hc =>
    have hf := Workspace.furnished_create ht.tree ht.distinct hs.sane.toSound c
    rw [hc] at hf
    -- a new node is labelled by its creation, an old one as before
    by_cases hlt : s.document.slots.size ≤ k.index
    · exact hf.labelled k hlt
    · exact (hl k).grows hf.grows (Nat.lt_of_not_le hlt)
  | insert hp hh hlt hd =>
    have hr := (Document.relinked_insertAfter hs.sane.orderly.toLinked hd).1
    exact (hl k).congr rfl rfl (hr.kind? k) (hr.name k) rfl
  | give hlt hd =>
    have hr := (Document.relinked_placeAttribute hs.sane.orderly.toLinked hd).1
    exact (hl k).congr rfl rfl (hr.kind? k) (hr.name k) rfl
  | detach hp hspare hd =>
    have hr := (hs.relinked hp hd).1
    exact (hl k).congr rfl rfl (hr.kind? k) (hr.name k) rfl
  | @exchange s source d d' w node p old new c hsource hb hp hcopy hreplace hbind =>
    have hsw := hs.swapped hsource hp hcopy hreplace
    have hrebinds := Workspace.rebinds_bind hsw.orderly.toLinked s.workspace new c
    have hbound := fun k (hk : d'.Within new k) => Workspace.labelled_of_bind (c := c)
      hsw.orderly.forest ht.tree (by rw [hbind]) hk
    rw [hbind] at hrebinds hbound
    -- what is in the copy was labelled by binding it, the rest as before
    have hlabelled : Workspace.Labelled w d' k := Workspace.labelled_of_kept hl hrebinds.model
      hrebinds.whitelist (fun k hk => ?_) k
    · exact hlabelled.congr rfl rfl rfl rfl rfl
    · by_cases hw : d'.Within new k
      · exact Or.inl (hbound k hw)
      · have hold := hsw.contains_of_not_within hs.sane.orderly.toLinked hk hw
        have hsame := hsw.grows.document.lookups hold
        exact Or.inr ⟨(hsw.relinked.kind? k).trans hsame.1, (hsw.relinked.name k).trans hsame.2.1,
          hrebinds.binding? k hw⟩
  | @discard s d h hd =>
    have hpruned := hs.pruned hd
    have hforgets := Workspace.forgets_forget hs.sane.orderly.forest s.workspace h
    refine Workspace.labelled_of_kept hl hforgets.model hforgets.whitelist (fun k hk => ?_) k
    have hout := (hpruned.contains_iff.mp hk).2
    have hsame := Document.lookups_congr (hpruned.kept k hout)
    exact Or.inr ⟨hsame.1, hsame.2.1, (hforgets.left k hout).1⟩
  | @setValue s s' h value hwrite hv =>
    have hset := hs.setsValue hv
    obtain ⟨c, hb, hw⟩ := hset.exists_claims
    refine Workspace.labelled_of_kept hl ?_ ?_ (fun k hk => ?_) k
    · rw [hw]
    · rw [hw]
    -- a value may bring a text, which needs no label
    · rcases Document.stays_or_isText_of_setValue hs.sane.orderly hset.document hk with
        ⟨-, hkind, hname, -⟩ | ⟨-, htext, -⟩
      · refine Or.inr ⟨hkind, hname, ?_⟩
        rw [hw]
        rfl
      · exact Or.inl (Workspace.labelled_of_kind (Document.not_isElement_of_isText htext)
          (Document.not_isAttribute_of_isText htext))
  | @undo s s' hu =>
    have hsame := Document.lookups_congr (hu.node? k)
    exact (hl k).congr hu.workspace.model hu.workspace.whitelist hsame.1 hsame.2.1
      (hu.workspace.bindings k)

/-- Moves keep a document tended. -/
theorem Move.tended (hm : Move sparing writing t t') (hs : Poised t) (ht : Tended strict t) :
    Tended strict t' where
  tree := hm.model hs ▸ ht.tree
  distinct := hm.model hs ▸ ht.distinct
  rooted := hm.rooted hs ht
  labelled := hm.labelled hs ht

/-- Runs of moves keep a document tended. -/
theorem Moves.tended (hm : Moves sparing writing t t') (hs : Poised t) (ht : Tended strict t) :
    Tended strict t' := by
  induction hm with
  | refl => exact ht
  | tail hm hlast ih => exact hlast.tended (Moves.poised hm hs) ih

/-- While nothing is in hand, or only what came later, what is no attribute lies in the document. -/
theorem Tended.within_top (ht : Tended strict t) (hs : Poised t)
    (hp : t.1.document.contains p = true) (ha : t.1.document.isAttribute p = false)
    (hx : ∀ h, t.2 = some h → p.index < h.index) : t.1.document.Within Document.top p := by
  have horder := hs.sane.orderly
  obtain ⟨r, hnone, hw⟩ := horder.exists_outermost hp
  rcases ht.rooted r hw.contains_root hnone with rfl | ⟨-, hattr⟩ | hhand
  · exact hw
  · -- nothing lies below an attribute
    have hkind : t.1.document.kind? r = some .attribute := of_decide_eq_true hattr
    have hleaf := hw.eq_of_leaf horder.toLinked (by simp [Document.isElement, hkind])
      (by simp [hkind])
    rw [hleaf, hattr] at ha
    simp at ha
  · have hle := hw.rank_le (fun _ _ hq => horder.parent_lt hq)
    have := hx r hhand
    omega

theorem Tended.within_top_of_isElement (ht : Tended strict t) (hs : Poised t)
    (hp : t.1.document.isElement p = true) (hx : ∀ h, t.2 = some h → p.index < h.index) :
    t.1.document.Within Document.top p :=
  ht.within_top hs (Document.contains_of_isElement hp) (Document.not_isAttribute_of_isElement hp) hx

end Session

end GuidedXml
