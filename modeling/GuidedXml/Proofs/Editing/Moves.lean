/-
# Moves

Requests are made of a few kinds of moves. A node that was made or taken out of its place belongs to
no parent; it is in hand until it gets a place or is discarded. A stance is a session with the node
that is in hand, if there is one.

The main statement says that stances stay poised along moves: the stage is sane, and what is in hand
is a live node of its own.
-/
import GuidedXml.Proofs.Document.Attachment
import GuidedXml.Proofs.Editing.Building
import GuidedXml.Proofs.Editing.Edits
import GuidedXml.Proofs.Editing.Sanity

namespace GuidedXml

open Schema (ConstraintId)

/-! ## Swapping -/

/-- A node was copied in, from `d₀` to `d`, and the copy has no place yet. -/
structure Copied (w : Workspace) (new : Handle) (d₀ d : Document) : Prop where
  grows : Workspace.Grows (w, d₀) (w, d)
  new_eq : new = d₀.next
  contains_new : d.contains new = true
  parent?_new : d.parent? new = none
  /-- Of what was copied in, the copy alone has no parent. -/
  rooted : ∀ k, d₀.slots.size ≤ k.index → d.contains k = true → d.parent? k = none → k = new

/-- The copy has taken the place of an old node, from `d` to `d'`. -/
structure Swapped (w : Workspace) (p old new : Handle) (d₀ d d' : Document) : Prop
    extends Copied w new d₀ d where
  parent?_before : d₀.parent? old = some p
  parent?_old : d.parent? old = some p
  replaced : d.replaceChild p old new = .ok d'
  relinked : d.Relinked d' p (some old) (some new)
  placeable : d.Placeable p new
  listed : ∃ xs ys, d.children p = xs ++ old :: ys ∧ d'.children p = xs ++ new :: ys
  lt : p.index < new.index
  orderly : d'.Orderly

namespace Workspace

variable {w : Workspace} {d₀ d d' source : Document} {h k p old new node : Handle}
  {c : ConstraintId}

/-- Copying from a linked document keeps a stage sane, with the copy in hand. -/
theorem Sane.copied (hs : Sane (w, d₀)) (hsource : source.Linked)
    (hcopy : d₀.copyFrom source node = .ok (d, new)) : Copied w new d₀ d := by
  obtain ⟨t, ht, -, hwrite⟩ := Document.copyFrom_eq_ok hsource hcopy
  have hext := Document.extends_write d₀ t
  have horder := hs.orderly.write ht
  obtain ⟨hpar, hkind, -⟩ := Document.parent?_write d₀ t
  have hrooted := Document.rooted_write (P := fun k => k.index < d₀.slots.size)
    (fun k hc _ => Or.inr (Document.index_lt_of_contains hc)) ht
  have hnext : (d₀.write t).2 = d₀.next := rfl
  rw [hwrite] at hext horder hpar hkind hrooted hnext
  refine ⟨⟨hext, Rebinds.refl _ _, horder, ?_⟩, hnext, ?_, hpar, ?_⟩
  · intro k c hb
    have hk := hs.contains_of_bound hb
    rw [Document.contains_congr (hext.lookups hk).1]
    exact hk
  · show d.contains new = true
    rw [Document.contains_eq_isSome_kind?, hkind]
    rfl
  · intro k hk hc hnone
    rcases hrooted k hc hnone with rfl | hlt' | hnew
    · have : Document.top.index < d₀.slots.size :=
        Document.index_lt_of_contains hs.orderly.contains_top
      omega
    · omega
    · exact hnew.trans hnext.symm

end Workspace

namespace Copied

variable {w : Workspace} {d₀ d d' : Document} {k p old new : Handle} (hcp : Copied w new d₀ d)
include hcp

/-- The copy is new. -/
theorem le_index : d₀.slots.size ≤ new.index := by
  rw [hcp.new_eq]
  exact Nat.le_refl _

/-- What had a parent still has it. -/
theorem parent?_of_old (hp : d₀.parent? old = some p) : d.parent? old = some p := by
  rw [(hcp.grows.document.lookups (Document.contains_of_parent? hp)).2.2.1, hp]

/-- Replacing a node by the copy swaps the two. -/
theorem swapped (hd : d₀.Linked) (hp : d₀.parent? old = some p)
    (hreplace : d.replaceChild p old new = .ok d') : Swapped w p old new d₀ d d' := by
  have horder : d.Orderly := hcp.grows.sound.orderly
  have hlt : p.index < new.index := by
    rw [hcp.new_eq]
    exact Document.index_lt_of_contains (hd.contains_parent hp)
  obtain ⟨hrel, hpl, -, hlisted⟩ := Document.relinked_replaceChild horder.toLinked hreplace
  refine ⟨hcp, hp, hcp.parent?_of_old hp, hreplace, hrel, hpl, hlisted, hlt,
    hrel.orderly horder ?_ ?_⟩
  · intro x hx
    obtain rfl := Option.some.inj hx
    exact ⟨hpl.canHold, hlt⟩
  · intro x hx
    obtain rfl := Option.some.inj hx
    exact hcp.parent?_of_old hp

end Copied

namespace Swapped

variable {w w' : Workspace} {d₀ d d' : Document} {k p old new : Handle} {c : ConstraintId}
  (hsw : Swapped w p old new d₀ d d')
include hsw

/-- The copy is not the node that it is to replace. -/
theorem new_ne_old : some new ≠ some old := by
  intro he
  have hp := hsw.parent?_new
  rw [Option.some.inj he, hsw.parent?_old] at hp
  simp at hp

/-- The live nodes of the old document are as live and of the same kind as before. -/
theorem kind? (hk : d₀.contains k = true) : d'.kind? k = d₀.kind? k :=
  (hsw.relinked.kind? k).trans (hsw.grows.document.lookups hk).1

/-- No slot is lost. -/
theorem size : d₀.slots.size ≤ d'.slots.size := by
  rw [hsw.relinked.size]
  exact hsw.grows.document.size

/-- What lies below the copy is new. -/
theorem le_index_of_within (hk : d'.Within new k) : d₀.slots.size ≤ k.index :=
  Workspace.le_index_of_within hsw.orderly hsw.le_index hk

/-- What was there before does not lie below the copy. -/
theorem not_within_new (hk : d₀.contains k = true) : ¬ d'.Within new k := by
  intro hw
  have := hsw.le_index_of_within hw
  have := Document.index_lt_of_contains hk
  omega

/-- What does not lie below the copy was there before. -/
theorem contains_of_not_within (hd : d₀.Linked) (hk : d'.contains k = true)
    (hout : ¬ d'.Within new k) : d₀.contains k = true := by
  rw [Document.contains_congr (hsw.relinked.kind? k)] at hk
  by_cases hlt : d₀.slots.size ≤ k.index
  · refine absurd (hsw.relinked.within_given hsw.parent?_new rfl ?_ ?_) hout
    · intro x hx hw
      obtain rfl := Option.some.inj hx
      have hle := Workspace.le_index_of_within hsw.grows.sound.orderly hsw.le_index hw
      have := Document.index_lt_of_contains (Document.contains_of_parent? hsw.parent?_before)
      omega
    · exact hsw.grows.document.within_of_new hd hsw.grows.sound.orderly hsw.rooted hlt hk
  · rwa [Document.contains, hsw.grows.document.node? k (Nat.lt_of_not_le hlt),
      ← Document.contains] at hk

/-- Nothing below the copy is bound yet. -/
theorem unbound (hs : Workspace.Sane (w, d₀)) : Workspace.Unbound w d' new := by
  intro k hk
  cases hb : w.binding? k with
  | none => rfl
  | some c => exact absurd hk (hsw.not_within_new (hs.contains_of_bound hb))

/-- The stage is sane right after the swap. -/
theorem sane (hs : Workspace.Sane (w, d₀)) : Workspace.Sane (w, d') :=
  hs.replaced hsw.orderly hsw.size fun _ hk => hsw.kind? hk

/-- The copy is bound step by step. -/
theorem builds (hs : Workspace.Sane (w, d₀)) (c : ConstraintId) :
    Workspace.Builds d₀.slots.size (w, d') ((w.bind d' new c).1, d') :=
  Workspace.builds_bind hsw.orderly hsw.le_index (hsw.unbound hs) c

/-- The stage is sane once the copy is bound, or binding it has failed. -/
theorem sane_bind (hs : Workspace.Sane (w, d₀)) (c : ConstraintId) :
    Workspace.Sane ((w.bind d' new c).1, d') := by
  have hb := hsw.builds hs c
  have hsound := hb.sound (hsw.sane hs).toSound
  have hrebinds := Workspace.rebinds_bind hsw.orderly.toLinked w new c
  refine hs.change ?_ ?_ hsound (hb.regular (hsw.sane hs).toSound (hsw.sane hs).toRegular) ?_
  · have hw := hb.workspace
    dsimp only at hw
    rw [hw]
  · intro k hk
    exact hrebinds.binding? k (hsw.not_within_new hk)
  · intro k hk
    rwa [Document.contains_congr (hsw.kind? hk)]

end Swapped

/-! ## Quiet changes -/

namespace Session

/-- Nothing has changed but what is offered and what was found out. -/
structure Quiet (s s' : Session) : Prop where
  document : s'.document = s.document
  workspace : s'.workspace = { s.workspace with
    offers := s'.workspace.offers
    verdicts := s'.workspace.verdicts
    relevant := s'.workspace.relevant
    recorded := s'.workspace.recorded
    revisions := s'.workspace.revisions }

variable {s s' : Session}

/-- A quiet change leaves the model. -/
theorem Quiet.model (hq : Quiet s s') : s'.workspace.model = s.workspace.model := by
  rw [hq.workspace]

/-- A quiet change leaves all bindings. -/
theorem Quiet.binding? (hq : Quiet s s') (k : Handle) :
    s'.workspace.binding? k = s.workspace.binding? k := by
  rw [hq.workspace]
  rfl

/-- Judging is a quiet change. -/
theorem Judges.quiet (hj : Judges s s') : Quiet s s' where
  document := hj.document
  workspace := by rw [hj.workspace]

/-- Giving up offers is a quiet change. -/
theorem quiet_giveUp (s : Session) (p : Handle) :
    Quiet s { s with workspace := s.workspace.invalidate s.document p } where
  document := rfl
  workspace := by
    dsimp only
    rw [Workspace.invalidate_eq]

/-- Making offers is a quiet change. -/
theorem quiet_offers (s : Session) (h : Handle) : Quiet s (s.offers h).1 := by
  unfold offers
  split
  · exact ⟨rfl, rfl⟩
  · split <;> exact ⟨rfl, rfl⟩

end Session

/-! ## Stances -/

/-- A node that belongs to no parent. -/
structure Document.Held (d : Document) (h : Handle) : Prop where
  contains : d.contains h = true
  detached : d.parent? h = none
  ne_top : h ≠ top

namespace Session

/-- A session with the node that is in hand. -/
abbrev Stance := Session × Option Handle

/-- The moves that requests are made of. A sparing move takes no text out of its place, and only a
writing one sets a value. -/
inductive Move (sparing writing : Prop) : Stance → Stance → Prop
  | judge {s s' : Session} {x : Option Handle} : Judges s s' → Move sparing writing (s, x) (s', x)
  | giveUp {s : Session} {x : Option Handle} (p : Handle) : Move sparing writing (s, x)
      ({ s with workspace := s.workspace.invalidate s.document p }, x)
  | look {s : Session} {x : Option Handle} (h : Handle) :
      Move sparing writing (s, x) ((s.offers h).1, x)
  | make {s : Session} {t : Workspace.Stage} {c : ConstraintId} {h : Handle} :
      s.workspace.create s.document c = (t, some h) →
      Move sparing writing (s, none) (s.withStage t, some h)
  /-- Place an element among the children of another one, and show it. -/
  | insert {s : Session} {d : Document} {p h : Handle} {after : Option Handle} :
      s.document.isElement p = true → s.document.isElement h = true → p.index < h.index →
      s.document.insertAfter p after h = .ok d →
      Move sparing writing (s, some h)
        (s.withStage ({ s.workspace with outline := s.workspace.outline.attach d h }, d), none)
  /-- Give an element an attribute, and take the one of the same name, if there is one. -/
  | give {s : Session} {d : Document} {p a : Handle} {displaced : Option Handle} :
      p.index < a.index → s.document.placeAttribute p a = .ok (d, displaced) →
      Move sparing writing (s, some a) ({ s with document := d }, displaced)
  | detach {s : Session} {d : Document} {p h : Handle} :
      s.parentElement? h = some p → (sparing → s.document.isText h = false) →
      s.document.detach h = .ok d →
      Move sparing writing (s, none) (s.withStage ({ s.workspace with
        outline :=
          if d.isElement h then s.workspace.outline.detach h else s.workspace.outline }, d), some h)
  /-- Put a copy of another element in the place of an element, bind it and show it. -/
  | exchange {s : Session} {source d d' : Document} {w : Workspace} {node p old new : Handle}
      {c : ConstraintId} : source.Linked → s.workspace.binding? old = some c →
      s.document.parent? old = some p → s.document.copyFrom source node = .ok (d, new) →
      d.replaceChild p old new = .ok d' → s.workspace.bind d' new c = (w, true) →
      Move sparing writing (s, none) (s.withStage ({ w with
        outline := (w.outline.detach old).attach d' new }, d'), some old)
  | discard {s : Session} {d : Document} {h : Handle} : s.document.discard h = .ok d →
      Move sparing writing (s, some h) (s.withStage ((s.workspace.forget s.document h).1, d), none)
  | setValue {s s' : Session} {h : Handle} {value : String} : writing →
      s.setValue h value = (s', .ok ()) →
      Move sparing writing (s, none) (s', none)
  /-- Come back to where one was. -/
  | undo {s s' : Session} : Unchanged s s' → Move sparing writing (s, none) (s', none)

/-- Any number of moves. -/
def Moves (sparing writing : Prop) : Stance → Stance → Prop :=
  Relation.ReflTransGen (Move sparing writing)

variable {sparing writing : Prop} {s s' : Session} {t t' t'' : Stance} {x : Option Handle}
  {d : Document} {h k p a : Handle} {c : ConstraintId} {value : String}

namespace Moves

theorem refl (t : Stance) : Moves sparing writing t t :=
  Relation.ReflTransGen.refl

theorem trans (h₁ : Moves sparing writing t t') (h₂ : Moves sparing writing t' t'') :
    Moves sparing writing t t'' :=
  Relation.ReflTransGen.trans h₁ h₂

/-- One move is a run of moves. -/
theorem single (hm : Move sparing writing t t') : Moves sparing writing t t' :=
  Relation.ReflTransGen.single hm

/-- A run of moves may be followed by one more. -/
theorem tail (h₁ : Moves sparing writing t t') (hm : Move sparing writing t' t'') :
    Moves sparing writing t t'' :=
  Relation.ReflTransGen.tail h₁ hm

end Moves

/-! ## Poised stances -/

/-- The stage is sane, and what is in hand is a live node of its own. -/
structure Poised (t : Stance) : Prop where
  sane : Workspace.Sane (t.1.workspace, t.1.document)
  hand : ∀ h, t.2 = some h → t.1.document.Held h

/-- A new node is not the top of the document. -/
theorem Poised.ne_top (hs : Poised t) (hh : t.1.document.slots.size ≤ h.index) :
    h ≠ Document.top := by
  rintro rfl
  have := Document.index_lt_of_contains hs.sane.orderly.contains_top
  dsimp only at this
  omega

/-- What a node was taken out for is in hand. -/
theorem held_of_relinked (hd : s.document.Linked) {given : Option Handle}
    (hr : s.document.Relinked d p (some h) given) (hp : s.document.parent? h = some p)
    (hne : given ≠ some h) : d.Held h where
  contains := by
    rw [Document.contains_congr (hr.kind? h)]
    exact Document.contains_of_parent? hp
  detached := by rw [hr.parent?, if_neg hne, if_pos rfl]
  ne_top := by
    rintro rfl
    rw [hd.parent?_top] at hp
    simp at hp

/-! ## What moves do -/

/-- What is in hand can be discarded. -/
theorem Poised.exists_discard (hs : Poised (s, some h)) : ∃ d, s.document.discard h = .ok d := by
  have hheld := hs.hand h rfl
  obtain ⟨d, hdiscard, -⟩ :=
    Document.pruned_discard hs.sane.orderly.forest hheld.contains hheld.detached
  exact ⟨d, hdiscard⟩

/-- Discarding what is in hand takes it and all that is below it from the document. -/
theorem Poised.pruned (hs : Poised (s, some h)) (hd : s.document.discard h = .ok d) :
    s.document.Pruned d h := by
  have hheld := hs.hand h rfl
  obtain ⟨d', hdiscard, hpruned⟩ :=
    Document.pruned_discard hs.sane.orderly.forest hheld.contains hheld.detached
  obtain rfl := Except.ok.inj (hdiscard.symm.trans hd)
  exact hpruned

/-- Detaching a node takes it out of its parent. -/
theorem Poised.relinked (hs : Poised (s, none)) (hp : s.parentElement? h = some p)
    (hd : s.document.detach h = .ok d) : s.document.Relinked d p (some h) none ∧
      s.document.parent? h = some p ∧ s.document.isElement p = true ∧
      d.children p = (s.document.children p).filter (· ≠ h) := by
  obtain ⟨hpar, he⟩ := parent?_of_parentElement? hp
  obtain ⟨d', hdetach, hr, hch⟩ := Document.relinked_detach hs.sane.orderly.toLinked hpar
  obtain rfl := Except.ok.inj (hdetach.symm.trans hd)
  exact ⟨hr, hpar, he, hch⟩

/-- Exchanging an element for a copy swaps the two. -/
theorem Poised.swapped (hs : Poised (s, none)) {source d d' : Document} {node old new : Handle}
    (hsource : source.Linked) (hp : s.document.parent? old = some p)
    (hcopy : s.document.copyFrom source node = .ok (d, new))
    (hreplace : d.replaceChild p old new = .ok d') :
    Swapped s.workspace p old new s.document d d' :=
  (hs.sane.copied hsource hcopy).swapped hs.sane.orderly.toLinked hp hreplace

/-- What sets a value in a poised session does so step by step. -/
theorem Poised.setsValue (hs : Poised (s, none)) (hv : s.setValue h value = (s', .ok ())) :
    SetsValue s h value s' := by
  rcases setValue_cases hs.sane h value with ⟨fault, hfault⟩ | ⟨s'', hok, hset⟩
  · rw [hfault] at hv
    simp at hv
  · obtain rfl := (Prod.mk.inj (hok.symm.trans hv)).1
    exact hset

/-! ## What moves keep -/

/-- Every move from a poised stance leads to a poised one. -/
theorem Move.poised (hm : Move sparing writing t t') (hs : Poised t) : Poised t' := by
  cases hm with
  | judge hj => exact ⟨hj.sane hs.sane, by rw [hj.document]; exact hs.hand⟩
  | giveUp p => exact ⟨hs.sane.invalidate p, hs.hand⟩
  | @look s x h =>
    unfold Session.offers
    split
    · exact hs
    · split
      · exact hs
      · rename_i c hb
        exact ⟨hs.sane.keepOffers hb _, hs.hand⟩
  | @make s t c h hc =>
    obtain ⟨hg, hloose⟩ := Workspace.create_loose hs.sane.toSound c
    have hb := Workspace.builds_create hs.sane.toSound c
    rw [hc] at hg hloose hb
    have hl := hloose h rfl
    refine ⟨hs.sane.builds hb hg, fun x hx => ?_⟩
    obtain rfl := Option.some.inj hx
    exact ⟨hl.contains, hl.detached, hs.ne_top hl.new⟩
  | @insert s d p h after hp hh hlt hd =>
    obtain ⟨hr, hpl, -⟩ := Document.relinked_insertAfter hs.sane.orderly.toLinked hd
    have horder : d.Orderly := by
      refine hr.orderly hs.sane.orderly ?_ (by intro x hx; simp at hx)
      intro x hx
      obtain rfl := Option.some.inj hx
      exact ⟨hpl.canHold, hlt⟩
    exact ⟨(hs.sane.relinked hr horder).outline _, fun x hx => by simp at hx⟩
  | @give s d p a displaced hlt hd =>
    obtain ⟨hr, hcan, -, -⟩ := Document.relinked_placeAttribute hs.sane.orderly.toLinked hd
    have htaken := fun x => Document.parent?_of_displaced (h := x) hs.sane.orderly.toLinked hd
    have horder : d.Orderly := by
      refine hr.orderly hs.sane.orderly ?_ fun x hx => (htaken x hx).1
      intro x hx
      obtain rfl := Option.some.inj hx
      exact ⟨hcan, hlt⟩
    refine ⟨hs.sane.relinked hr horder, fun x hx => ?_⟩
    dsimp only at hx
    obtain ⟨hold, -⟩ := htaken x hx
    subst hx
    -- the attribute that was displaced is in hand now; it is not the one that came
    refine held_of_relinked hs.sane.orderly.toLinked hr hold ?_
    intro he
    rw [← Option.some.inj he, hcan.detached] at hold
    simp at hold
  | @detach s d p h hp hspare hd =>
    obtain ⟨hr, hpar, -⟩ := hs.relinked hp hd
    have horder : d.Orderly := by
      refine hr.orderly hs.sane.orderly (by intro x hx; simp at hx) ?_
      intro x hx
      obtain rfl := Option.some.inj hx
      exact hpar
    refine ⟨(hs.sane.relinked hr horder).outline _, fun x hx => ?_⟩
    obtain rfl := Option.some.inj hx
    exact held_of_relinked hs.sane.orderly.toLinked hr hpar (by simp)
  | @exchange s source d d' w node p old new c hsource hb hp hcopy hreplace hbind =>
    have hsw := hs.swapped hsource hp hcopy hreplace
    have hsane := hsw.sane_bind hs.sane c
    rw [hbind] at hsane
    refine ⟨hsane.outline _, fun x hx => ?_⟩
    obtain rfl := Option.some.inj hx
    -- what was replaced is in hand now, detached and still alive
    have hheld := held_of_relinked (s := { s with document := d }) hsw.grows.sound.orderly.toLinked
      hsw.relinked hsw.parent?_old hsw.new_ne_old
    exact hheld
  | @discard s d h hd =>
    have hheld := hs.hand h rfl
    exact ⟨hs.sane.pruned (hs.pruned hd) hheld.detached hheld.ne_top, fun x hx => by simp at hx⟩
  | setValue hwrite hv => exact ⟨(hs.setsValue hv).sane, fun x hx => by simp at hx⟩
  | undo hu => exact ⟨hs.sane.same hu.workspace hu.extends hu.node?, fun x hx => by simp at hx⟩

/-- No move changes the content model. -/
theorem Move.model (hm : Move sparing writing t t') (hs : Poised t) :
    t'.1.workspace.model = t.1.workspace.model := by
  cases hm with
  | judge hj => exact hj.quiet.model
  | giveUp p => exact (quiet_giveUp _ p).model
  | look h => exact (quiet_offers _ h).model
  | @make s t c h hc =>
    have hg := (Workspace.create_loose hs.sane.toSound c).1
    rw [hc] at hg
    exact hg.workspace.model
  | insert => rfl
  | give => rfl
  | detach => rfl
  | @exchange s source d d' w node p old new c hsource hb hp hcopy hreplace hbind =>
    have hsw := hs.swapped hsource hp hcopy hreplace
    have hrebinds := Workspace.rebinds_bind hsw.orderly.toLinked s.workspace new c
    rw [hbind] at hrebinds
    exact hrebinds.model
  | @discard s d h hd =>
    exact (Workspace.forgets_forget hs.sane.orderly.forest s.workspace h).model
  | setValue hwrite hv =>
    obtain ⟨c, -, hw⟩ := (hs.setsValue hv).exists_claims
    rw [hw]
  | undo hu => exact hu.workspace.model

/-- No move takes handles back that were given out. -/
theorem Move.size (hm : Move sparing writing t t') (hs : Poised t) :
    t.1.document.slots.size ≤ t'.1.document.slots.size := by
  have hlinked := hs.sane.orderly.toLinked
  cases hm with
  | judge hj => rw [hj.quiet.document]
  | giveUp p => exact Nat.le_refl _
  | look h => rw [(quiet_offers _ h).document]
  | @make s t c h hc =>
    have hg := (Workspace.create_loose hs.sane.toSound c).1
    rw [hc] at hg
    exact hg.document.size
  | insert hp hh hlt hd => exact Nat.le_of_eq (Document.relinked_insertAfter hlinked hd).1.size.symm
  | give hlt hd => exact Nat.le_of_eq (Document.relinked_placeAttribute hlinked hd).1.size.symm
  | detach hp hspare hd => exact Nat.le_of_eq (hs.relinked hp hd).1.size.symm
  | exchange hsource hb hp hcopy hreplace hbind =>
    exact (hs.swapped hsource hp hcopy hreplace).size
  | discard hd => exact Nat.le_of_eq (hs.pruned hd).size.symm
  | setValue hwrite hv =>
    exact (Document.kind?_of_setValue hs.sane.orderly (hs.setsValue hv).document).1
  | undo hu => exact hu.size

/-- Stances stay poised along moves. -/
theorem Moves.poised (hm : Moves sparing writing t t') (hs : Poised t) : Poised t' := by
  induction hm with
  | refl => exact hs
  | tail _ hlast ih => exact hlast.poised ih

end Session

end GuidedXml
