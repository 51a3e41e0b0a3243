/-
# Replacements

A subtree of another document is copied in behind all nodes, and takes the place of a child.

The main statements say that a copy keeps the document in order, that a replacement can be taken
back, and that nothing but handles given out is left of it then.
-/
import GuidedXml.Proofs.Document.Content
import GuidedXml.Proofs.Document.Values

namespace GuidedXml.Document

variable {d d' source : Document} {h k p old new : Handle}

/-! ## Copies -/

/-- A copy writes a proper content behind all nodes. -/
theorem copyFrom_eq_ok (hs : source.Linked) (hc : d.copyFrom source h = .ok (d', new)) :
    ∃ t : Tree, t.Proper ∧ source.kind? h = some t.kind ∧ d.write t = (d', new) := by
  unfold copyFrom at hc
  cases ht : source.content? h with
  | none => rw [ht] at hc; simp at hc
  | some t =>
    rw [ht] at hc
    obtain ⟨hproper, hkind⟩ := proper_of_contentAux hs ht
    exact ⟨t, hproper, hkind, Except.ok.inj hc⟩

/-! ## Ancestors -/

/-- In an orderly document the nodes above came earlier. -/
theorem Orderly.index_lt_of_mem_ancestors (hd : d.Orderly) (hk : k ∈ d.ancestors h) :
    k.index < h.index := by
  suffices haux : ∀ (fuel : Nat) (h : Handle), k ∈ d.ancestorsAux fuel h → k.index < h.index by
    exact haux _ h hk
  intro fuel
  induction fuel with
  | zero => simp [ancestorsAux]
  | succ fuel ih =>
    intro h hk
    rw [ancestorsAux] at hk
    cases hp : d.parent? h with
    | none => rw [hp] at hk; simp at hk
    | some p =>
      rw [hp] at hk
      have hlt := hd.parent_lt hp
      rcases List.mem_cons.mp hk with rfl | hk
      · exact hlt
      · exact Nat.lt_trans (ih p hk) hlt

/-- A loose element or text can be placed below every node that came earlier. -/
theorem Orderly.placeable (hd : d.Orderly)
    (hp : d.isElement p = true ∨ d.kind? p = some .document)
    (hk : d.isElement k = true ∨ d.isText k = true) (hdet : d.parent? k = none)
    (hlt : p.index < k.index) : d.Placeable p k where
  parent := hp
  child := hk
  detached := hdet
  not_above := by
    intro hm
    rcases List.mem_cons.mp hm with rfl | hm
    · exact Nat.lt_irrefl _ hlt
    · have := hd.index_lt_of_mem_ancestors hm
      omega

/-! ## Replacing and putting back -/

theorem attributes_replaceChild (hr : d.replaceChild p old new = .ok d') (k : Handle) :
    d'.attributes k = d.attributes k := by
  unfold replaceChild at hr
  cases hf : d.placementFault? p new with
  | some fault => rw [hf] at hr; simp at hr
  | none =>
    rw [hf] at hr
    dsimp only at hr
    cases hi : (d.children p).idxOf? old with
    | none => rw [hi] at hr; simp at hr
    | some i =>
      rw [hi] at hr
      obtain rfl := Except.ok.inj hr
      rw [attributes_update _ _ _ _ (by intro; rfl), attributes_link]

theorem replaceChild_of_placeable (hpl : d.Placeable p new) (hold : old ∈ d.children p) :
    ∃ d', d.replaceChild p old new = .ok d' := by
  obtain ⟨i, hi⟩ := idxOf?_isSome_of_mem hold
  rw [replaceChild, placementFault?_eq_none_iff.mpr hpl]
  simp only [hi]
  exact ⟨_, rfl⟩

/-- A replacement can be taken back, and then the document has the shape that it had. -/
theorem Orderly.replaceChild_back (hd : d.Orderly) (hp : d.parent? old = some p)
    (hlt : p.index < new.index) (hr : d.replaceChild p old new = .ok d') :
    ∃ d'', d'.replaceChild p new old = .ok d'' ∧ d.SameShape d'' := by
  obtain ⟨hrel, hpl, hold, xs, ys, hxs, hxs'⟩ := relinked_replaceChild hd.toLinked hr
  have horder : d'.Orderly := by
    refine hrel.orderly hd ?_ ?_
    · intro c hc
      obtain rfl := Option.some.inj hc
      exact ⟨hpl.canHold, hlt⟩
    · intro c hc
      obtain rfl := Option.some.inj hc
      exact hp
  have hne : new ≠ old := by
    rintro rfl
    rw [hpl.detached] at hp
    simp at hp
  have hdet : d'.parent? old = none := by
    rw [hrel.parent?, if_neg (by simpa using hne), if_pos rfl]
  have hkinds := hd.kinds_of_child hold
  have hpl' : d'.Placeable p old := by
    refine horder.placeable ?_ ?_ hdet (hd.parent_lt hp)
    · rw [isElement_congr (hrel.kind? p), hrel.kind?]
      exact hkinds.2
    · rw [isElement_congr (hrel.kind? old), isText_congr (hrel.kind? old)]
      exact hkinds.1
  have hnew : new ∈ d'.children p := by
    rw [hxs']
    simp
  obtain ⟨d'', hback⟩ := replaceChild_of_placeable hpl' hnew
  obtain ⟨hrel', -, -, us, vs, hus, hus'⟩ := relinked_replaceChild horder.toLinked hback
  -- the list falls in two at the new node in one way, which is how it fell at the old one
  have hsplit := split_unique (hxs' ▸ horder.nodup_children p) (hxs'.symm.trans hus)
  refine ⟨d'', hback, ?_⟩
  refine ⟨hrel'.size.trans hrel.size, fun k => (hrel'.kind? k).trans (hrel.kind? k),
    fun k => (hrel'.name k).trans (hrel.name k), ?_, ?_, fun k =>
    (attributes_replaceChild hback k).trans (attributes_replaceChild hr k)⟩
  · intro k
    rw [hrel'.parent?, hrel.parent?]
    by_cases hko : k = old
    · simp [hko, hp]
    · by_cases hkn : k = new
      · simp [hkn, Ne.symm hne, hpl.detached]
      · simp [Ne.symm hko, Ne.symm hkn]
  · intro k
    by_cases hkp : k = p
    · subst hkp
      rw [hus', ← hsplit.1, ← hsplit.2, hxs]
    · rw [hrel'.children k hkp, hrel.children k hkp]

end GuidedXml.Document
