/-
# Surroundings

What can be seen from a node: its own kind and name, the names of its attributes and of the elements
inside it, its parent, the run it is part of, and its previous sibling.

The main statements say for which nodes the changes of a document leave all of this as it was.
-/
import GuidedXml.Proofs.Document.Values

namespace GuidedXml.Document

variable {d d' d'' : Document} {h k p c : Handle}

/-- The same can be seen from the node in both documents. -/
structure Undisturbed (d d' : Document) (h : Handle) : Prop where
  kind? : d'.kind? h = d.kind? h
  name : d'.name h = d.name h
  attribute? : ∀ n, (d'.attribute? h n).isNone = (d.attribute? h n).isNone
  elements : d'.elements h = d.elements h
  name_of_mem : ∀ k ∈ d.elements h, d'.name k = d.name k
  parent? : d'.parent? h = d.parent? h
  parent_isElement : ∀ p, d.parent? h = some p → d'.isElement p = d.isElement p
  runLength : d'.runLength h = d.runLength h
  previousSibling? : d'.previousSibling? h = d.previousSibling? h

namespace Undisturbed

theorem refl (d : Document) (h : Handle) : Undisturbed d d h := by
  refine ⟨rfl, rfl, ?_, rfl, ?_, rfl, ?_, rfl, rfl⟩ <;> intros <;> rfl

theorem trans (h₁ : Undisturbed d d' h) (h₂ : Undisturbed d' d'' h) : Undisturbed d d'' h where
  kind? := h₂.kind?.trans h₁.kind?
  name := h₂.name.trans h₁.name
  attribute? := fun n => (h₂.attribute? n).trans (h₁.attribute? n)
  elements := h₂.elements.trans h₁.elements
  name_of_mem := fun k hk =>
    (h₂.name_of_mem k (h₁.elements ▸ hk)).trans (h₁.name_of_mem k hk)
  parent? := h₂.parent?.trans h₁.parent?
  parent_isElement := fun p hp =>
    (h₂.parent_isElement p (h₁.parent?.trans hp)).trans (h₁.parent_isElement p hp)
  runLength := h₂.runLength.trans h₁.runLength
  previousSibling? := h₂.previousSibling?.trans h₁.previousSibling?

end Undisturbed

/-! ## Lookups that settle what can be seen -/

theorem takeWhile_congr {l : List Handle} {f g : Handle → Bool} (hfg : ∀ k ∈ l, f k = g k) :
    l.takeWhile f = l.takeWhile g := by
  induction l with
  | nil => rfl
  | cons x xs ih =>
    rw [List.takeWhile_cons, List.takeWhile_cons, hfg x (List.mem_cons_self ..),
      ih fun k hk => hfg k (List.mem_cons_of_mem _ hk)]

theorem dropWhile_congr {l : List Handle} {f g : Handle → Bool} (hfg : ∀ k ∈ l, f k = g k) :
    l.dropWhile f = l.dropWhile g := by
  induction l with
  | nil => rfl
  | cons x xs ih =>
    rw [List.dropWhile_cons, List.dropWhile_cons, hfg x (List.mem_cons_self ..),
      ih fun k hk => hfg k (List.mem_cons_of_mem _ hk)]

theorem attribute?_isNone_congr (hattr : ∀ k, k ∈ d'.attributes h ↔ k ∈ d.attributes h)
    (hname : ∀ k ∈ d.attributes h, d'.name k = d.name k) (n : String) :
    (d'.attribute? h n).isNone = (d.attribute? h n).isNone := by
  rw [Bool.eq_iff_iff, Option.isNone_iff_eq_none, Option.isNone_iff_eq_none, Document.attribute?,
    Document.attribute?, List.find?_eq_none, List.find?_eq_none]
  constructor
  · intro hall k hk
    have := hall k ((hattr k).mpr hk)
    rw [hname k hk] at this
    exact this
  · intro hall k hk
    rw [hattr] at hk
    rw [hname k hk]
    exact hall k hk

/-- Runs are made of the names of the elements among siblings. -/
theorem runLength_congr (hp : d'.parent? h = d.parent? h) (hn : d'.name h = d.name h)
    (he : ∀ p, d.parent? h = some p → d'.elements p = d.elements p ∧
      ∀ k ∈ d.elements p, d'.name k = d.name k) : d'.runLength h = d.runLength h := by
  unfold Document.runLength
  rw [hp]
  cases hq : d.parent? h with
  | none => rfl
  | some p =>
    obtain ⟨hes, hnames⟩ := he p hq
    dsimp only
    rw [hes, hn]
    have hsame : ∀ l : List Handle, (∀ k ∈ l, k ∈ d.elements p) →
        l.takeWhile (fun s => decide (d'.name s = d.name h)) =
          l.takeWhile (fun s => decide (d.name s = d.name h)) := by
      intro l hl
      apply takeWhile_congr
      intro k hk
      rw [hnames k (hl k hk)]
    rw [hsame _ ?_, hsame _ ?_]
    · intro k hk
      exact (List.dropWhile_sublist _).mem (List.mem_of_mem_drop hk)
    · intro k hk
      exact (List.takeWhile_sublist _).mem (List.mem_reverse.mp hk)

/-- The child just before a node is the last one of those that stand before it. -/
theorem previousSibling?_of_split (hd : d.Linked) {xs ys : List Handle}
    (hs : d.children p = xs ++ h :: ys) (ha : d.isAttribute h = false) :
    d.previousSibling? h = xs.getLast? := by
  have hmem : h ∈ d.children p := by
    rw [hs]
    exact List.mem_append_right _ (List.mem_cons_self ..)
  have hp := hd.parent?_of_mem (mem_inside.mpr (Or.inr hmem))
  obtain ⟨i, hi⟩ := idxOf?_isSome_of_mem hmem
  obtain ⟨xs', ys', hs', rfl⟩ := exists_split_of_idxOf? hi
  have hnd := hd.nodup_children p
  rw [hs] at hnd
  obtain ⟨rfl, -⟩ := split_unique hnd (hs.symm.trans hs')
  have hprev : d.previousSibling? h = if xs.length = 0 then none else (d.children p)[xs.length - 1]? := by
    simp [Document.previousSibling?, indexInParent?, ha, hp, hi]
  rw [hprev, hs, List.getLast?_eq_getElem?]
  split_ifs with hz
  · rw [List.length_eq_zero_iff.mp hz]
    rfl
  · rw [List.getElem?_append_left (by omega)]

theorem previousSibling?_congr (hk : d'.kind? h = d.kind? h) (hp : d'.parent? h = d.parent? h)
    (hc : ∀ p, d.parent? h = some p → d'.children p = d.children p) :
    d'.previousSibling? h = d.previousSibling? h := by
  have ha := isAttribute_congr hk
  cases hq : d.parent? h with
  | none => simp [Document.previousSibling?, hp, hq, ha]
  | some p =>
    cases hattr : d.isAttribute h with
    | true => simp [Document.previousSibling?, ha, hattr]
    | false => simp [Document.previousSibling?, indexInParent?, hp, hq, ha, hattr, hc p hq]

/-- Nothing is disturbed where the node, its parent, and what the two list are looked up as
before. -/
theorem undisturbed_of_lookups (hkind : d'.kind? h = d.kind? h) (hname : d'.name h = d.name h)
    (hparent : d'.parent? h = d.parent? h)
    (hattr : ∀ k, k ∈ d'.attributes h ↔ k ∈ d.attributes h)
    (hchildren : d'.children h = d.children h)
    (hbelow : ∀ k ∈ d.inside h, d'.kind? k = d.kind? k ∧ d'.name k = d.name k)
    (habove : ∀ p, d.parent? h = some p → d'.kind? p = d.kind? p ∧ d'.children p = d.children p ∧
      ∀ k ∈ d.children p, d'.kind? k = d.kind? k ∧ d'.name k = d.name k) :
    Undisturbed d d' h where
  kind? := hkind
  name := hname
  attribute? := attribute?_isNone_congr hattr fun k hk =>
    (hbelow k (mem_inside.mpr (Or.inl hk))).2
  elements := elements_congr hchildren fun k hk => (hbelow k (mem_inside.mpr (Or.inr hk))).1
  name_of_mem := fun k hk => (hbelow k (mem_inside.mpr (Or.inr (mem_elements.mp hk).1))).2
  parent? := hparent
  parent_isElement := fun p hp => isElement_congr (habove p hp).1
  runLength := by
    refine runLength_congr hparent hname ?_
    intro p hp
    obtain ⟨-, hcs, hsib⟩ := habove p hp
    exact ⟨elements_congr hcs fun k hk => (hsib k hk).1,
      fun k hk => (hsib k (mem_elements.mp hk).1).2⟩
  previousSibling? := previousSibling?_congr hkind hparent fun p hp => (habove p hp).2.1

/-! ## Changes of documents -/

/-- Nodes that were there are not disturbed by new ones. -/
theorem Extends.undisturbed (he : Extends d d') (hd : d.Linked) (hc : d.contains h = true) :
    Undisturbed d d' h := by
  have hsame := he.lookups hc
  have hlive : ∀ {k}, d.contains k = true → d'.kind? k = d.kind? k ∧ d'.name k = d.name k :=
    fun hk => ⟨(he.lookups hk).1, (he.lookups hk).2.1⟩
  refine undisturbed_of_lookups hsame.1 hsame.2.1 hsame.2.2.1 (by simp [hsame.2.2.2.1])
    hsame.2.2.2.2 ?_ ?_
  · intro k hk
    exact hlive (hd.contains_of_mem hk)
  · intro p hp
    have hpc := hd.contains_parent hp
    refine ⟨(he.lookups hpc).1, (he.lookups hpc).2.2.2.2, ?_⟩
    intro k hk
    exact hlive (hd.contains_of_mem (mem_inside.mpr (Or.inr hk)))

/-- Changing values disturbs nothing. -/
theorem SameShape.undisturbed (hs : SameShape d d') (h : Handle) : Undisturbed d d' h := by
  have hsame : ∀ k, d'.kind? k = d.kind? k ∧ d'.name k = d.name k := fun k =>
    ⟨hs.kind? k, hs.name k⟩
  refine undisturbed_of_lookups (hs.kind? h) (hs.name h) (hs.parent? h)
    (by simp [hs.attributes]) (hs.children h) (fun k _ => hsame k) ?_
  intro p _
  exact ⟨hs.kind? p, hs.children p, fun k _ => hsame k⟩

/-- Moving nodes into a parent or out of it disturbs at most the parent, what is inside it, and the
nodes moved. -/
theorem Relinked.undisturbed {taken given : Option Handle} (hr : Relinked d d' p taken given)
    (hh : h ≠ p) (hp : d'.parent? h ≠ some p) (ht : taken ≠ some h) : Undisturbed d d' h := by
  have hg : given ≠ some h := by
    intro hg
    rw [hr.parent?, if_pos hg] at hp
    exact hp rfl
  have hparent : d'.parent? h = d.parent? h := by rw [hr.parent?, if_neg hg, if_neg ht]
  have hsame : ∀ k, d'.kind? k = d.kind? k ∧ d'.name k = d.name k := fun k =>
    ⟨hr.kind? k, hr.name k⟩
  refine undisturbed_of_lookups (hr.kind? h) (hr.name h) hparent
    (by simp [hr.attributes h hh]) (hr.children h hh) (fun k _ => hsame k) ?_
  intro q hq
  have hqp : q ≠ p := by
    rintro rfl
    exact hp (hparent.trans hq)
  exact ⟨hr.kind? q, hr.children q hqp, fun k _ => hsame k⟩

/-- Removing a subtree disturbs no node that is left. -/
theorem Pruned.undisturbed (hr : Pruned d d' c) (hd : d.Linked) (hroot : d.parent? c = none)
    (hh : ¬ d.Within c h) : Undisturbed d d' h := by
  have hsame := lookups_congr (hr.kept h hh)
  have hlist : ∀ {k}, ¬ d.Within c k → ∀ x ∈ d.inside k,
      d'.kind? x = d.kind? x ∧ d'.name x = d.name x := by
    intro k hk x hx
    have hx' := lookups_congr (hr.kept x (Within.not_within_of_mem hd hroot hk hx))
    exact ⟨hx'.1, hx'.2.1⟩
  refine undisturbed_of_lookups hsame.1 hsame.2.1 hsame.2.2.1 (by simp [hsame.2.2.2.1])
    hsame.2.2.2.2 (hlist hh) ?_
  intro p hp
  have hpw : ¬ d.Within c p := fun hw => hh (hw.step hp)
  have hps := lookups_congr (hr.kept p hpw)
  exact ⟨hps.1, hps.2.2.2.2, fun k hk => hlist hpw k (mem_inside.mpr (Or.inr hk))⟩

/-- A text behind all children disturbs nothing. -/
theorem Relinked.undisturbed_of_text {t : Handle} (hr : Relinked d d' p none (some t))
    (hd : d.Linked) (ht : d.isText t = true) (hcs : d'.children p = d.children p ++ [t])
    (hh : h ≠ t) : Undisturbed d d' h := by
  have hg : some t ≠ some h := fun he => hh (Option.some.inj he).symm
  have hparent : d'.parent? h = d.parent? h := by rw [hr.parent?, if_neg hg, if_neg (by simp)]
  have hattr : ∀ q k, k ∈ d'.attributes q ↔ k ∈ d.attributes q := by
    intro q k
    by_cases hq : q = p
    · subst hq
      have hta := not_isAttribute_of_isText ht
      rw [hr.mem_attributes]
      constructor
      · rintro (⟨he, ha⟩ | ⟨hk, -⟩)
        · rw [← Option.some.inj he, hta] at ha
          simp at ha
        · exact hk
      · intro hk
        exact Or.inr ⟨hk, by simp⟩
    · rw [hr.attributes q hq]
  -- a text is no element, so that no list of elements is longer
  have helements : ∀ q, d'.elements q = d.elements q := by
    intro q
    by_cases hq : q = p
    · subst hq
      have hte : d'.isElement t = false := by
        rw [isElement_congr (hr.kind? t)]
        exact not_isElement_of_isText ht
      rw [Document.elements, Document.elements, hcs, List.filter_append]
      simp only [List.filter_cons, hte, Bool.false_eq_true, if_false, List.filter_nil,
        List.append_nil]
      apply List.filter_congr
      intro k _
      exact isElement_congr (hr.kind? k)
    · exact elements_congr (hr.children q hq) fun k _ => hr.kind? k
  refine ⟨hr.kind? h, hr.name h, attribute?_isNone_congr (hattr h) fun k _ => hr.name k,
    helements h, fun k _ => hr.name k, hparent, fun q _ => isElement_congr (hr.kind? q),
    runLength_congr hparent (hr.name h) fun q _ => ⟨helements q, fun k _ => hr.name k⟩, ?_⟩
  by_cases hp : d.parent? h = some p
  · by_cases ha : d.isAttribute h = true
    · simp [Document.previousSibling?, isAttribute_congr (hr.kind? h), ha]
    · -- what stands before a child is not changed by what comes behind all children
      rw [Bool.not_eq_true] at ha
      have hmem : h ∈ d.children p := hd.mem_children_iff.mpr ⟨hp, ha⟩
      obtain ⟨i, hi⟩ := idxOf?_isSome_of_mem hmem
      obtain ⟨xs, ys, hsplit, hlen⟩ := exists_split_of_idxOf? hi
      have hi' : (d'.children p).idxOf? h = some i := by
        rw [hcs, List.idxOf?, List.findIdx?_append]
        rw [List.idxOf?] at hi
        rw [hi]
        rfl
      simp only [Document.previousSibling?, indexInParent?, isAttribute_congr (hr.kind? h), ha,
        hparent, hp, Option.bind_eq_bind, Option.bind_some, Bool.false_eq_true, if_false, hi, hi']
      split
      · rfl
      · rw [hcs, List.getElem?_append_left]
        rw [hsplit, List.length_append]
        omega
  · refine previousSibling?_congr (hr.kind? h) hparent ?_
    intro q hq
    refine hr.children q ?_
    rintro rfl
    exact hp hq

/-- Setting a value disturbs no node that was there. -/
theorem undisturbed_of_setValue (hd : d.Orderly) {value : String}
    (hs : d.setValue k value = .ok d') (hc : d.contains h = true) : Undisturbed d d' h := by
  rcases setValue_cases hs with ⟨t, -, rfl⟩ | ⟨he, ha⟩
  · exact (sameShape_revalue d t value).undisturbed h
  · have hext := extends_push d { kind := .text, value := value }
    refine (hext.undisturbed hd.toLinked hc).trans ?_
    have hadd := relinked_append (hd.createText value).toLinked ha
    refine hadd.1.undisturbed_of_text (hd.createText value).toLinked ?_ hadd.2.2
      (ne_next_of_contains hc)
    simp [isText, Document.kind?, createText, node?_push]

end GuidedXml.Document
