/-
# Values

Changing the text that a leaf shows changes no links, except that an element without a text gets one
behind its children.

The main statements say which of the two it is, and that the document stays in order.
-/
import GuidedXml.Proofs.Document.Growth
import GuidedXml.Proofs.Document.Operations

namespace GuidedXml.Document

variable {d d' : Document} {h k p : Handle} {value : String}

/-! ## Documents of the same shape -/

/-- The second document differs from the first one in values alone. -/
structure SameShape (d d' : Document) : Prop where
  size : d'.slots.size = d.slots.size
  kind? : ∀ k, d'.kind? k = d.kind? k
  name : ∀ k, d'.name k = d.name k
  parent? : ∀ k, d'.parent? k = d.parent? k
  children : ∀ k, d'.children k = d.children k
  attributes : ∀ k, d'.attributes k = d.attributes k

/-- A stored value is no matter of shape. -/
theorem sameShape_revalue (d : Document) (h : Handle) (value : String) :
    SameShape d (d.update h fun n => { n with value := value }) where
  size := size_update _ _ _
  kind? := fun k => kind?_update _ _ k _ (by intro; rfl)
  name := fun k => name_update _ _ k _ (by intro; rfl)
  parent? := fun k => parent?_update _ _ k _ (by intro; rfl)
  children := fun k => children_update _ _ k _ (by intro; rfl)
  attributes := fun k => attributes_update _ _ k _ (by intro; rfl)

/-- In documents of one shape the same nodes are inside of a node. -/
theorem SameShape.inside (hs : SameShape d d') (k : Handle) : d'.inside k = d.inside k := by
  rw [Document.inside, Document.inside, hs.attributes, hs.children]

/-- In documents of one shape a node has the same elements. -/
theorem SameShape.elements (hs : SameShape d d') (k : Handle) : d'.elements k = d.elements k := by
  rw [Document.elements, Document.elements, hs.children]
  congr 1
  funext c
  exact isElement_congr (hs.kind? c)

/-- Links are a matter of shape. -/
theorem SameShape.linked (hs : SameShape d d') (hd : d.Linked) : d'.Linked where
  kind?_top := by rw [hs.kind?, hd.kind?_top]
  parent?_top := by rw [hs.parent?, hd.parent?_top]
  parent?_of_mem := by
    intro h k hk
    rw [hs.inside] at hk
    rw [hs.parent?, hd.parent?_of_mem hk]
  mem_of_parent? := by
    intro h k hp
    rw [hs.parent?] at hp
    rw [hs.inside]
    exact hd.mem_of_parent? hp
  nodup_inside := by
    intro h
    rw [hs.inside]
    exact hd.nodup_inside h
  kinds_of_attribute := by
    intro h k hk
    rw [hs.attributes] at hk
    rw [isAttribute_congr (hs.kind? k), isElement_congr (hs.kind? h)]
    exact hd.kinds_of_attribute hk
  kinds_of_child := by
    intro h k hk
    rw [hs.children] at hk
    rw [isElement_congr (hs.kind? k), isText_congr (hs.kind? k), isElement_congr (hs.kind? h),
      hs.kind?]
    exact hd.kinds_of_child hk

/-- Order is a matter of shape. -/
theorem SameShape.orderly (hs : SameShape d d') (hd : d.Orderly) : d'.Orderly where
  toLinked := hs.linked hd.toLinked
  parent_lt := by
    intro k p hp
    rw [hs.parent?] at hp
    exact hd.parent_lt hp

/-! ## Setting values -/

/-- Either a leaf shows another text, or an element gets a new text behind its children. -/
theorem setValue_cases (hs : d.setValue h value = .ok d') :
    (∃ k, (k = h ∨ k ∈ d.children h) ∧ d' = d.update k fun n => { n with value := value }) ∨
      d.isElement h = true ∧ (d.createText value).1.append h d.next = .ok d' := by
  unfold setValue at hs
  cases hn : d.node? h with
  | none => rw [hn] at hs; simp at hs
  | some n =>
    rw [hn] at hs
    simp only at hs
    cases hk : n.kind with
    | document => rw [hk] at hs; simp at hs
    | «attribute» =>
      rw [hk] at hs
      exact Or.inl ⟨h, Or.inl rfl, (Except.ok.inj hs).symm⟩
    | text =>
      rw [hk] at hs
      exact Or.inl ⟨h, Or.inl rfl, (Except.ok.inj hs).symm⟩
    | element =>
      rw [hk] at hs
      simp only at hs
      cases ht : n.children.find? d.isText with
      | some t =>
        rw [ht] at hs
        refine Or.inl ⟨t, Or.inr ?_, (Except.ok.inj hs).symm⟩
        simpa [children, hn] using List.mem_of_find?_eq_some ht
      | none =>
        rw [ht] at hs
        refine Or.inr ⟨?_, hs⟩
        simp [isElement, kind?, hn, hk]

/-- A new text keeps a document orderly. -/
theorem Orderly.createText (hd : d.Orderly) (value : String) : (d.createText value).1.Orderly :=
  hd.push rfl rfl rfl

/-- A text that is placed at the end of an element is new to it. -/
theorem relinked_addText (hd : d.Orderly) (hc : d.contains h = true)
    (ha : (d.createText value).1.append h d.next = .ok d') :
    Relinked (d.createText value).1 d' h none (some d.next) ∧ h.index < d.next.index ∧
      d'.children h = d.children h ++ [d.next] := by
  obtain ⟨hr, -, hcs⟩ := relinked_append (hd.createText value).toLinked ha
  have hold := ((extends_push d { kind := .text, value := value }).lookups hc).2.2.2.2
  refine ⟨hr, index_lt_of_contains hc, ?_⟩
  rw [hcs, createText, hold]

/-- Setting a value keeps a document in order. -/
theorem Orderly.setValue (hd : d.Orderly) (hs : d.setValue h value = .ok d') : d'.Orderly := by
  rcases setValue_cases hs with ⟨k, -, rfl⟩ | ⟨he, ha⟩
  · exact (sameShape_revalue d k value).orderly hd
  · have hpl := (relinked_append (hd.createText value).toLinked ha).2.1
    have hr := relinked_addText hd (contains_of_isElement he) ha
    refine hr.1.orderly (hd.createText value) ?_ ?_
    · intro c hc
      obtain rfl := Option.some.inj hc
      exact ⟨hpl.canHold, hr.2.1⟩
    · intro c hc
      simp at hc

/-- Setting a value loses no node, revives none, and leaves all of their kinds. -/
theorem kind?_of_setValue (hd : d.Orderly) (hs : d.setValue h value = .ok d') :
    d.slots.size ≤ d'.slots.size ∧ ∀ k, k.index < d.slots.size → d'.kind? k = d.kind? k := by
  rcases setValue_cases hs with ⟨t, -, rfl⟩ | ⟨he, ha⟩
  · have hshape := sameShape_revalue d t value
    exact ⟨Nat.le_of_eq hshape.size.symm, fun k _ => hshape.kind? k⟩
  · have hr := (relinked_addText hd (contains_of_isElement he) ha).1
    have hext := extends_push d { kind := .text, value := value }
    refine ⟨Nat.le_trans hext.size (Nat.le_of_eq hr.size.symm), ?_⟩
    intro k hk
    exact (hr.kind? k).trans (lookups_congr (hext.node? k hk)).1

/-- After a value was set, a node is where it was, or it is a text that got its place. -/
theorem stays_or_isText_of_setValue (hd : d.Orderly) (hs : d.setValue h value = .ok d')
    (hc : d'.contains k = true) :
    (d.contains k = true ∧ d'.kind? k = d.kind? k ∧ d'.name k = d.name k ∧
      d'.parent? k = d.parent? k) ∨
      (d.contains k = false ∧ d'.isText k = true ∧ d'.parent? k = some h) := by
  rcases setValue_cases hs with ⟨t, -, rfl⟩ | ⟨he, ha⟩
  · have hshape := sameShape_revalue d t value
    rw [contains_congr (hshape.kind? k)] at hc
    exact Or.inl ⟨hc, hshape.kind? k, hshape.name k, hshape.parent? k⟩
  · have hr := (relinked_addText hd (contains_of_isElement he) ha).1
    by_cases hk : k = d.next
    · subst hk
      refine Or.inr ⟨contains_eq_false_of_le (Nat.le_refl _), ?_, by rw [hr.parent?, if_pos rfl]⟩
      rw [isText_congr (hr.kind? _)]
      simp [isText, kind?, createText, node?_push]
    · have hsame := lookups_congr ((node?_push d { kind := .text, value := value } k).trans
        (if_neg hk))
      rw [← createText] at hsame
      rw [contains_congr (hr.kind? k), contains_congr hsame.1] at hc
      refine Or.inl ⟨hc, (hr.kind? k).trans hsame.1, (hr.name k).trans hsame.2.1, ?_⟩
      rw [hr.parent?, if_neg (fun he => hk (Option.some.inj he).symm), if_neg (by simp),
        hsame.2.2.1]

/-! ## Attributes -/

/-- Appending changes no kinds. -/
theorem kind?_append {p c : Handle} (ha : d.append p c = .ok d') (k : Handle) :
    d'.kind? k = d.kind? k := by
  unfold append at ha
  split at ha
  · simp at ha
  · obtain rfl := Except.ok.inj ha
    exact kind?_link _ k

/-- Appending changes no attributes. -/
theorem attributes_append {p c : Handle} (ha : d.append p c = .ok d') (k : Handle) :
    d'.attributes k = d.attributes k := by
  unfold append at ha
  split at ha
  · simp at ha
  · obtain rfl := Except.ok.inj ha
    exact attributes_link _ k

/-- Setting a value gives and takes no attribute. -/
theorem attributes_setValue {value : String} (hs : d.setValue h value = .ok d')
    (hc : d.contains k = true) : d'.attributes k = d.attributes k := by
  rcases setValue_cases hs with ⟨t, -, rfl⟩ | ⟨-, ha⟩
  · exact (sameShape_revalue d t value).attributes k
  · rw [attributes_append ha]
    exact ((extends_push d { kind := .text, value := value }).lookups hc).2.2.2.1

end GuidedXml.Document
