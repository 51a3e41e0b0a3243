/-
# What nodes show

An attribute and a text show the value that is kept with them, and an element shows the first text
inside it.

The main statements say that what a node shows is changed by setting its value alone, and by nothing
that adds, moves or discards other nodes than texts.
-/
import GuidedXml.Proofs.Document.Replacement
import Mathlib.Data.List.Find

namespace GuidedXml.Document

open Document (Within)

variable {d d' : Document} {h k p c old new : Handle} {taken given : Option Handle}

/-! ## Values and texts -/

/-- The first text inside a node. -/
def firstText? (d : Document) (h : Handle) : Option Handle :=
  (d.children h).find? d.isText

/-- What a node shows is settled by what is kept with it and with the first text inside it. -/
theorem value_eq (d : Document) (h : Handle) :
    d.value h = match d.kind? h with
      | some .attribute | some .text => (d.stored h).getD ""
      | some .element => ((d.firstText? h).bind d.stored).getD ""
      | some .document | none => "" := by
  unfold value
  cases hn : d.node? h with
  | none => simp [kind?, hn]
  | some n =>
    have hkind : d.kind? h = some n.kind := by simp [kind?, hn]
    have hfirst : d.firstText? h = n.children.find? d.isText := by
      simp [firstText?, children, hn]
    rw [hkind]
    dsimp only
    cases n.kind with
    | element =>
      rw [hfirst, Option.map_bind]
      rfl
    | «attribute» => simp [stored, hn]
    | text => simp [stored, hn]
    | document => rfl

/-- The value of a node depends on its kind, on what it stores and on its first text. -/
theorem value_congr (hk : d'.kind? h = d.kind? h) (hs : d'.stored h = d.stored h)
    (hf : d'.firstText? h = d.firstText? h)
    (ht : ∀ t, d.firstText? h = some t → d'.stored t = d.stored t) : d'.value h = d.value h := by
  have hbind : (d.firstText? h).bind d'.stored = (d.firstText? h).bind d.stored := by
    cases hfirst : d.firstText? h with
    | none => rfl
    | some t => exact ht t hfirst
  rw [value_eq, value_eq, hk, hs, hf, hbind]

/-- The first text of a node depends on its children and their kinds. -/
theorem firstText?_congr (hc : d'.children h = d.children h)
    (hk : ∀ k ∈ d.children h, d'.kind? k = d.kind? k) : d'.firstText? h = d.firstText? h := by
  rw [firstText?, firstText?, hc]
  exact List.find?_congr fun k hm => isText_congr (hk k hm)

/-- A node that is no text makes no difference to the first text of a list. -/
theorem find?_insert {P : Handle → Bool} (xs ys : List Handle) (hc : P c = false) :
    (xs ++ c :: ys).find? P = (xs ++ ys).find? P := by
  simp [List.find?_append, hc]

/-- Leaving out what is not sought does not change what is found. -/
theorem find?_filter_ne {P : Handle → Bool} (xs : List Handle) (hc : P c = false) :
    (xs.filter (· ≠ c)).find? P = xs.find? P := by
  rw [List.find?_filter]
  apply List.find?_congr
  intro k _
  by_cases hkc : k = c
  · simp [hkc, hc]
  · simp [hkc]

/-! ## Growing and shrinking documents -/

/-- What was there shows what it showed. -/
theorem Extends.value (he : Extends d d') (hd : d.Linked) (hc : d.contains k = true) :
    d'.value k = d.value k := by
  have hstored : ∀ x, d.contains x = true → d'.stored x = d.stored x := fun x hx => by
    rw [stored, stored, he.node? x (index_lt_of_contains hx)]
  have heq := he.lookups hc
  have hin : ∀ x ∈ d.children k, d.contains x = true := fun x hx =>
    hd.contains_of_mem (mem_inside.mpr (Or.inr hx))
  refine value_congr heq.1 (hstored k hc) ?_ ?_
  · exact firstText?_congr heq.2.2.2.2 fun x hx => (he.lookups (hin x hx)).1
  · exact fun t ht => hstored t (hin t (List.mem_of_find?_eq_some ht))

/-- What is left shows what it showed. -/
theorem Pruned.value (hr : Pruned d d' h) (hd : d.Linked) (hroot : d.parent? h = none)
    (hk : ¬ d.Within h k) : d'.value k = d.value k := by
  have hin : ∀ x ∈ d.children k, d'.node? x = d.node? x := fun x hx =>
    hr.kept x (Within.not_within_of_mem hd hroot hk (mem_inside.mpr (Or.inr hx)))
  have heq := lookups_congr (hr.kept k hk)
  refine value_congr heq.1 ?_ ?_ ?_
  · rw [stored, stored, hr.kept k hk]
  · exact firstText?_congr heq.2.2.2.2 fun x hx => (lookups_congr (hin x hx)).1
  · intro t ht
    rw [stored, stored, hin t (List.mem_of_find?_eq_some ht)]

/-! ## Moving nodes -/

/-- Where the nodes of one parent change, all other nodes show what they showed. -/
theorem Relinked.value_of_ne (hr : Relinked d d' p taken given) (hk : k ≠ p) :
    d'.value k = d.value k :=
  value_congr (hr.kind? k) (hr.stored k)
    (firstText?_congr (hr.children k hk) fun x _ => hr.kind? x) fun t _ => hr.stored t

/-- Values stay where first texts do. -/
theorem Relinked.value (hr : Relinked d d' p taken given)
    (hf : d'.firstText? p = d.firstText? p) (k : Handle) : d'.value k = d.value k := by
  by_cases hk : k = p
  · subst hk
    exact value_congr (hr.kind? k) (hr.stored k) hf fun t _ => hr.stored t
  · exact hr.value_of_ne hk

/-- Relinking changes no texts. -/
theorem Relinked.isText_eq (hr : Relinked d d' p taken given) : d'.isText = d.isText := by
  funext x
  exact isText_congr (hr.kind? x)

/-- Inserting what is no text changes no value. -/
theorem value_insertAfter (hd : d.Linked) {q : Option Handle}
    (hi : d.insertAfter p q c = .ok d') (hc : d.isText c = false) (k : Handle) :
    d'.value k = d.value k := by
  obtain ⟨hr, -, xs, ys, hold, hnew, -⟩ := relinked_insertAfter hd hi
  refine hr.value ?_ k
  rw [firstText?, firstText?, hr.isText_eq, hnew, hold, find?_insert xs ys hc]

/-- Appending what is no text changes no value. -/
theorem value_append (hd : d.Linked) (ha : d.append p c = .ok d') (hc : d.isText c = false)
    (k : Handle) : d'.value k = d.value k := by
  obtain ⟨hr, -, hch⟩ := relinked_append hd ha
  refine hr.value ?_ k
  rw [firstText?, firstText?, hr.isText_eq, hch, find?_insert _ [] hc, List.append_nil]

/-- Detaching what is no text changes no value. -/
theorem value_detach (hd : d.Linked) (hp : d.parent? c = some p) (hdet : d.detach c = .ok d')
    (hc : d.isText c = false) (k : Handle) : d'.value k = d.value k := by
  obtain ⟨d₁, hdet', hr, hch⟩ := relinked_detach hd hp
  obtain rfl := Except.ok.inj (hdet.symm.trans hdet')
  refine hr.value ?_ k
  rw [firstText?, firstText?, hr.isText_eq, hch, find?_filter_ne _ hc]

/-- Replacing what is no text by what is none changes no value. -/
theorem value_replaceChild (hd : d.Linked) (hrep : d.replaceChild p old new = .ok d')
    (ho : d.isText old = false) (hn : d.isText new = false) (k : Handle) :
    d'.value k = d.value k := by
  obtain ⟨hr, -, -, xs, ys, hold, hnew⟩ := relinked_replaceChild hd hrep
  refine hr.value ?_ k
  rw [firstText?, firstText?, hr.isText_eq, hnew, hold, find?_insert xs ys hn,
    find?_insert xs ys ho]

/-- Placing an attribute changes no value. -/
theorem value_placeAttribute (hd : d.Linked) {displaced : Option Handle}
    (hpl : d.placeAttribute p c = .ok (d', displaced)) (k : Handle) : d'.value k = d.value k := by
  have hr := (relinked_placeAttribute hd hpl).1
  refine hr.value ?_ k
  rw [firstText?, firstText?, hr.isText_eq, children_placeAttribute hpl]

/-! ## Setting values -/

/-- Only the value of the node itself is stored anew. -/
theorem stored_revalue (d : Document) (h k : Handle) (value : String) :
    (d.update h fun n => { n with value := value }).stored k =
      if k = h then (d.stored h).map fun _ => value else d.stored k := by
  rw [stored, stored, stored, node?_update]
  by_cases hk : k = h
  · subst hk
    cases d.node? k <;> simp
  · simp [hk]

/-- Elements and attributes can be given a value. -/
theorem exists_setValue (hd : d.Orderly)
    (hk : d.isElement h = true ∨ d.isAttribute h = true) (value : String) :
    ∃ d', d.setValue h value = .ok d' := by
  unfold setValue
  rcases hk with he | ha
  · obtain ⟨n, hn⟩ := contains_iff.mp (contains_of_isElement he)
    have hkind : n.kind = .element := by simpa [isElement, kind?, hn] using he
    simp only [hn, hkind]
    split
    · exact ⟨_, rfl⟩
    · have hext := extends_push d { kind := .text, value := value }
      apply append_of_placeable
      apply (hd.createText value).placeable
      · left
        rw [createText, isElement_congr (hext.lookups (contains_of_isElement he)).1, he]
      · right
        simp [isText, kind?, createText, node?_push]
      · simp [parent?, createText, node?_push]
      · exact index_lt_of_contains (contains_of_isElement he)
  · have hc : d.contains h = true := by
      rw [isAttribute, decide_eq_true_eq] at ha
      rw [contains_eq_isSome_kind?, ha]
      rfl
    obtain ⟨n, hn⟩ := contains_iff.mp hc
    have hkind : n.kind = .attribute := by simpa [isAttribute, kind?, hn] using ha
    simp only [hn, hkind]
    exact ⟨_, rfl⟩

/-- Where one value is changed in place, nodes that do not show it show what they showed. -/
theorem value_revalue_of_ne (d : Document) {t : Handle} (value : String) (hk : k ≠ t)
    (hf : d.firstText? k ≠ some t) :
    (d.update t fun n => { n with value := value }).value k = d.value k := by
  have hshape := sameShape_revalue d t value
  refine value_congr (hshape.kind? k) (by rw [stored_revalue, if_neg hk]) ?_ ?_
  · exact firstText?_congr (hshape.children k) fun x _ => hshape.kind? x
  · intro t' ht'
    rw [stored_revalue, if_neg]
    rintro rfl
    exact hf ht'

/-- An element without a text shows the one that it gets, and no other node shows it. -/
theorem value_addText (hd : d.Orderly) {value : String} (he : d.isElement h = true)
    (hf : d.firstText? h = none) (ha : (d.createText value).1.append h d.next = .ok d') :
    d'.value h = value ∧ ∀ k, d.contains k = true → k ≠ h → d'.value k = d.value k := by
  have hc := contains_of_isElement he
  have hext := extends_push d { kind := .text, value := value }
  have hpush : (d.createText value).1.node? d.next = some { kind := .text, value := value } :=
    (node?_push d _ _).trans (if_pos rfl)
  have hold : (d.createText value).1.firstText? h = none :=
    (firstText?_congr (hext.lookups hc).2.2.2.2 fun x hx =>
      (hext.lookups (hd.contains_of_mem (mem_inside.mpr (Or.inr hx)))).1).trans hf
  obtain ⟨hr, -, hch⟩ := relinked_addText hd hc ha
  have hlast : d'.firstText? h = some d.next := by
    rw [firstText?, createText, (hext.lookups hc).2.2.2.2] at hold
    rw [firstText?, hr.isText_eq, hch, List.find?_append, createText, hold, Option.none_or,
      List.find?_singleton, isText, kind?, ← createText, hpush]
    rfl
  constructor
  · have hkind : d'.kind? h = some .element := by
      rw [hr.kind?, createText, (hext.lookups hc).1]
      simpa [isElement] using he
    have hstored : d'.stored d.next = some value := by
      rw [hr.stored, stored, hpush]
      rfl
    rw [value_eq, hkind, hlast, Option.bind_some, hstored]
    rfl
  · intro k hk hkh
    rw [hr.value_of_ne hkh, createText, hext.value hd.toLinked hk]

/-- What is shown after one value was changed, in place or by a new text. -/
theorem value_setValue (hd : d.Orderly) {value : String} (hs : d.setValue h value = .ok d')
    (ht : d.isText h = false) :
    d'.value h = value ∧ ∀ k, d.contains k = true → d.isText k = false → k ≠ h →
      d'.value k = d.value k := by
  unfold setValue at hs
  cases hn : d.node? h with
  | none => rw [hn] at hs; simp at hs
  | some n =>
    rw [hn] at hs
    dsimp only at hs
    have hkindh : d.kind? h = some n.kind := by simp [kind?, hn]
    cases hkind : n.kind with
    | document => rw [hkind] at hs; simp at hs
    | text => simp [isText, hkindh, hkind] at ht
    | «attribute» =>
      rw [hkind] at hs
      obtain rfl := Except.ok.inj hs
      constructor
      · rw [value_eq, (sameShape_revalue d h value).kind?, hkindh, hkind, stored_revalue,
          if_pos rfl]
        simp [stored, hn]
      · intro k _ _ hkh
        refine value_revalue_of_ne d value hkh ?_
        -- an attribute is no text, and so not the first one inside any node
        intro hf
        have := List.find?_some hf
        rw [ht] at this
        simp at this
    | element =>
      rw [hkind] at hs
      dsimp only at hs
      have hfirst : d.firstText? h = n.children.find? d.isText := by
        simp [firstText?, children, hn]
      rw [← hfirst] at hs
      -- the first text inside the element gets the value, or a new one if there is none
      cases hf : d.firstText? h with
      | none =>
        rw [hf] at hs
        obtain ⟨hself, hothers⟩ :=
          value_addText hd (by simp [isElement, hkindh, hkind]) hf hs
        exact ⟨hself, fun k hk _ hkh => hothers k hk hkh⟩
      | some t =>
        rw [hf] at hs
        obtain rfl := Except.ok.inj hs
        have hmem := mem_inside.mpr (Or.inr (List.mem_of_find?_eq_some hf))
        have htt : d.isText t = true := List.find?_some hf
        obtain ⟨nt, hnt⟩ := contains_iff.mp (hd.contains_of_mem hmem)
        have hshape := sameShape_revalue d t value
        constructor
        · have hset := stored_revalue d t t value
          rw [if_pos rfl] at hset
          have hft := firstText?_congr (hshape.children h) fun x _ => hshape.kind? x
          rw [value_eq, hshape.kind?, hkindh, hkind, hft, hf, Option.bind_some, hset]
          simp [stored, hnt]
        · intro k _ hkt hkh
          refine value_revalue_of_ne d value ?_ ?_
          · rintro rfl
            rw [htt] at hkt
            simp at hkt
          · -- the text is inside one node alone
            intro hfk
            have hpk := hd.parent?_of_mem (mem_inside.mpr (Or.inr (List.mem_of_find?_eq_some hfk)))
            exact hkh (Option.some.inj (hpk.symm.trans (hd.parent?_of_mem hmem)))

end GuidedXml.Document
