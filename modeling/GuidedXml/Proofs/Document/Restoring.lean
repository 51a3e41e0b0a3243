/-
# Restored documents

A document that was written and read again has the same elements with the same names and
attributes. Its texts are those that can be told from their surroundings: texts side by side have
become one, and blank ones are lost, so an element shows its first text that has more than blanks.

The main statement says that a document with plain names is written, read again and so restored.
-/
import GuidedXml.Proofs.Document.Showing
import GuidedXml.Proofs.Markup.RoundTrip

namespace GuidedXml.Document

variable {d d' : Document} {h h' k r : Handle} {t u : Tree} {fuel fuel' : Nat}

/-! ## Contents and values -/

section Lists

variable {α β γ : Type} {xs : List α} {ys : List β} {zs : List γ}

/-- Two lists that go with the same one go with each other. -/
theorem forall₂_of_common {R : α → γ → Prop} {S : β → γ → Prop} {T : α → β → Prop}
    (hR : List.Forall₂ R xs zs) (hS : List.Forall₂ S ys zs)
    (hT : ∀ x y z, R x z → S y z → T x y) : List.Forall₂ T xs ys := by
  induction hR generalizing ys with
  | nil =>
    cases hS
    exact .nil
  | cons hx _ ih =>
    cases hS with
    | cons hy hys => exact .cons (hT _ _ _ hx hy) (ih hys)

end Lists

theorem value_of_isText (hk : d.isText k = true) : d.value k = (d.stored k).getD "" := by
  have hkind : d.kind? k = some .text := by simpa [isText] using hk
  rw [value_eq, hkind]

theorem value_of_isElement (hk : d.isElement k = true) :
    d.value k = ((d.firstText? k).bind d.stored).getD "" := by
  have hkind : d.kind? k = some .element := by simpa [isElement] using hk
  rw [value_eq, hkind]

namespace Bears

variable {n : Nat}

/-- The elements inside are in the places of the elements of the content. -/
theorem elements (hd : d.Linked) (hb : d.Bears n h t) :
    List.Forall₂ (fun c u => d.contentAux n c = some u ∧ u.kind = .element) (d.elements h)
      t.elements := by
  have hin := hb.children
  rw [Document.elements, Tree.elements]
  generalize d.children h = cs at hin ⊢
  generalize t.children = us at hin ⊢
  induction hin with
  | nil => exact .nil
  | @cons c u cs us hc _ ih =>
    obtain ⟨m, -, hbc⟩ := exists_bears hd hc
    by_cases hk : u.kind = .element
    · rw [List.filter_cons_of_pos (by simp [hbc.isElement, hk]),
        List.filter_cons_of_pos (by simp [hk])]
      exact .cons ⟨hc, hk⟩ ih
    · rw [List.filter_cons_of_neg (by simp [hbc.isElement, hk]),
        List.filter_cons_of_neg (by simp [hk])]
      exact ih

/-- An element shows the first text inside its content. -/
theorem value (hd : d.Linked) (hb : d.Bears n h t) (hk : t.kind = .element) :
    d.value h = t.textInside := by
  have hfind : ((d.children h).find? d.isText).bind d.stored =
      (t.children.find? fun u => u.kind = .text).map Tree.ownValue := by
    have hin := hb.children
    generalize d.children h = cs at hin ⊢
    generalize t.children = us at hin ⊢
    induction hin with
    | nil => rfl
    | @cons c u cs us hc _ ih =>
      obtain ⟨m, -, hbc⟩ := exists_bears hd hc
      by_cases hku : u.kind = .text
      · rw [List.find?_cons_of_pos (by simp [hbc.isText, hku]),
          List.find?_cons_of_pos (by simp [hku]), Option.bind_some, hbc.stored]
        rfl
      · rw [List.find?_cons_of_neg (by simp [hbc.isText, hku]),
          List.find?_cons_of_neg (by simp [hku]), ih]
  rw [value_of_isElement (by simp [hb.isElement, hk]), firstText?, hfind]
  rfl

end Bears

/-! ## What remains -/

/-- The texts just inside a node, those side by side joined. -/
def textRuns (d : Document) (h : Handle) : List String :=
  Text.runs d.isText d.value (d.children h)

/-- What a node shows after it was written and read again. -/
def lastingValue (d : Document) (h : Handle) : String :=
  Text.firstSolid (d.textRuns h)

/-- The node shows the same after it was written and read again: all texts just inside it are empty,
or the first one has more than blanks and no other text follows it at once. -/
def KeepsValue (d : Document) (h : Handle) : Prop :=
  (∀ k ∈ d.children h, d.isText k = true → d.value k = "") ∨
    ∃ before k after, d.children h = before ++ k :: after ∧ (∀ j ∈ before, d.isText j = false) ∧
      d.isText k = true ∧ Text.isSolid (d.value k) = true ∧
      ∀ j, after.head? = some j → d.isText j = false

theorem lastingValue_eq_value (he : d.isElement h = true) (hk : d.KeepsValue h) :
    d.lastingValue h = d.value h := by
  rw [value_of_isElement he, firstText?, lastingValue, textRuns]
  rcases hk with hempty | ⟨before, k, after, hc, hbefore, hk, hsolid, hafter⟩
  · rw [Text.firstSolid_runs_of_forall hempty]
    cases hfind : (d.children h).find? d.isText with
    | none => rfl
    | some k =>
      have hk := List.find?_some hfind
      rw [Option.bind_some, ← value_of_isText hk, hempty k (List.mem_of_find?_eq_some hfind) hk]
  · have hfind : (before ++ k :: after).find? d.isText = some k := by
      rw [List.find?_append, List.find?_eq_none.mpr (by simpa using hbefore), Option.none_or,
        List.find?_cons_of_pos hk]
    rw [hc, hfind, Option.bind_some, ← value_of_isText hk]
    exact Text.firstSolid_runs hbefore hk hsolid hafter

theorem Bears.lastingValue (hd : d.Linked) {n : Nat} (hb : d.Bears n h t) : d.lastingValue h =
    Text.firstSolid (Text.runs (fun u : Tree => u.kind = .text) Tree.ownValue t.children) := by
  refine congrArg Text.firstSolid (Text.runs_eq_of_forall₂ (hb.children.imp fun c u hc => ?_))
  obtain ⟨m, -, hbc⟩ := exists_bears hd hc
  exact ⟨hbc.isText, fun hk => by rw [value_of_isText hk, hbc.stored]; rfl⟩

/-! ## Restoring -/

/-- An element of a document as it is in another one after it was written and read again: under the
same name, with the same attributes in the same order, showing what lasts, and with the same elements
inside. -/
inductive Restored (d d' : Document) : Handle → Handle → Prop
  | element {h h' : Handle} : d.isElement h = true → d'.isElement h' = true →
      d'.name h' = d.name h → d'.labels h' = d.labels h → d'.value h' = d.lastingValue h →
      List.Forall₂ (Restored d d') (d.elements h) (d'.elements h') → Restored d d' h h'

/-- An element is restored where its settled content is. -/
theorem restored_of_contentAux (hd : d.Linked) (hd' : d'.Linked) (hk : t.kind = .element)
    (ht : d.contentAux fuel h = some t) (ht' : d'.contentAux fuel' h' = some t.settled) :
    Restored d d' h h' := by
  -- by induction on the depth of the content
  induction fuel generalizing fuel' h h' t with
  | zero => simp [contentAux] at ht
  | succ n ih =>
    obtain ⟨hproper, -⟩ := proper_of_contentAux hd ht
    obtain ⟨m, hm, hb⟩ := exists_bears hd ht
    obtain rfl := Nat.succ.inj hm
    obtain ⟨n', rfl, hb'⟩ := exists_bears hd' ht'
    have hkinds : ∀ u ∈ t.children, u.kind = .element ∨ u.kind = .text := by
      obtain ⟨-, -, hkinds, -⟩ := hproper
      exact hkinds
    have hk' : t.settled.kind = .element := (Tree.kind_settled (Or.inl hk)).trans hk
    have hsettled := Tree.settled_element (t := t) (by simp [hk])
    refine .element (by simp [hb.isElement, hk]) (by simp [hb'.isElement, hk']) ?_ ?_ ?_ ?_
    · rw [hb'.name, hb.name, hsettled]
      rfl
    · rw [hb'.labels, hb.labels, hsettled]
      rfl
    · rw [hb'.value hd' hk', hb.lastingValue hd, Tree.textInside_settled hk]
    · have helements' := hb'.elements hd'
      rw [Tree.elements_settled hk hkinds, List.forall₂_map_right_iff] at helements'
      exact forall₂_of_common (hb.elements hd) helements' fun c c' u hc hc' =>
        ih hc.2 hc.1 hc'.1

/-! ## Written and read again -/

/-- Plain names of a document are plain names of its contents. -/
theorem plainlyNamed_of_contentAux (hd : d.Linked) (hn : d.PlainlyNamed)
    (ht : d.contentAux fuel h = some t) : t.PlainlyNamed := by
  induction fuel generalizing h t with
  | zero => simp [contentAux] at ht
  | succ n ih =>
    obtain ⟨m, hm, hb⟩ := exists_bears hd ht
    obtain rfl := Nat.succ.inj hm
    obtain ⟨kind, name, value, as, ts⟩ := t
    refine .node (fun hk => ?_) (fun a ha => ?_) fun u hu => ?_
    · rw [show name = d.name h from hb.name.symm]
      exact hn h (Or.inl (by simp [hb.isElement, Tree.kind, hk]))
    · rw [show as = d.labels h from hb.labels.symm] at ha
      obtain ⟨x, hx, rfl⟩ := List.mem_map.mp ha
      exact hn x (Or.inr (hd.kinds_of_attribute hx).1)
    · obtain ⟨c, -, hcu⟩ := hb.exists_child hu
      exact ih hcu

/-- A document with plain names can be written in lines of any indentation, and what is written is
read as a document in which its outermost element is restored. -/
theorem exists_restored (hd : d.Tidy) (hn : d.PlainlyNamed) (hr : d.root? = some r)
    (width : Nat) : ∃ written d' r', d.save width = .ok written ∧ read written = .ok d' ∧
      d'.root? = some r' ∧ Restored d d' r r' := by
  have hmem : r ∈ d.elements top := List.mem_of_mem_head? hr
  have he := (mem_elements.mp hmem).2
  obtain ⟨t, ht⟩ := hd.exists_content (contains_of_isElement he)
  obtain ⟨hproper, hkeyed⟩ := hd.content ht
  have hk : t.kind = .element := by
    obtain ⟨n, -, hb⟩ := exists_bears hd.toLinked ht
    simpa [hb.isElement] using he
  have hwritable : t.Writable :=
    ⟨⟨Or.inl hk, hproper⟩, hkeyed, plainlyNamed_of_contentAux hd.toLinked hn ht⟩
  have hread : read (Markup.writeDocument width t) = .ok (ofTree t.settled) := by
    rw [read, Markup.readTree_writeDocument_of_writable hwritable hk]
    rfl
  obtain ⟨hroot, hcontent⟩ :=
    content?_root?_ofTree ((Tree.kind_settled (Or.inl hk)).trans hk)
  refine ⟨Markup.writeDocument width t, ofTree t.settled, ⟨1⟩, ?_, hread, hroot, ?_⟩
  · simp only [save, hr, ht]
  · exact restored_of_contentAux hd.toLinked (orderly_of_read hread).toLinked hk ht hcontent

end GuidedXml.Document
