/-
# Operations on documents

What each operation that places a node or takes one out does to the links of a document, and when
it succeeds.

The main statements say that every operation that succeeds is a change of one parent.
-/
import GuidedXml.Proofs.Document.Relinking
import GuidedXml.Proofs.Lists

namespace GuidedXml.Document

variable {d d' : Document} {h k p c old new : Handle}

/-! ## Changes of single nodes -/

theorem size_update (d : Document) (h : Handle) (f : Node → Node) :
    (d.update h f).slots.size = d.slots.size := by
  simp [update]

/-- A change that keeps kinds changes none. -/
theorem kind?_update (d : Document) (h k : Handle) (f : Node → Node)
    (hf : ∀ n, (f n).kind = n.kind) : (d.update h f).kind? k = d.kind? k := by
  rw [kind?, kind?, node?_update]
  by_cases hk : k = h
  · cases d.node? k <;> simp [hk, hf]
  · simp [hk]

/-- A change that keeps names changes none. -/
theorem name_update (d : Document) (h k : Handle) (f : Node → Node)
    (hf : ∀ n, (f n).name = n.name) : (d.update h f).name k = d.name k := by
  rw [name, name, node?_update]
  by_cases hk : k = h
  · cases d.node? k <;> simp [hk, hf]
  · simp [hk]

/-- A change that keeps stored values changes none. -/
theorem stored_update (d : Document) (h k : Handle) (f : Node → Node)
    (hf : ∀ n, (f n).value = n.value) : (d.update h f).stored k = d.stored k := by
  rw [stored, stored, node?_update]
  by_cases hk : k = h
  · cases d.node? k <;> simp [hk, hf]
  · simp [hk]

/-- A change that keeps parents changes none. -/
theorem parent?_update (d : Document) (h k : Handle) (f : Node → Node)
    (hf : ∀ n, (f n).parent = n.parent) : (d.update h f).parent? k = d.parent? k := by
  rw [parent?, parent?, node?_update]
  by_cases hk : k = h
  · cases d.node? k <;> simp [hk, hf]
  · simp [hk]

/-- A change that keeps children changes none. -/
theorem children_update (d : Document) (h k : Handle) (f : Node → Node)
    (hf : ∀ n, (f n).children = n.children) : (d.update h f).children k = d.children k := by
  rw [children, children, node?_update]
  by_cases hk : k = h
  · cases d.node? k <;> simp [hk, hf]
  · simp [hk]

/-- A change that keeps attributes changes none. -/
theorem attributes_update (d : Document) (h k : Handle) (f : Node → Node)
    (hf : ∀ n, (f n).attributes = n.attributes) :
    (d.update h f).attributes k = d.attributes k := by
  rw [attributes, attributes, node?_update]
  by_cases hk : k = h
  · cases d.node? k <;> simp [hk, hf]
  · simp [hk]

/-- Naming another parent changes the parent of one node alone. -/
theorem parent?_update_parent (d : Document) (h k : Handle) (q : Option Handle)
    (hc : d.contains h = true) :
    (d.update h fun n => { n with parent := q }).parent? k =
      if k = h then q else d.parent? k := by
  rw [parent?, parent?, node?_update]
  by_cases hk : k = h
  · obtain ⟨n, hn⟩ := contains_iff.mp hc
    subst hk
    simp [hn]
  · simp [hk]

/-- Listing other children changes the children of one node alone. -/
theorem children_update_children (d : Document) (h k : Handle) (f : List Handle → List Handle)
    (hc : d.contains h = true) :
    (d.update h fun n => { n with children := f n.children }).children k =
      if k = h then f (d.children h) else d.children k := by
  rw [children, children, children, node?_update]
  by_cases hk : k = h
  · obtain ⟨n, hn⟩ := contains_iff.mp hc
    subst hk
    simp [hn]
  · simp [hk]

/-- Listing other attributes changes the attributes of one node alone. -/
theorem attributes_update_attributes (d : Document) (h k : Handle)
    (f : List Handle → List Handle) (hc : d.contains h = true) :
    (d.update h fun n => { n with attributes := f n.attributes }).attributes k =
      if k = h then f (d.attributes h) else d.attributes k := by
  rw [attributes, attributes, attributes, node?_update]
  by_cases hk : k = h
  · obtain ⟨n, hn⟩ := contains_iff.mp hc
    subst hk
    simp [hn]
  · simp [hk]

/-! ## Placing children -/

/-- What placing a child takes. -/
structure Placeable (d : Document) (p c : Handle) : Prop where
  parent : d.isElement p = true ∨ d.kind? p = some .document
  child : d.isElement c = true ∨ d.isText c = true
  detached : d.parent? c = none
  not_above : c ∉ p :: d.ancestors p

/-- What can be placed in a node can be held by it. -/
theorem Placeable.canHold (hpl : d.Placeable p c) : d.CanHold p c where
  detached := hpl.detached
  kinds := Or.inr ⟨hpl.child, hpl.parent⟩

/-- What a node can be placed in lives. -/
theorem Placeable.contains_parent (hpl : d.Placeable p c) : d.contains p = true := by
  rcases hpl.parent with he | hk
  · exact contains_of_isElement he
  · rw [contains_eq_isSome_kind?, hk]
    rfl

/-- What can be placed lives. -/
theorem Placeable.contains_child (hpl : d.Placeable p c) : d.contains c = true := by
  rw [contains_eq_isSome_kind?]
  rcases hpl.child with he | ht
  · simp only [isElement, decide_eq_true_eq] at he
    rw [he]
    rfl
  · simp only [isText, decide_eq_true_eq] at ht
    rw [ht]
    rfl

/-- What can be placed is no attribute. -/
theorem Placeable.not_isAttribute (hpl : d.Placeable p c) : d.isAttribute c = false := by
  rcases hpl.child with he | ht
  · exact not_isAttribute_of_isElement he
  · exact not_isAttribute_of_isText ht

/-- Placing a child is refused for no other reason. -/
theorem placementFault?_eq_none_iff : d.placementFault? p c = none ↔ d.Placeable p c := by
  unfold placementFault?
  cases hp : d.node? p with
  | none =>
    simp only [reduceCtorEq, false_iff]
    intro hpl
    have := hpl.contains_parent
    simp [contains, hp] at this
  | some n =>
    cases hc : d.node? c with
    | none =>
      constructor
      · intro hf
        simp only at hf
        split_ifs at hf
      · intro hpl
        have := hpl.contains_child
        simp [contains, hc] at this
    | some m =>
      constructor
      · intro hf
        simp only at hf
        -- the four checks are the four conditions
        split_ifs at hf with h₁ h₂ h₃ h₄
        refine ⟨?_, ?_, ?_, ?_⟩
        · simp only [isElement, kind?, hp, Option.map_some, decide_eq_true_eq, Option.some.injEq]
          tauto
        · simp only [isElement, isText, kind?, hc, Option.map_some, decide_eq_true_eq,
            Option.some.injEq]
          tauto
        · simpa [parent?, hc] using h₃
        · simpa [List.contains_iff_mem] using h₄
      · intro hpl
        have h₁ := hpl.parent
        have h₂ := hpl.child
        have h₃ := hpl.detached
        have h₄ := hpl.not_above
        simp only [isElement, isText, kind?, hp, hc, parent?, Option.map_some, Option.bind_some,
          decide_eq_true_eq, Option.some.injEq] at h₁ h₂ h₃
        have h₃' : ¬ (m.parent.isSome = true) := by simp [h₃]
        have h₄' : ¬ ((p :: d.ancestors p).contains c = true) := by
          rw [List.contains_iff_mem]
          exact h₄
        simp only
        rw [if_neg (by tauto), if_neg (by tauto), if_neg h₃', if_neg h₄']

section Link

variable (hpl : d.Placeable p c) (cs : List Handle)
include hpl

/-- Linking changes the children of the parent only. -/
theorem children_link (k : Handle) :
    (d.link p c cs).children k = if k = p then cs else d.children k := by
  rw [link, children_update _ _ _ _ (by intro; rfl),
    children_update_children _ _ _ (fun _ => cs) hpl.contains_parent]

/-- Linking changes the parent of the child only. -/
theorem parent?_link (k : Handle) :
    (d.link p c cs).parent? k = if k = c then some p else d.parent? k := by
  have hc : (d.update p fun n => { n with children := cs }).contains c = true := by
    rw [contains_congr (kind?_update _ _ _ _ (by intro; rfl))]
    exact hpl.contains_child
  rw [link, parent?_update_parent _ _ _ _ hc, parent?_update _ _ _ _ (by intro; rfl)]

omit hpl

/-- Linking changes no attributes. -/
theorem attributes_link (k : Handle) : (d.link p c cs).attributes k = d.attributes k := by
  rw [link, attributes_update _ _ _ _ (by intro; rfl), attributes_update _ _ _ _ (by intro; rfl)]

/-- Linking changes no kinds. -/
theorem kind?_link (k : Handle) : (d.link p c cs).kind? k = d.kind? k := by
  rw [link, kind?_update _ _ _ _ (by intro; rfl), kind?_update _ _ _ _ (by intro; rfl)]

/-- Linking changes no names. -/
theorem name_link (k : Handle) : (d.link p c cs).name k = d.name k := by
  rw [link, name_update _ _ _ _ (by intro; rfl), name_update _ _ _ _ (by intro; rfl)]

/-- Linking changes no stored values. -/
theorem stored_link (k : Handle) : (d.link p c cs).stored k = d.stored k := by
  rw [link, stored_update _ _ _ _ (by intro; rfl), stored_update _ _ _ _ (by intro; rfl)]

/-- Linking changes no node but parent and child. -/
theorem node?_link (hp : k ≠ p) (hc : k ≠ c) : (d.link p c cs).node? k = d.node? k := by
  rw [link, node?_update, if_neg hc, node?_update, if_neg hp]

end Link

/-- Linking a child to its parent is a change of that parent. -/
theorem relinked_link (hd : d.Linked) (hpl : d.Placeable p c) {cs : List Handle}
    (hmem : ∀ k, k ∈ cs ↔ k = c ∨ k ∈ d.children p) (hnd : cs.Nodup) :
    Relinked d (d.link p c cs) p none (some c) := by
  have hcs : (d.link p c cs).children p = cs := by rw [children_link hpl, if_pos rfl]
  have hgiven : ∀ k, some c = some k → d.isAttribute k = false := by
    rintro k ⟨⟩
    exact hpl.not_isAttribute
  have hlisted : ∀ k, k ∈ (d.link p c cs).children p ↔
      some c = some k ∨ (k ∈ d.children p ∧ none ≠ some k) := by
    intro k
    rw [hcs, hmem]
    simp [@eq_comm _ c k]
  obtain ⟨hattributes, hchildren, hinside⟩ := relisted_children hd none (some c) hgiven (by simp)
    (attributes_link cs p) hlisted (hcs.symm ▸ hnd)
  exact {
    size := by rw [link, size_update, size_update]
    kind? := kind?_link cs
    name := name_link cs
    stored := stored_link cs
    parent? := fun k => by
      rw [parent?_link hpl]
      simp [@eq_comm _ c k]
    node? := fun k hkp hkc _ => node?_link cs hkp fun he => hkc (by rw [he])
    attributes := fun h _ => attributes_link cs h
    children := fun h hh => by rw [children_link hpl, if_neg hh]
    mem_attributes := hattributes
    mem_children := hchildren
    nodup := hinside }

/-- Placing a child after all others is a change of the parent. -/
theorem relinked_append (hd : d.Linked) (ha : d.append p c = .ok d') :
    Relinked d d' p none (some c) ∧ d.Placeable p c ∧ d'.children p = d.children p ++ [c] := by
  unfold append at ha
  cases hf : d.placementFault? p c with
  | some fault => rw [hf] at ha; simp at ha
  | none =>
    rw [hf] at ha
    have hpl := placementFault?_eq_none_iff.mp hf
    obtain rfl : d.link p c (d.children p ++ [c]) = d' := Except.ok.inj ha
    have hnd : (d.children p ++ [c]).Nodup := by
      rw [List.nodup_append]
      refine ⟨hd.nodup_children p, by simp, ?_⟩
      intro a ha b hb
      rw [List.mem_singleton] at hb
      rintro rfl
      exact hd.not_mem_children_of_detached hpl.detached (hb ▸ ha)
    refine ⟨relinked_link hd hpl (fun k => by simp [or_comm]) hnd, hpl, ?_⟩
    rw [children_link hpl, if_pos rfl]

/-- What can be placed can be appended. -/
theorem append_of_placeable (hpl : d.Placeable p c) : ∃ d', d.append p c = .ok d' := by
  rw [append, placementFault?_eq_none_iff.mpr hpl]
  exact ⟨_, rfl⟩

/-! ## Places in lists of handles -/

/-- A place in a list splits it. -/
theorem exists_split_of_idxOf? {l : List Handle} {q : Handle} {i : Nat} (hi : l.idxOf? q = some i) :
    ∃ xs ys, l = xs ++ q :: ys ∧ xs.length = i := by
  induction l generalizing i with
  | nil => simp at hi
  | cons a l ih =>
    rw [List.idxOf?_cons] at hi
    by_cases ha : a = q
    · rw [if_pos (by simp [ha])] at hi
      obtain rfl : 0 = i := Option.some.inj hi
      exact ⟨[], l, by rw [ha]; rfl, rfl⟩
    · rw [if_neg (by simp [ha])] at hi
      obtain ⟨j, hj, rfl⟩ := Option.map_eq_some_iff.mp hi
      obtain ⟨xs, ys, rfl, rfl⟩ := ih hj
      exact ⟨a :: xs, ys, rfl, rfl⟩

/-- In a list without repetitions a place splits it in one way. -/
theorem split_unique {x : Handle} {xs ys xs' ys' : List Handle}
    (hnd : (xs ++ x :: ys).Nodup) (heq : xs ++ x :: ys = xs' ++ x :: ys') :
    xs = xs' ∧ ys = ys' := by
  rw [List.nodup_middle, List.nodup_cons, List.mem_append, not_or] at hnd
  rw [List.append_eq_append_iff] at heq
  rcases heq with ⟨zs, rfl, hzs⟩ | ⟨zs, rfl, hzs⟩
  · cases zs with
    | nil => exact ⟨by simp, by simpa using hzs⟩
    | cons z zs =>
      have := (List.cons.inj hzs).2
      exact absurd (by rw [this]; simp) hnd.1.2
  · cases zs with
    | nil => exact ⟨by simp, by simpa using hzs.symm⟩
    | cons z zs =>
      have := (List.cons.inj hzs).1
      exact absurd (by rw [this]; simp) hnd.1.1

/-- A member of a list has an index. -/
theorem idxOf?_isSome_of_mem {l : List Handle} {q : Handle} (hq : q ∈ l) :
    ∃ i, l.idxOf? q = some i := by
  cases hi : l.idxOf? q with
  | none => exact absurd hq (List.idxOf?_eq_none_iff.mp hi)
  | some i => exact ⟨i, rfl⟩

/-- What is listed after a node was put in the place of another one. -/
theorem mem_exchanged {xs ys : List Handle} (hnd : (xs ++ old :: ys).Nodup) (k : Handle) :
    k ∈ xs ++ new :: ys ↔ k = new ∨ (k ∈ xs ++ old :: ys ∧ k ≠ old) := by
  rw [List.nodup_middle, List.nodup_cons] at hnd
  have hout : k = old → k ∉ xs ++ ys := fun he => he ▸ hnd.1
  simp only [List.mem_append, List.mem_cons] at hout ⊢
  tauto

/-- Exchanging a member for a new one makes no duplicates. -/
theorem nodup_exchanged {xs ys : List Handle} (hnd : (xs ++ old :: ys).Nodup)
    (hnew : new ∉ xs ++ old :: ys) : (xs ++ new :: ys).Nodup := by
  rw [List.nodup_middle, List.nodup_cons] at hnd ⊢
  refine ⟨?_, hnd.2⟩
  simp only [List.mem_append, List.mem_cons] at hnew ⊢
  tauto

/-- Setting at the length of a front exchanges the member behind it. -/
theorem set_exchanged (xs ys : List Handle) (old new : Handle) :
    (xs ++ old :: ys).set xs.length new = xs ++ new :: ys := by
  rw [List.set_append_right _ _ (Nat.le_refl _), Nat.sub_self]
  rfl

/-! ## Placing among siblings -/

/-- The list of children with a new one just after a sibling, or before all. -/
structure SplitsAt (cs cs' : List Handle) (previous : Option Handle) (c : Handle) : Prop where
  split : ∃ xs ys, cs = xs ++ ys ∧ cs' = xs ++ c :: ys ∧ xs.getLast? = previous

/-- The members after an insertion are the old ones and the new one. -/
theorem SplitsAt.mem_iff {cs cs' : List Handle} {q : Option Handle} (hs : SplitsAt cs cs' q c) :
    k ∈ cs' ↔ k = c ∨ k ∈ cs := by
  obtain ⟨xs, ys, rfl, rfl, -⟩ := hs.split
  simp
  tauto

/-- Inserting a new member makes no duplicates. -/
theorem SplitsAt.nodup {cs cs' : List Handle} {q : Option Handle} (hs : SplitsAt cs cs' q c)
    (hnd : cs.Nodup) (hc : c ∉ cs) : cs'.Nodup := by
  obtain ⟨xs, ys, rfl, rfl, -⟩ := hs.split
  rw [List.nodup_middle, List.nodup_cons]
  exact ⟨hc, hnd⟩

/-- Placing a child just after a sibling, or before all, is a change of the parent. -/
theorem relinked_insertAfter (hd : d.Linked) {q : Option Handle}
    (hi : d.insertAfter p q c = .ok d') :
    Relinked d d' p none (some c) ∧ d.Placeable p c ∧
      SplitsAt (d.children p) (d'.children p) q c := by
  unfold insertAfter at hi
  cases hf : d.placementFault? p c with
  | some fault => rw [hf] at hi; simp at hi
  | none =>
    rw [hf] at hi
    have hpl := placementFault?_eq_none_iff.mp hf
    have hc := hd.not_mem_children_of_detached (p := p) hpl.detached
    -- both cases link the child to a list that has it in one more place
    have key : ∀ cs, SplitsAt (d.children p) cs q c → d.link p c cs = d' →
        Relinked d d' p none (some c) ∧ d.Placeable p c ∧
          SplitsAt (d.children p) (d'.children p) q c := by
      rintro cs hs rfl
      refine ⟨relinked_link hd hpl (fun k => hs.mem_iff) (hs.nodup (hd.nodup_children p) hc),
        hpl, ?_⟩
      rw [children_link hpl, if_pos rfl]
      exact hs
    cases q with
    | none => exact key _ ⟨[], _, rfl, rfl, rfl⟩ (Except.ok.inj hi)
    | some q =>
      simp only at hi
      cases hq : (d.children p).idxOf? q with
      | none => rw [hq] at hi; simp at hi
      | some i =>
        rw [hq] at hi
        obtain ⟨xs, ys, hsplit, rfl⟩ := exists_split_of_idxOf? hq
        refine key _ ⟨xs ++ [q], ys, ?_, ?_, ?_⟩ (Except.ok.inj hi)
        · rw [hsplit, List.append_assoc, List.singleton_append]
        · have hinsert := Lists.insertIdx_append (xs ++ [q]) ys c
          rw [List.length_append, List.append_assoc, List.singleton_append] at hinsert
          rw [hsplit]
          exact hinsert
        · simp

/-- What can be placed can be inserted after any child. -/
theorem insertAfter_of_placeable (hpl : d.Placeable p c) {q : Option Handle}
    (hq : ∀ x, q = some x → x ∈ d.children p) : ∃ d', d.insertAfter p q c = .ok d' := by
  rw [insertAfter, placementFault?_eq_none_iff.mpr hpl]
  cases q with
  | none => exact ⟨_, rfl⟩
  | some q =>
    obtain ⟨i, hi⟩ := idxOf?_isSome_of_mem (hq q rfl)
    simp only [hi]
    exact ⟨_, rfl⟩

/-! ## Taking out -/

/-- What a parent is left with after it lost a node of a kind. -/
def unlist (h : Handle) (kind : Kind) (m : Node) : Node :=
  if kind = .attribute then { m with attributes := m.attributes.filter (· ≠ h) }
  else { m with children := m.children.filter (· ≠ h) }

@[simp] theorem kind_unlist (h : Handle) (kind : Kind) (m : Node) :
    (unlist h kind m).kind = m.kind := by
  unfold unlist
  split_ifs <;> rfl

@[simp] theorem name_unlist (h : Handle) (kind : Kind) (m : Node) :
    (unlist h kind m).name = m.name := by
  unfold unlist
  split_ifs <;> rfl

@[simp] theorem value_unlist (h : Handle) (kind : Kind) (m : Node) :
    (unlist h kind m).value = m.value := by
  unfold unlist
  split_ifs <;> rfl

@[simp] theorem parent_unlist (h : Handle) (kind : Kind) (m : Node) :
    (unlist h kind m).parent = m.parent := by
  unfold unlist
  split_ifs <;> rfl

/-- The parent of a node lists it under its kind alone, so both lists lose it. -/
theorem lists_update_unlist (hd : d.Linked) {n : Node} (hn : d.node? h = some n)
    (hp : d.parent? h = some p) (k : Handle) :
    (d.update p (unlist h n.kind)).attributes k =
        (if k = p then (d.attributes p).filter (· ≠ h) else d.attributes k) ∧
      (d.update p (unlist h n.kind)).children k =
        (if k = p then (d.children p).filter (· ≠ h) else d.children k) := by
  have hcp := hd.contains_parent hp
  have hattr : d.isAttribute h = decide (n.kind = .attribute) := by
    simp [isAttribute, kind?, hn]
  -- the handle stands in the list of its kind alone, so that filtering the other one changes
  -- nothing
  by_cases hkind : n.kind = .attribute
  · have hout : h ∉ d.children p := by
      intro hm
      rw [hd.not_isAttribute_of_mem_children hm] at hattr
      simp [hkind] at hattr
    have hfilter : (d.children p).filter (· ≠ h) = d.children p :=
      List.filter_eq_self.mpr fun a ha => by
        rw [decide_eq_true_eq]
        rintro rfl
        exact hout ha
    have hf : unlist h n.kind = fun m => { m with attributes := m.attributes.filter (· ≠ h) } := by
      funext m
      rw [unlist, if_pos hkind]
    rw [hf, attributes_update_attributes _ _ _ (fun as => as.filter (· ≠ h)) hcp,
      children_update _ _ _ _ (by intro; rfl), hfilter]
    refine ⟨rfl, ?_⟩
    by_cases hk : k = p
    · rw [if_pos hk, hk]
    · rw [if_neg hk]
  · have hout : h ∉ d.attributes p := by
      intro hm
      rw [(hd.kinds_of_attribute hm).1] at hattr
      simp [hkind] at hattr
    have hfilter : (d.attributes p).filter (· ≠ h) = d.attributes p :=
      List.filter_eq_self.mpr fun a ha => by
        rw [decide_eq_true_eq]
        rintro rfl
        exact hout ha
    have hf : unlist h n.kind = fun m => { m with children := m.children.filter (· ≠ h) } := by
      funext m
      rw [unlist, if_neg hkind]
    rw [hf, children_update_children _ _ _ (fun cs => cs.filter (· ≠ h)) hcp,
      attributes_update _ _ _ _ (by intro; rfl), hfilter]
    refine ⟨?_, rfl⟩
    by_cases hk : k = p
    · rw [if_pos hk, hk]
    · rw [if_neg hk]

/-- Taking a node out of its parent is a change of the parent. -/
theorem relinked_detach (hd : d.Linked) (hp : d.parent? h = some p) :
    ∃ d', d.detach h = .ok d' ∧ Relinked d d' p (some h) none ∧
      d'.children p = (d.children p).filter (· ≠ h) := by
  obtain ⟨n, hn⟩ := contains_iff.mp (contains_of_parent? hp)
  have hpar : n.parent = some p := by simpa [parent?, hn] using hp
  have hstep : d.detach h =
      .ok ((d.update p (unlist h n.kind)).update h fun m => { m with parent := none }) := by
    rw [detach, hn]
    simp only [hpar, hd.contains_parent hp, Bool.not_true, Bool.false_eq_true, if_false]
    rfl
  -- the handle is filtered out of both lists, though it stands in one of them only
  have hattributes : ∀ k, ((d.update p (unlist h n.kind)).update h
      fun m => { m with parent := none }).attributes k =
        if k = p then (d.attributes p).filter (· ≠ h) else d.attributes k := by
    intro k
    rw [attributes_update _ _ _ _ (by intro; rfl), (lists_update_unlist hd hn hp k).1]
  have hchildren : ∀ k, ((d.update p (unlist h n.kind)).update h
      fun m => { m with parent := none }).children k =
        if k = p then (d.children p).filter (· ≠ h) else d.children k := by
    intro k
    rw [children_update _ _ _ _ (by intro; rfl), (lists_update_unlist hd hn hp k).2]
  have hch : (d.update p (unlist h n.kind)).contains h = true := by
    rw [contains_congr (kind?_update _ _ _ _ (by simp))]
    exact contains_of_parent? hp
  refine ⟨_, hstep, ?_, ?_⟩
  · exact {
      size := by rw [size_update, size_update]
      kind? := fun k => by
        rw [kind?_update _ _ _ _ (by intro; rfl), kind?_update _ _ _ _ (by simp)]
      name := fun k => by
        rw [name_update _ _ _ _ (by intro; rfl), name_update _ _ _ _ (by simp)]
      stored := fun k => by
        rw [stored_update _ _ _ _ (by intro; rfl), stored_update _ _ _ _ (by simp)]
      parent? := fun k => by
        rw [parent?_update_parent _ _ _ _ hch, parent?_update _ _ _ _ (by simp)]
        simp [eq_comm]
      node? := fun k hkp _ hkh => by
        have hkh' : k ≠ h := fun he => hkh (by rw [he])
        rw [node?_update, if_neg hkh', node?_update, if_neg hkp]
      attributes := fun k hk => by rw [hattributes, if_neg hk]
      children := fun k hk => by rw [hchildren, if_neg hk]
      mem_attributes := fun k => by
        rw [hattributes, if_pos rfl, List.mem_filter]
        simp [@eq_comm _ h k]
      mem_children := fun k => by
        rw [hchildren, if_pos rfl, List.mem_filter]
        simp [@eq_comm _ h k]
      nodup := by
        rw [inside, hattributes, hchildren, if_pos rfl, if_pos rfl, ← List.filter_append]
        exact (hd.nodup_inside p).filter _ }
  · rw [hchildren, if_pos rfl]

/-! ## Exchanging children -/

/-- Linking a child in the place of another one is a change of the parent. -/
theorem relinked_exchangeChild (hd : d.Linked) (hpl : d.Placeable p new) {xs ys : List Handle}
    (hsplit : d.children p = xs ++ old :: ys) :
    Relinked d ((d.link p new (xs ++ new :: ys)).update old fun n => { n with parent := none })
      p (some old) (some new) := by
  have hnd := hd.nodup_children p
  have hnew := hd.not_mem_children_of_detached (p := p) hpl.detached
  have hold : old ∈ d.children p := by rw [hsplit]; simp
  have hch : (d.link p new (xs ++ new :: ys)).contains old = true := by
    rw [contains_congr (kind?_link _ _)]
    exact hd.contains_of_mem (mem_inside.mpr (Or.inr hold))
  have hattributes : ∀ k, ((d.link p new (xs ++ new :: ys)).update old
      fun n => { n with parent := none }).attributes k = d.attributes k := by
    intro k
    rw [attributes_update _ _ _ _ (by intro; rfl), attributes_link]
  have hchildren : ∀ k, ((d.link p new (xs ++ new :: ys)).update old
      fun n => { n with parent := none }).children k =
        if k = p then xs ++ new :: ys else d.children k := by
    intro k
    rw [children_update _ _ _ _ (by intro; rfl), children_link hpl]
  have hgiven : ∀ k, some new = some k → d.isAttribute k = false := by
    rintro k ⟨⟩
    exact hpl.not_isAttribute
  have htaken : ∀ k, some old = some k → d.isAttribute k = false := by
    rintro k ⟨⟩
    exact hd.not_isAttribute_of_mem_children hold
  -- the list changed in one place only, which is all that lists of other nodes need to know
  have hlisted : ∀ k, k ∈ ((d.link p new (xs ++ new :: ys)).update old
      fun n => { n with parent := none }).children p ↔
        some new = some k ∨ (k ∈ d.children p ∧ some old ≠ some k) := by
    intro k
    rw [hchildren, if_pos rfl, mem_exchanged (hsplit ▸ hnd), hsplit]
    simp [@eq_comm _ new k, @eq_comm _ old k]
  obtain ⟨hmemA, hmemC, hinside⟩ := relisted_children hd (some old) (some new) hgiven htaken
    (hattributes p) hlisted (by
      rw [hchildren, if_pos rfl]
      exact nodup_exchanged (hsplit ▸ hnd) (hsplit ▸ hnew))
  exact {
    size := by rw [size_update, link, size_update, size_update]
    kind? := fun k => by rw [kind?_update _ _ _ _ (by intro; rfl), kind?_link]
    name := fun k => by rw [name_update _ _ _ _ (by intro; rfl), name_link]
    stored := fun k => by rw [stored_update _ _ _ _ (by intro; rfl), stored_link]
    parent? := fun k => by
      rw [parent?_update_parent _ _ _ _ hch, parent?_link hpl]
      by_cases hk : k = new
      · have hko : k ≠ old := fun he => hnew (hk ▸ he ▸ hold)
        simp [hk, hk ▸ hko]
      · simp [hk, @eq_comm _ old k, @eq_comm _ new k]
    node? := fun k hkp hkn hko => by
      have hko' : k ≠ old := fun he => hko (by rw [he])
      rw [node?_update, if_neg hko', node?_link _ hkp fun he => hkn (by rw [he])]
    attributes := fun k _ => hattributes k
    children := fun k hk => by rw [hchildren, if_neg hk]
    mem_attributes := hmemA
    mem_children := hmemC
    nodup := hinside }

/-- Putting a node in the place of a child is a change of the parent. -/
theorem relinked_replaceChild (hd : d.Linked) (hr : d.replaceChild p old new = .ok d') :
    Relinked d d' p (some old) (some new) ∧ d.Placeable p new ∧ old ∈ d.children p ∧
      ∃ xs ys, d.children p = xs ++ old :: ys ∧ d'.children p = xs ++ new :: ys := by
  unfold replaceChild at hr
  cases hf : d.placementFault? p new with
  | some fault => rw [hf] at hr; simp at hr
  | none =>
    rw [hf] at hr
    have hpl := placementFault?_eq_none_iff.mp hf
    simp only at hr
    cases hi : (d.children p).idxOf? old with
    | none => rw [hi] at hr; simp at hr
    | some i =>
      rw [hi] at hr
      obtain ⟨xs, ys, hsplit, rfl⟩ := exists_split_of_idxOf? hi
      simp only [Except.ok.injEq] at hr
      rw [hsplit, set_exchanged] at hr
      subst hr
      have hold : old ∈ d.children p := by rw [hsplit]; simp
      refine ⟨relinked_exchangeChild hd hpl hsplit, hpl, hold, xs, ys, hsplit, ?_⟩
      rw [children_update _ _ _ _ (by intro; rfl), children_link hpl, if_pos rfl]

/-! ## Placing attributes -/

/-- An attribute found by its name is one of the node and has that name. -/
theorem mem_of_attribute?_eq_some {name : String} {a : Handle}
    (ha : d.attribute? h name = some a) : a ∈ d.attributes h ∧ d.name a = name := by
  refine ⟨List.mem_of_find?_eq_some ha, ?_⟩
  simpa using List.find?_some ha

/-- Placing an attribute where it displaces none is a change of the element. -/
theorem relinked_addAttribute (hd : d.Linked) {e a : Handle} (he : d.isElement e = true)
    (ha : d.isAttribute a = true) (hdet : d.parent? a = none) :
    Relinked d ((d.update e fun m => { m with attributes := m.attributes ++ [a] }).update a
      fun n => { n with parent := some e }) e none (some a) := by
  have hce := contains_of_isElement he
  have hca : d.contains a = true := by
    rw [contains_eq_isSome_kind?]
    simp only [isAttribute, decide_eq_true_eq] at ha
    rw [ha]
    rfl
  have hattributes : ∀ k, ((d.update e fun m => { m with attributes := m.attributes ++ [a] }).update a
      fun n => { n with parent := some e }).attributes k =
        if k = e then d.attributes e ++ [a] else d.attributes k := by
    intro k
    rw [attributes_update _ _ _ _ (by intro; rfl),
      attributes_update_attributes _ _ _ (fun as => as ++ [a]) hce]
  have hchildren : ∀ k, ((d.update e fun m => { m with attributes := m.attributes ++ [a] }).update a
      fun n => { n with parent := some e }).children k = d.children k := by
    intro k
    rw [children_update _ _ _ _ (by intro; rfl), children_update _ _ _ _ (by intro; rfl)]
  have hca' : (d.update e fun m => { m with attributes := m.attributes ++ [a] }).contains a = true := by
    rw [contains_congr (kind?_update _ _ _ _ (by intro; rfl))]
    exact hca
  have hgiven : ∀ k, some a = some k → d.isAttribute k = true := by
    rintro k ⟨⟩
    exact ha
  -- nothing is taken here, so that the new attribute alone comes to be listed
  have hlisted : ∀ k, k ∈ ((d.update e fun m => { m with attributes := m.attributes ++ [a] }).update
      a fun n => { n with parent := some e }).attributes e ↔
        some a = some k ∨ (k ∈ d.attributes e ∧ none ≠ some k) := by
    intro k
    rw [hattributes, if_pos rfl]
    simp [or_comm, @eq_comm _ a k]
  obtain ⟨hmemA, hmemC, hinside⟩ := relisted_attributes hd none (some a) hgiven (by simp)
    (hchildren e) hlisted (by
      rw [hattributes, if_pos rfl, List.nodup_append]
      refine ⟨hd.nodup_attributes e, by simp, ?_⟩
      rintro k hk _ hka rfl
      rw [List.mem_singleton.mp hka] at hk
      exact hd.not_mem_attributes_of_detached hdet hk)
  exact {
    size := by rw [size_update, size_update]
    kind? := fun k => by
      rw [kind?_update _ _ _ _ (by intro; rfl), kind?_update _ _ _ _ (by intro; rfl)]
    name := fun k => by
      rw [name_update _ _ _ _ (by intro; rfl), name_update _ _ _ _ (by intro; rfl)]
    stored := fun k => by
      rw [stored_update _ _ _ _ (by intro; rfl), stored_update _ _ _ _ (by intro; rfl)]
    parent? := fun k => by
      rw [parent?_update_parent _ _ _ _ hca', parent?_update _ _ _ _ (by intro; rfl)]
      simp [@eq_comm _ a k]
    node? := fun k hke hka _ => by
      have hka' : k ≠ a := fun h => hka (by rw [h])
      rw [node?_update, if_neg hka', node?_update, if_neg hke]
    attributes := fun k hk => by rw [hattributes, if_neg hk]
    children := fun k _ => hchildren k
    mem_attributes := hmemA
    mem_children := hmemC
    nodup := hinside }

/-- Placing an attribute in the place of another one is a change of the element. -/
theorem relinked_exchangeAttribute (hd : d.Linked) {e a : Handle} (he : d.isElement e = true)
    (ha : d.isAttribute a = true) (hdet : d.parent? a = none) {xs ys : List Handle}
    (hsplit : d.attributes e = xs ++ old :: ys) :
    Relinked d (((d.update e fun m => { m with attributes := m.attributes.set xs.length a }).update
      old fun m => { m with parent := none }).update a fun n => { n with parent := some e })
      e (some old) (some a) := by
  have hce := contains_of_isElement he
  have hca : d.contains a = true := by
    rw [contains_eq_isSome_kind?]
    simp only [isAttribute, decide_eq_true_eq] at ha
    rw [ha]
    rfl
  have hold : old ∈ d.attributes e := by rw [hsplit]; simp
  have hco : d.contains old = true := hd.contains_of_mem (mem_inside.mpr (Or.inl hold))
  have hnd := hd.nodup_attributes e
  have hout := hd.not_mem_attributes_of_detached (p := e) hdet
  -- the three updates one after the other: the list, the parent of the old one, that of the new one
  set d₁ := d.update e fun m => { m with attributes := m.attributes.set xs.length a } with hd₁
  set d₂ := d₁.update old fun m => { m with parent := none } with hd₂
  have hkind₁ : ∀ k, d₁.kind? k = d.kind? k := fun k => kind?_update _ _ _ _ (by intro; rfl)
  have hkind₂ : ∀ k, d₂.kind? k = d.kind? k := fun k => by
    rw [hd₂, kind?_update _ _ _ _ (by intro; rfl), hkind₁]
  have hattributes : ∀ k, (d₂.update a fun n => { n with parent := some e }).attributes k =
      if k = e then xs ++ a :: ys else d.attributes k := by
    intro k
    rw [attributes_update _ _ _ _ (by intro; rfl), hd₂, attributes_update _ _ _ _ (by intro; rfl),
      hd₁, attributes_update_attributes _ _ _ (fun as => as.set xs.length a) hce, hsplit,
      set_exchanged]
  have hchildren : ∀ k, (d₂.update a fun n => { n with parent := some e }).children k =
      d.children k := by
    intro k
    rw [children_update _ _ _ _ (by intro; rfl), hd₂, children_update _ _ _ _ (by intro; rfl), hd₁,
      children_update _ _ _ _ (by intro; rfl)]
  have hgiven : ∀ k, some a = some k → d.isAttribute k = true := by
    rintro k ⟨⟩
    exact ha
  have htaken : ∀ k, some old = some k → d.isAttribute k = true := by
    rintro k ⟨⟩
    exact (hd.kinds_of_attribute hold).1
  -- the list changed in one place only, which is all that lists of other nodes need to know
  have hlisted : ∀ k, k ∈ (d₂.update a fun n => { n with parent := some e }).attributes e ↔
      some a = some k ∨ (k ∈ d.attributes e ∧ some old ≠ some k) := by
    intro k
    rw [hattributes, if_pos rfl, mem_exchanged (hsplit ▸ hnd), hsplit]
    simp [@eq_comm _ a k, @eq_comm _ old k]
  obtain ⟨hmemA, hmemC, hinside⟩ := relisted_attributes hd (some old) (some a) hgiven htaken
    (hchildren e) hlisted (by
      rw [hattributes, if_pos rfl]
      exact nodup_exchanged (hsplit ▸ hnd) (hsplit ▸ hout))
  exact {
    size := by rw [size_update, hd₂, size_update, hd₁, size_update]
    kind? := fun k => by rw [kind?_update _ _ _ _ (by intro; rfl), hkind₂]
    name := fun k => by
      rw [name_update _ _ _ _ (by intro; rfl), hd₂, name_update _ _ _ _ (by intro; rfl), hd₁,
        name_update _ _ _ _ (by intro; rfl)]
    stored := fun k => by
      rw [stored_update _ _ _ _ (by intro; rfl), hd₂, stored_update _ _ _ _ (by intro; rfl), hd₁,
        stored_update _ _ _ _ (by intro; rfl)]
    parent? := fun k => by
      have hca₂ : d₂.contains a = true := by rw [contains_congr (hkind₂ a), hca]
      have hco₁ : d₁.contains old = true := by rw [contains_congr (hkind₁ old), hco]
      rw [parent?_update_parent _ _ _ _ hca₂, hd₂, parent?_update_parent _ _ _ _ hco₁, hd₁,
        parent?_update _ _ _ _ (by intro; rfl)]
      simp [@eq_comm _ a k, @eq_comm _ old k]
    node? := fun k hke hka hko => by
      have hka' : k ≠ a := fun h => hka (by rw [h])
      have hko' : k ≠ old := fun h => hko (by rw [h])
      rw [node?_update, if_neg hka', hd₂, node?_update, if_neg hko', hd₁, node?_update, if_neg hke]
    attributes := fun k hk => by rw [hattributes, if_neg hk]
    children := fun k _ => hchildren k
    mem_attributes := hmemA
    mem_children := hmemC
    nodup := hinside }

/-- Placing an attribute is a change of the element, and displaces the attribute of its name. -/
theorem relinked_placeAttribute (hd : d.Linked) {e a : Handle} {displaced : Option Handle}
    (hp : d.placeAttribute e a = .ok (d', displaced)) :
    Relinked d d' e displaced (some a) ∧ d.CanHold e a ∧ d.isAttribute a = true ∧
      displaced = d.attribute? e (d.name a) := by
  unfold placeAttribute at hp
  split_ifs at hp with he
  simp only [Bool.not_eq_true', Bool.not_eq_false] at he
  cases hn : d.node? a with
  | none => rw [hn] at hp; simp at hp
  | some n =>
    rw [hn] at hp
    simp only at hp
    split_ifs at hp with hk hdet
    have ha : d.isAttribute a = true := by
      simpa [isAttribute, kind?, hn] using hk
    have hdet' : d.parent? a = none := by
      simpa [parent?, hn] using hdet
    have hname : n.name = d.name a := by simp [name, hn]
    have hcan : d.CanHold e a := ⟨hdet', Or.inl ⟨ha, he⟩⟩
    rw [hname] at hp
    cases hold : d.attribute? e (d.name a) with
    | none =>
      rw [hold] at hp
      simp only [Except.ok.injEq, Prod.mk.injEq] at hp
      obtain ⟨rfl, rfl⟩ := hp
      exact ⟨relinked_addAttribute hd he ha hdet', hcan, ha, rfl⟩
    | some old =>
      rw [hold] at hp
      simp only at hp
      cases hi : (d.attributes e).idxOf? old with
      | none => rw [hi] at hp; simp at hp
      | some i =>
        rw [hi] at hp
        simp only [Except.ok.injEq, Prod.mk.injEq] at hp
        obtain ⟨rfl, rfl⟩ := hp
        obtain ⟨xs, ys, hsplit, rfl⟩ := exists_split_of_idxOf? hi
        exact ⟨relinked_exchangeAttribute hd he ha hdet' hsplit, hcan, ha, rfl⟩

/-- Placing an attribute takes nothing out of its place but another attribute of the element. -/
theorem parent?_of_displaced (hd : d.Linked) {e a : Handle} {displaced : Option Handle}
    (hp : d.placeAttribute e a = .ok (d', displaced)) (hx : displaced = some h) :
    d.parent? h = some e ∧ d.isAttribute h = true := by
  obtain ⟨-, -, -, hdisplaced⟩ := relinked_placeAttribute hd hp
  rw [hdisplaced] at hx
  have hmem := (mem_of_attribute?_eq_some hx).1
  exact ⟨hd.parent?_of_mem (mem_inside.mpr (Or.inl hmem)), (hd.kinds_of_attribute hmem).1⟩

/-- Attributes are placed at elements only. -/
theorem isElement_of_placeAttribute {e a : Handle} {displaced : Option Handle}
    (hp : d.placeAttribute e a = .ok (d', displaced)) : d.isElement e = true := by
  unfold placeAttribute at hp
  split_ifs at hp with he
  simpa using he

/-- Placing an attribute moves no children. -/
theorem children_placeAttribute {e a : Handle} {displaced : Option Handle}
    (hp : d.placeAttribute e a = .ok (d', displaced)) (k : Handle) :
    d'.children k = d.children k := by
  unfold placeAttribute at hp
  split_ifs at hp with he
  cases hn : d.node? a with
  | none => rw [hn] at hp; simp at hp
  | some n =>
    rw [hn] at hp
    simp only at hp
    split_ifs at hp with hk hdet
    cases hold : d.attribute? e n.name with
    | none =>
      rw [hold] at hp
      simp only [Except.ok.injEq, Prod.mk.injEq] at hp
      rw [← hp.1, children_update _ _ _ _ (by intro; rfl), children_update _ _ _ _ (by intro; rfl)]
    | some old =>
      rw [hold] at hp
      simp only at hp
      cases hi : (d.attributes e).idxOf? old with
      | none => rw [hi] at hp; simp at hp
      | some i =>
        rw [hi] at hp
        simp only [Except.ok.injEq, Prod.mk.injEq] at hp
        rw [← hp.1, children_update _ _ _ _ (by intro; rfl),
          children_update _ _ _ _ (by intro; rfl), children_update _ _ _ _ (by intro; rfl)]

/-- An attribute that displaces none gets its place behind the others. -/
theorem attributes_placeAttribute {e a : Handle} (hp : d.placeAttribute e a = .ok (d', none)) :
    d'.attributes e = d.attributes e ++ [a] := by
  have hce := contains_of_isElement (isElement_of_placeAttribute hp)
  unfold placeAttribute at hp
  split_ifs at hp
  cases hn : d.node? a with
  | none => rw [hn] at hp; simp at hp
  | some n =>
    rw [hn] at hp
    simp only at hp
    split_ifs at hp
    cases hold : d.attribute? e n.name with
    | none =>
      rw [hold] at hp
      obtain rfl := (Prod.mk.inj (Except.ok.inj hp)).1
      rw [attributes_update _ _ _ _ (by intro; rfl),
        attributes_update_attributes _ _ _ (fun as => as ++ [a]) hce, if_pos rfl]
    | some old =>
      rw [hold] at hp
      simp only at hp
      cases hi : (d.attributes e).idxOf? old <;> rw [hi] at hp <;> simp at hp

/-- A detached attribute can be placed at every element. -/
theorem placeAttribute_of_canHold {e a : Handle} (he : d.isElement e = true)
    (ha : d.isAttribute a = true) (hdet : d.parent? a = none) :
    ∃ r, d.placeAttribute e a = .ok r := by
  have hca : d.contains a = true := by
    rw [contains_eq_isSome_kind?]
    simp only [isAttribute, decide_eq_true_eq] at ha
    rw [ha]
    rfl
  obtain ⟨n, hn⟩ := contains_iff.mp hca
  have hk : n.kind = .attribute := by simpa [isAttribute, kind?, hn] using ha
  have hpar : n.parent = none := by simpa [parent?, hn] using hdet
  rw [placeAttribute]
  simp only [he, hn, hk, hpar]
  simp only [Bool.not_true, Bool.false_eq_true, if_false, ne_eq, not_true_eq_false,
    Option.isSome_none]
  cases hold : d.attribute? e n.name with
  | none => exact ⟨_, rfl⟩
  | some old =>
    obtain ⟨i, hi⟩ := idxOf?_isSome_of_mem (mem_of_attribute?_eq_some hold).1
    simp only [hi]
    exact ⟨_, rfl⟩

end GuidedXml.Document
