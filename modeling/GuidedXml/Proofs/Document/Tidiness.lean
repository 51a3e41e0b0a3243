/-
# Tidy documents

A forest of nodes in which no element has two attributes of one name. Handles may come in any order:
a node may be placed under one that was made later.

The main statements say that every operation keeps a document tidy, except for one that discards the
document node itself.
-/
import GuidedXml.Proofs.Document.Content
import GuidedXml.Proofs.Document.Replacement
import GuidedXml.Proofs.Document.Walks
import GuidedXml.Proofs.Markup.Neat

namespace GuidedXml

/-- A content in which no node has two attributes of one name. -/
inductive Tree.Keyed : Tree → Prop
  | node {kind : Kind} {name value : String} {as : List (String × String)} {ts : List Tree} :
      (as.map Prod.fst).Nodup → (∀ t ∈ ts, Tree.Keyed t) → Tree.Keyed (.node kind name value as ts)

/-- Contents that were read name no attribute twice. -/
theorem Tree.Neat.keyed {t : Tree} (ht : t.Neat) : t.Keyed := by
  induction ht with
  | element has _ _ ih => exact .node has ih
  | text _ => exact .node (by simp) (by simp)

namespace Document

variable {d d' source : Document} {h k p c : Handle}

/-- A forest of nodes in which the attributes of a node have different names. -/
structure Tidy (d : Document) : Prop extends Forest d where
  names : ∀ {h a b}, a ∈ d.attributes h → b ∈ d.attributes h → d.name a = d.name b → a = b

/-! ## Changes of one parent -/

namespace Relinked

variable {taken given : Option Handle}

/-- Giving a parent a node that does not lie above it closes no circle. -/
theorem acyclic (hr : Relinked d d' p taken given) (hd : d.Acyclic)
    (hgiven : ∀ c, given = some c → ¬ d.Within c p) : d'.Acyclic := by
  classical
  obtain ⟨rank, hrank⟩ := hd
  -- what lies below the node that is given is ranked above its new parent
  let moved : Handle → Prop := fun k => ∃ c, given = some c ∧ d.Within c k
  have hmoved : ∀ {k q}, d.parent? k = some q → moved q → moved k := by
    rintro k q hq ⟨c, hc, hw⟩
    exact ⟨c, hc, hw.step hq⟩
  have hstays : ¬ moved p := by
    rintro ⟨c, hc, hw⟩
    exact hgiven c hc hw
  refine ⟨fun k => if moved k then rank k + rank p + 1 else rank k, ?_⟩
  intro k q hq
  have hlive := contains_of_parent? hq
  rw [contains_congr (hr.kind? k)] at hlive
  rw [hr.parent?] at hq
  dsimp only
  split_ifs at hq with hg ht
  · obtain rfl := Option.some.inj hq
    rw [if_neg hstays, if_pos ⟨k, hg, Within.self hlive⟩]
    omega
  · have hlt := hrank k q hq
    by_cases hmq : moved q
    · rw [if_pos hmq, if_pos (hmoved hq hmq)]
      omega
    · rw [if_neg hmq]
      split_ifs <;> omega

/-- Changing the nodes of one parent keeps a document tidy if no circle is closed and no name given
twice. -/
theorem tidy (hr : Relinked d d' p taken given) (hd : d.Tidy)
    (hgiven : ∀ c, given = some c → d.CanHold p c ∧ ¬ d.Within c p)
    (htaken : ∀ c, taken = some c → d.parent? c = some p)
    (hname : ∀ a, given = some a → d.isAttribute a = true →
      ∀ b ∈ d.attributes p, taken ≠ some b → d.name b ≠ d.name a) : d'.Tidy where
  toLinked := hr.linked hd.toLinked (fun c hc => (hgiven c hc).1) htaken
  acyclic := hr.acyclic hd.acyclic fun c hc => (hgiven c hc).2
  names := by
    intro h a b ha hb hab
    rw [hr.name, hr.name] at hab
    by_cases hh : h = p
    · subst hh
      rcases (hr.mem_attributes a).mp ha with ⟨hga, haa⟩ | ⟨ha, hta⟩ <;>
        rcases (hr.mem_attributes b).mp hb with ⟨hgb, hba⟩ | ⟨hb, htb⟩
      · exact Option.some.inj (hga.symm.trans hgb)
      · exact absurd hab.symm (hname a hga haa b hb htb)
      · exact absurd hab (hname b hgb hba a ha hta)
      · exact hd.names ha hb hab
    · rw [hr.attributes h hh] at ha hb
      exact hd.names ha hb hab

end Relinked

/-! ## Placing and taking out -/

/-- Only live nodes without parents are discarded. -/
theorem detached_of_discard (hr : d.discard h = .ok d') :
    d.contains h = true ∧ d.parent? h = none := by
  unfold Document.discard at hr
  cases hn : d.node? h with
  | none => rw [hn] at hr; simp at hr
  | some n =>
    rw [hn] at hr
    dsimp only at hr
    split_ifs at hr with hpar
    exact ⟨contains_iff.mpr ⟨n, hn⟩, by simpa [parent?, hn] using hpar⟩

namespace Tidy

/-- Giving a parent a child that may be placed there keeps a document tidy. -/
theorem relink (hd : d.Tidy) {taken : Option Handle} (hr : Relinked d d' p taken (some c))
    (hpl : d.Placeable p c) (htaken : ∀ x, taken = some x → d.parent? x = some p) : d'.Tidy := by
  refine hr.tidy hd ?_ htaken ?_
  · intro x hx
    obtain rfl := Option.some.inj hx
    exact ⟨hpl.canHold, hd.not_within_of_placeable hpl⟩
  · intro a ha hattr
    obtain rfl := Option.some.inj ha
    rw [hpl.not_isAttribute] at hattr
    simp at hattr

theorem append (hd : d.Tidy) (ha : d.append p c = .ok d') : d'.Tidy := by
  obtain ⟨hr, hpl, -⟩ := relinked_append hd.toLinked ha
  exact hd.relink hr hpl (by simp)

theorem insertAfter (hd : d.Tidy) {q : Option Handle} (hi : d.insertAfter p q c = .ok d') :
    d'.Tidy := by
  obtain ⟨hr, hpl, -⟩ := relinked_insertAfter hd.toLinked hi
  exact hd.relink hr hpl (by simp)

theorem replaceChild (hd : d.Tidy) {old : Handle} (hc : d.replaceChild p old c = .ok d') :
    d'.Tidy := by
  obtain ⟨hr, hpl, hold, -⟩ := relinked_replaceChild hd.toLinked hc
  refine hd.relink hr hpl ?_
  intro x hx
  obtain rfl := Option.some.inj hx
  exact hd.parent?_of_mem (mem_inside.mpr (Or.inr hold))

theorem detach (hd : d.Tidy) (hr : d.detach h = .ok d') : d'.Tidy := by
  cases hp : d.parent? h with
  | none =>
    -- a node without parent is left as it is
    obtain rfl : d = d' := by
      rw [Document.detach] at hr
      cases hn : d.node? h with
      | none => rw [hn] at hr; simp at hr
      | some n =>
        have hpar : n.parent = none := by simpa [parent?, hn] using hp
        simp only [hn, hpar] at hr
        exact Except.ok.inj hr
    exact hd
  | some p =>
    obtain ⟨e, he, hrel, -⟩ := relinked_detach hd.toLinked hp
    obtain rfl := Except.ok.inj (he.symm.trans hr)
    refine hrel.tidy hd (by simp) ?_ (by simp)
    intro x hx
    obtain rfl := Option.some.inj hx
    exact hp

/-- An attribute lies above nothing. -/
theorem not_within_of_isAttribute (hd : d.Tidy) (ha : d.isAttribute c = true)
    (hp : d.isElement p = true) : ¬ d.Within c p := by
  intro hw
  have hdoc : d.kind? c ≠ some .document := by
    intro hk
    simp [isAttribute, hk] at ha
  have heq := hw.eq_of_leaf hd.toLinked (not_isElement_of_isAttribute ha) hdoc
  rw [heq, not_isElement_of_isAttribute ha] at hp
  simp at hp

theorem placeAttribute (hd : d.Tidy) {e a : Handle} {displaced : Option Handle}
    (hp : d.placeAttribute e a = .ok (d', displaced)) : d'.Tidy := by
  obtain ⟨hr, hcan, hattr, hdisplaced⟩ := relinked_placeAttribute hd.toLinked hp
  refine hr.tidy hd ?_ (fun x hx => (parent?_of_displaced hd.toLinked hp hx).1) ?_
  · intro c hc
    obtain rfl := Option.some.inj hc
    exact ⟨hcan, hd.not_within_of_isAttribute hattr (isElement_of_placeAttribute hp)⟩
  · -- the attribute that had the name is the one that lost its place
    intro x hx _ b hb hkeeps hsame
    obtain rfl := Option.some.inj hx
    cases hold : d.attribute? e (d.name a) with
    | none =>
      have := List.find?_eq_none.mp hold b hb
      simp [hsame] at this
    | some old =>
      obtain ⟨hmem, hname⟩ := mem_of_attribute?_eq_some hold
      have := hd.names hmem hb (hname.trans hsame.symm)
      rw [hdisplaced, hold, this] at hkeeps
      exact hkeeps rfl

theorem revalue (hd : d.Tidy) (h : Handle) (value : String) :
    (d.update h fun n => { n with value := value }).Tidy := by
  have hs := sameShape_revalue d h value
  obtain ⟨rank, hrank⟩ := hd.acyclic
  refine { toLinked := hs.linked hd.toLinked, acyclic := ⟨rank, ?_⟩, names := ?_ }
  · intro k p hp
    rw [hs.parent?] at hp
    exact hrank k p hp
  · intro k a b ha hb hab
    rw [hs.attributes] at ha hb
    rw [hs.name, hs.name] at hab
    exact hd.names ha hb hab

/-- Cutting a tree off keeps a document tidy. -/
theorem cut (hd : d.Tidy) (hr : Cut d d' h) (hp : d.parent? h = none)
    (htop : d'.kind? top = some .document) : d'.Tidy := by
  obtain ⟨rank, hrank⟩ := hd.acyclic
  refine { toLinked := hr.linked hd.toLinked hp htop, acyclic := ⟨rank, ?_⟩, names := ?_ }
  · intro k p hp
    exact hrank k p (hr.parent?_eq hp).1
  · intro k a b ha hb hab
    obtain ⟨hk, -, hwa⟩ := hr.mem_inside hd.toLinked hp (mem_inside.mpr (Or.inl ha))
    obtain ⟨-, -, hwb⟩ := hr.mem_inside hd.toLinked hp (mem_inside.mpr (Or.inl hb))
    have hattributes := (lookups_congr (hr.kept k hk)).2.2.2.1
    rw [hattributes] at ha hb
    rw [(lookups_congr (hr.kept a hwa)).2.1, (lookups_congr (hr.kept b hwb)).2.1] at hab
    exact hd.names ha hb hab

theorem discard (hd : d.Tidy) (hr : d.discard h = .ok d') (hne : h ≠ top) : d'.Tidy := by
  obtain ⟨hc, hp⟩ := detached_of_discard hr
  obtain ⟨e, he, hpruned⟩ := pruned_discard hd.toForest hc hp
  obtain rfl := Except.ok.inj (he.symm.trans hr)
  have htop : ¬ d.Within h top :=
    hd.toLinked.not_within_of_detached (Within.self hd.toLinked.contains_top) hp hne
  refine hd.cut hpruned.cut hp ?_
  rw [(lookups_congr (hpruned.kept top htop)).1, hd.kind?_top]

end Tidy

/-! ## New nodes -/

/-- A larger document is linked if the new nodes are in order among themselves. -/
theorem Extends.linked (he : Extends d d') (hd : d.Linked)
    (hs : ∀ h, d'.contains h = true → d.slots.size ≤ h.index → d'.SoundAt h)
    (hu : ∀ h p, d.slots.size ≤ h.index → d'.parent? h = some p → h ∈ d'.inside p) :
    d'.Linked := by
  have htop := he.lookups hd.contains_top
  -- old nodes list what they listed, and new ones are sound: each clause is either an old one or
  -- theirs
  have hold : ∀ {h : Handle}, h.index < d.slots.size → d'.inside h = d.inside h := fun hh => by
    have heq := lookups_congr (he.node? _ hh)
    rw [inside, inside, heq.2.2.2.1, heq.2.2.2.2]
  have hlisted : ∀ {h k : Handle}, h.index < d.slots.size → k ∈ d'.inside h →
      k ∈ d.inside h ∧ d.contains k = true := fun hh hk =>
    ⟨hold hh ▸ hk, hd.contains_of_mem (hold hh ▸ hk)⟩
  have hnew : ∀ {h k : Handle}, ¬ h.index < d.slots.size → k ∈ d'.inside h → d'.SoundAt h :=
    fun hh hk => hs _ (contains_of_mem_inside hk) (Nat.le_of_not_lt hh)
  refine ⟨by rw [htop.1, hd.kind?_top], by rw [htop.2.2.1, hd.parent?_top], ?_, ?_, ?_, ?_, ?_⟩
  · intro h k hk
    by_cases hh : h.index < d.slots.size
    · obtain ⟨hk', hc⟩ := hlisted hh hk
      rw [(he.lookups hc).2.2.1, hd.parent?_of_mem hk']
    · exact ((hnew hh hk).parent?_of_mem hk).1
  · intro h k hp
    by_cases hk : k.index < d.slots.size
    · rw [(lookups_congr (he.node? k hk)).2.2.1] at hp
      rw [hold (index_lt_of_contains (hd.contains_parent hp))]
      exact hd.mem_of_parent? hp
    · exact hu k h (Nat.le_of_not_lt hk) hp
  · intro h
    by_cases hh : h.index < d.slots.size
    · rw [hold hh]
      exact hd.nodup_inside h
    · cases hc : d'.contains h with
      | true => exact (hs h hc (Nat.le_of_not_lt hh)).nodup_inside
      | false =>
        have hn : d'.node? h = none := by simpa [contains] using hc
        simp [inside, attributes, children, hn]
  · intro h k hk
    by_cases hh : h.index < d.slots.size
    · obtain ⟨-, hc⟩ := hlisted hh (mem_inside.mpr (Or.inl hk))
      have heq := lookups_congr (he.node? h hh)
      rw [isAttribute_congr (he.lookups hc).1, isElement_congr heq.1]
      exact hd.kinds_of_attribute (heq.2.2.2.1 ▸ hk)
    · exact (hnew hh (mem_inside.mpr (Or.inl hk))).kinds_of_attribute hk
  · intro h k hk
    by_cases hh : h.index < d.slots.size
    · obtain ⟨-, hc⟩ := hlisted hh (mem_inside.mpr (Or.inr hk))
      have heq := lookups_congr (he.node? h hh)
      rw [isElement_congr (he.lookups hc).1, isText_congr (he.lookups hc).1,
        isElement_congr heq.1, heq.1]
      exact hd.kinds_of_child (heq.2.2.2.2 ▸ hk)
    · exact (hnew hh (mem_inside.mpr (Or.inr hk))).kinds_of_child hk

/-- The links of new nodes lead to new nodes. -/
theorem Extends.parent_ge (he : Extends d d') (hd : d.Linked) (hd' : d'.Linked)
    (hk : d.slots.size ≤ k.index) (hp : d'.parent? k = some p) : d.slots.size ≤ p.index := by
  by_contra hlt
  have heq := lookups_congr (he.node? p (Nat.lt_of_not_le hlt))
  have hmem := hd'.mem_of_parent? hp
  rw [inside, heq.2.2.2.1, heq.2.2.2.2] at hmem
  have := index_lt_of_contains (hd.contains_of_mem hmem)
  omega

theorem inherited_keyed : Inherited Tree.Keyed where
  leaf _ _ := .node (by simp) (by simp)
  below := fun _ ⟨_, hts⟩ => hts

/-- The attributes of all nodes of a stored keyed content have different names. -/
theorem names_of_holds {parent : Option Handle} {first : Nat} {t : Tree} (ht : t.Keyed)
    (hs : d.Holds parent first t) (h : Handle) (hle : first ≤ h.index)
    (hlt : h.index < first + t.size) :
    ∀ a ∈ d.attributes h, ∀ b ∈ d.attributes h, d.name a = d.name b → a = b := by
  obtain ⟨u, q, hu, hh, -⟩ := exists_holds_of_mem inherited_keyed t ht hs h hle hlt
  obtain ⟨hkeys, -⟩ := hu
  have hnames := (lookups_of_holds hh).2.2
  rw [Tree.attributes] at hnames
  exact fun a ha b hb => List.inj_on_of_nodup_map (hnames ▸ hkeys) ha hb

/-- Every node of a written content has a place in it. -/
theorem soundAt_write {t : Tree} (ht : t.Proper) (hc : (d.write t).1.contains h = true)
    (hh : d.slots.size ≤ h.index) : (d.write t).1.SoundAt h ∧
      ((h = d.next ∧ (d.write t).1.parent? h = none) ∨
        ∃ p, (d.write t).1.parent? h = some p ∧ h ∈ (d.write t).1.inside p) := by
  have hlt := index_lt_of_contains hc
  rw [size_write] at hlt
  exact soundAt_of_holds_of_mem ht (holds_write d t) h hh hlt

theorem Linked.write (hd : d.Linked) {t : Tree} (ht : t.Proper) : (d.write t).1.Linked := by
  refine (extends_write d t).linked hd (fun k hc hk => (soundAt_write ht hc hk).1) ?_
  intro k p hk hp
  rcases (soundAt_write ht (contains_of_parent? hp) hk).2 with ⟨-, hp'⟩ | ⟨q, hq, hm⟩
  · rw [hp'] at hp
    simp at hp
  · obtain rfl := Option.some.inj (hp.symm.trans hq)
    exact hm

/-- A bare node is written as a content of its own. -/
theorem push_eq_write (d : Document) (kind : Kind) (name value : String) :
    d.push { kind, name, value } = d.write (.node kind name value [] []) := by
  simp [Document.push, Document.write, Tree.layout, Tree.layoutAll, Tree.heads]

namespace Tidy

/-- Writing a proper content without repeated names keeps a document tidy. -/
theorem write (hd : d.Tidy) {t : Tree} (ht : t.Proper) (hkeyed : t.Keyed) :
    (d.write t).1.Tidy := by
  have hext := extends_write d t
  have hlinked := hd.toLinked.write ht
  obtain ⟨rank, hrank⟩ := hd.acyclic
  refine { toLinked := hlinked, acyclic := ?_, names := ?_ }
  · -- old nodes are ranked as before, new ones by their handles
    refine ⟨fun k => if k.index < d.slots.size then rank k else k.index, ?_⟩
    intro k p hp
    dsimp only
    by_cases hk : k.index < d.slots.size
    · rw [(lookups_congr (hext.node? k hk)).2.2.1] at hp
      rw [if_pos hk, if_pos (index_lt_of_contains (hd.toLinked.contains_parent hp))]
      exact hrank k p hp
    · have hple := hext.parent_ge hd.toLinked hlinked (Nat.le_of_not_lt hk) hp
      rw [if_neg hk, if_neg (Nat.not_lt_of_le hple)]
      have hsound := (soundAt_write ht (hlinked.contains_parent hp) hple).1
      exact (hsound.parent?_of_mem (hlinked.mem_of_parent? hp)).2
  · intro k a b ha hb hab
    by_cases hk : k.index < d.slots.size
    · have hattributes := (lookups_congr (hext.node? k hk)).2.2.2.1
      rw [hattributes] at ha hb
      have hname : ∀ x ∈ d.attributes k, (d.write t).1.name x = d.name x := fun x hx =>
        (hext.lookups (hd.toLinked.contains_of_mem (mem_inside.mpr (Or.inl hx)))).2.1
      rw [hname a ha, hname b hb] at hab
      exact hd.names ha hb hab
    · have hlt := index_lt_of_contains (contains_of_mem_inside (mem_inside.mpr (Or.inl ha)))
      rw [size_write] at hlt
      exact names_of_holds hkeyed (holds_write d t) k (Nat.le_of_not_lt hk) hlt a ha b hb hab

/-- A new node keeps a document tidy. -/
theorem push (hd : d.Tidy) (kind : Kind) (name value : String) :
    (d.push { kind, name, value }).1.Tidy := by
  rw [push_eq_write]
  exact hd.write (.node (by simp) (by simp) (by simp) (by simp)) (.node (by simp) (by simp))

/-- Setting a value keeps a document tidy. -/
theorem setValue (hd : d.Tidy) {value : String} (hs : d.setValue h value = .ok d') : d'.Tidy := by
  rcases setValue_cases hs with ⟨k, -, rfl⟩ | ⟨-, ha⟩
  · exact hd.revalue k value
  · exact (hd.push .text "" value).append ha

/-! ## Contents read off tidy documents -/

theorem keyed_of_contentAux (hd : d.Tidy) {fuel : Nat} {t : Tree}
    (ht : d.contentAux fuel h = some t) : t.Keyed := by
  induction fuel generalizing h t with
  | zero => simp [contentAux] at ht
  | succ fuel ih =>
    obtain ⟨m, hm, hb⟩ := exists_bears hd.toLinked ht
    obtain rfl := Nat.succ.inj hm
    obtain ⟨kind, name, value, as, ts⟩ := t
    refine .node ?_ fun u hu => ?_
    · rw [show as = d.labels h from hb.labels.symm, labels, List.map_map]
      exact (hd.nodup_attributes h).map_on fun a ha b hb => hd.names ha hb
    · obtain ⟨c, -, hcu⟩ := hb.exists_child hu
      exact ih hcu

/-- A content that is read off a tidy document can be written into a tidy one. -/
theorem content (hd : d.Tidy) {t : Tree} (ht : d.content? h = some t) : t.Proper ∧ t.Keyed :=
  ⟨(proper_of_contentAux hd.toLinked ht).1, hd.keyed_of_contentAux ht⟩

end Tidy

end Document

end GuidedXml
