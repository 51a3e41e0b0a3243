/-
# Regions

The nodes from a handle on form a region if none of them has a link to a node before it. What is read
of such nodes, and what becomes of them, is settled within the region.

The main statements say that the operations on nodes of a region do the same in every document with
that region.
-/
import GuidedXml.Proofs.Document.Showing
import GuidedXml.Proofs.Document.Surroundings

namespace GuidedXml

/-- The node has links to nodes from the handle `n` on alone. -/
def Node.StaysFrom (n : Nat) (m : Node) : Prop :=
  ∀ k, k ∈ m.attributes ∨ k ∈ m.children ∨ m.parent = some k → n ≤ k.index

namespace Tree

mutual
/-- A content that is laid out from a handle on has links to no node before it. -/
theorem staysFrom_of_mem_layout {n first : Nat} {parent : Option Handle} (hfirst : n ≤ first)
    (hparent : ∀ p, parent = some p → n ≤ p.index) :
    ∀ t : Tree, ∀ m ∈ t.layout parent first, m.StaysFrom n
  | .node kind name value as ts, m, hm => by
    have hroot : ∀ p : Handle, some (⟨first⟩ : Handle) = some p → n ≤ p.index := fun p hp =>
      Option.some.inj hp ▸ hfirst
    rw [layout] at hm
    rcases List.mem_append.mp hm with hm | hm
    · rcases List.mem_cons.mp hm with rfl | hm
      · rintro k (hk | hk | hk)
        · obtain ⟨i, -, rfl⟩ := List.mem_map.mp hk
          show n ≤ first + 1 + i
          omega
        · have := Document.le_of_mem_heads hk
          omega
        · exact hparent k hk
      · obtain ⟨a, -, rfl⟩ := List.mem_map.mp hm
        rintro k (hk | hk | hk)
        · simp at hk
        · simp at hk
        · exact hroot k hk
    · exact staysFrom_of_mem_layoutAll (by omega) hroot ts m hm
/-- Contents that are laid out from a handle on have links to no node before it. -/
theorem staysFrom_of_mem_layoutAll {n first : Nat} {parent : Option Handle} (hfirst : n ≤ first)
    (hparent : ∀ p, parent = some p → n ≤ p.index) :
    ∀ ts : List Tree, ∀ m ∈ layoutAll parent first ts, m.StaysFrom n
  | [], m, hm => by simp [layoutAll] at hm
  | t :: ts, m, hm => by
    rw [layoutAll] at hm
    rcases List.mem_append.mp hm with hm | hm
    · exact staysFrom_of_mem_layout hfirst hparent t m hm
    · exact staysFrom_of_mem_layoutAll (by omega) hparent ts m hm
end

end Tree

namespace Document

variable {n : Nat} {d d' : Document} {h k p : Handle} {node : Node}

/-- From the handle `n` on the documents have the same nodes, and none of them has a link to a node
before it. -/
structure SameRegion (n : Nat) (d d' : Document) : Prop where
  le : n ≤ d.slots.size
  size : d'.slots.size = d.slots.size
  node? : ∀ k, n ≤ k.index → d'.node? k = d.node? k
  stays : ∀ k, n ≤ k.index → ∀ node, d.node? k = some node → node.StaysFrom n

namespace SameRegion

/-- A document is one region. -/
theorem whole (d : Document) : SameRegion 0 d d :=
  ⟨Nat.zero_le _, rfl, fun _ _ => rfl, fun _ _ _ _ _ _ => Nat.zero_le _⟩

variable (hr : SameRegion n d d')

include hr

/-- Documents agree on a region both ways. -/
theorem symm : SameRegion n d' d where
  le := hr.size ▸ hr.le
  size := hr.size.symm
  node? := fun k hk => (hr.node? k hk).symm
  stays := fun k hk node hnode => hr.stays k hk node (hr.node? k hk ▸ hnode)

/-- Both documents give out the same handle next. -/
theorem next : d'.next = d.next := by
  rw [Document.next, Document.next, hr.size]

/-! ## Reading -/

/-- Parents of nodes of the region are in it. -/
theorem parent_le (hk : n ≤ k.index) (hp : d.parent? k = some p) : n ≤ p.index := by
  obtain ⟨node, hnode, hpn⟩ := Option.bind_eq_some_iff.mp hp
  exact hr.stays k hk node hnode p (Or.inr (Or.inr hpn))

/-- What is inside of nodes of the region is in it. -/
theorem inside_le (hh : n ≤ h.index) (hk : k ∈ d.inside h) : n ≤ k.index := by
  obtain ⟨node, hnode⟩ := contains_iff.mp (contains_of_mem_inside hk)
  have hlisted : k ∈ node.attributes ∨ k ∈ node.children := by
    simpa [inside, attributes, children, hnode] using hk
  exact hr.stays h hh node hnode k (or_assoc.mp (Or.inl hlisted))

/-- Attributes of nodes of the region are in it. -/
theorem attributes_le (hh : n ≤ h.index) (hk : k ∈ d.attributes h) : n ≤ k.index :=
  hr.inside_le hh (mem_inside.mpr (Or.inl hk))

/-- Children of nodes of the region are in it. -/
theorem children_le (hh : n ≤ h.index) (hk : k ∈ d.children h) : n ≤ k.index :=
  hr.inside_le hh (mem_inside.mpr (Or.inr hk))

/-- All that is looked up at a node of the region is the same. -/
theorem lookups (hk : n ≤ k.index) : d'.kind? k = d.kind? k ∧ d'.name k = d.name k ∧
    d'.parent? k = d.parent? k ∧ d'.attributes k = d.attributes k ∧
    d'.children k = d.children k :=
  lookups_congr (hr.node? k hk)

/-- The elements of a node of the region are the same. -/
theorem elements (hh : n ≤ h.index) : d'.elements h = d.elements h :=
  elements_congr (hr.lookups hh).2.2.2.2 fun _ hk => (hr.lookups (hr.children_le hh hk)).1

/-- Elements of nodes of the region are in it. -/
theorem elements_le (hh : n ≤ h.index) (hk : k ∈ d.elements h) : n ≤ k.index :=
  hr.children_le hh (mem_elements.mp hk).1

/-- Attributes of nodes of the region are found by the same names. -/
theorem attribute? (hh : n ≤ h.index) (name : String) :
    d'.attribute? h name = d.attribute? h name := by
  rw [Document.attribute?, Document.attribute?, (hr.lookups hh).2.2.2.1]
  refine List.find?_congr fun a ha => ?_
  rw [(hr.lookups (hr.attributes_le hh ha)).2.1]

/-- What is stored at a node of the region is the same. -/
theorem stored (hk : n ≤ k.index) : d'.stored k = d.stored k := by
  rw [Document.stored, Document.stored, hr.node? k hk]

/-- The first text of a node of the region is the same. -/
theorem firstText? (hh : n ≤ h.index) : d'.firstText? h = d.firstText? h :=
  firstText?_congr (hr.lookups hh).2.2.2.2 fun _ hk => (hr.lookups (hr.children_le hh hk)).1

/-- The value of a node of the region is the same. -/
theorem value (hh : n ≤ h.index) : d'.value h = d.value h := by
  refine value_congr (hr.lookups hh).1 (hr.stored hh) (hr.firstText? hh) fun t ht => ?_
  exact hr.stored (hr.children_le hh (List.mem_of_find?_eq_some ht))

/-- The run of a node of the region is as long. -/
theorem runLength (hh : n ≤ h.index) : d'.runLength h = d.runLength h := by
  refine runLength_congr (hr.lookups hh).2.2.1 (hr.lookups hh).2.1 fun p hp => ?_
  have hle := hr.parent_le hh hp
  exact ⟨hr.elements hle, fun k hk => (hr.lookups (hr.elements_le hle hk)).2.1⟩

/-- With any fuel the ancestors of a node of the region are the same. -/
theorem ancestorsAux (fuel : Nat) (hh : n ≤ h.index) :
    d'.ancestorsAux fuel h = d.ancestorsAux fuel h := by
  induction fuel generalizing h with
  | zero => rfl
  | succ fuel ih =>
    rw [Document.ancestorsAux, Document.ancestorsAux, (hr.lookups hh).2.2.1]
    cases hp : d.parent? h with
    | none => rfl
    | some p => exact congrArg (p :: ·) (ih (hr.parent_le hh hp))

/-- The ancestors of a node of the region are the same. -/
theorem ancestors (hh : n ≤ h.index) : d'.ancestors h = d.ancestors h := by
  rw [Document.ancestors, Document.ancestors, hr.size, hr.ancestorsAux _ hh]

/-- With any fuel the subtree of a node of the region is the same, and in the region. -/
theorem subtreeAux (fuel : Nat) (hh : n ≤ h.index) :
    d'.subtreeAux fuel h = d.subtreeAux fuel h ∧ ∀ k ∈ d.subtreeAux fuel h, n ≤ k.index := by
  induction fuel generalizing h with
  | zero => exact ⟨rfl, by simp [Document.subtreeAux]⟩
  | succ fuel ih =>
    rw [Document.subtreeAux, Document.subtreeAux, hr.node? h hh]
    cases hnode : d.node? h with
    | none => simp
    | some node =>
      have hinside : ∀ x ∈ node.attributes ++ node.children, n ≤ x.index := fun x hx =>
        hr.stays h hh node hnode x (by simpa [or_assoc] using Or.inl (List.mem_append.mp hx))
      refine ⟨?_, fun k hk => ?_⟩
      · dsimp only
        rw [List.flatMap_def, List.flatMap_def,
          List.map_congr_left fun x hx => (ih (hinside x hx)).1]
      · rcases List.mem_cons.mp hk with rfl | hk
        · exact hh
        · obtain ⟨x, hx, hkx⟩ := List.mem_flatMap.mp hk
          exact (ih (hinside x hx)).2 k hkx

/-- The subtree of a node of the region is the same. -/
theorem subtree (hh : n ≤ h.index) : d'.subtree h = d.subtree h := by
  rw [Document.subtree, Document.subtree, hr.size, (hr.subtreeAux _ hh).1]

/-- The subtree of a node of the region is in it. -/
theorem subtree_le (hh : n ≤ h.index) (hk : k ∈ d.subtree h) : n ≤ k.index :=
  (hr.subtreeAux _ hh).2 k hk

/-! ## Writing -/

/-- A bare node is made. -/
theorem push (hp : node.parent = none) (ha : node.attributes = []) (hc : node.children = []) :
    SameRegion n (d.push node).1 (d'.push node).1 where
  le := by
    rw [size_push]
    exact Nat.le_succ_of_le hr.le
  size := by rw [size_push, size_push, hr.size]
  node? := by
    intro k hk
    rw [node?_push, node?_push, hr.next, hr.node? k hk]
  stays := by
    intro k hk m hm
    rw [node?_push] at hm
    split_ifs at hm
    · obtain rfl := Option.some.inj hm
      intro x hx
      simp [hp, ha, hc] at hx
    · exact hr.stays k hk m hm

/-- What is stored for a node is changed, and its links stay in the region. -/
theorem update (h : Handle) {f : Node → Node} (hf : ∀ m, m.StaysFrom n → (f m).StaysFrom n) :
    SameRegion n (d.update h f) (d'.update h f) where
  le := by
    rw [size_update]
    exact hr.le
  size := by rw [size_update, size_update, hr.size]
  node? := by
    intro k hk
    rw [node?_update, node?_update, hr.node? k hk]
  stays := by
    intro k hk m hm
    rw [node?_update] at hm
    split_ifs at hm
    · obtain ⟨old, hold, rfl⟩ := Option.map_eq_some_iff.mp hm
      exact hf old (hr.stays k hk old hold)
    · exact hr.stays k hk m hm

/-- Documents agree on a region after a change of parent within it. -/
theorem updateParent (h : Handle) {parent : Option Handle}
    (hp : ∀ p, parent = some p → n ≤ p.index) :
    SameRegion n (d.update h fun m => { m with parent := parent })
      (d'.update h fun m => { m with parent := parent }) := by
  refine hr.update h fun m hm k hk => ?_
  rcases hk with hk | hk | hk
  · exact hm k (Or.inl hk)
  · exact hm k (Or.inr (Or.inl hk))
  · exact hp k hk

/-- They agree on it after a change of attributes within it. -/
theorem updateAttributes (h : Handle) {f : List Handle → List Handle}
    (hf : ∀ as, ∀ k ∈ f as, k ∈ as ∨ n ≤ k.index) :
    SameRegion n (d.update h fun m => { m with attributes := f m.attributes })
      (d'.update h fun m => { m with attributes := f m.attributes }) := by
  refine hr.update h fun m hm k hk => ?_
  rcases hk with hk | hk
  · exact (hf _ k hk).elim (fun hk => hm k (Or.inl hk)) id
  · exact hm k (Or.inr hk)

/-- They agree on it after a change of a stored value. -/
theorem updateValue (h : Handle) (value : String) :
    SameRegion n (d.update h fun m => { m with value := value })
      (d'.update h fun m => { m with value := value }) :=
  hr.update h fun _ hm k hk => hm k hk

/-- They agree on it after nodes of it were linked. -/
theorem link (hp : n ≤ p.index) (h : Handle) {cs : List Handle} (hcs : ∀ k ∈ cs, n ≤ k.index) :
    SameRegion n (d.link p h cs) (d'.link p h cs) := by
  have hlisted : SameRegion n (d.update p fun m => { m with children := cs })
      (d'.update p fun m => { m with children := cs }) := by
    refine hr.update p fun m hm k hk => ?_
    rcases hk with hk | hk | hk
    · exact hm k (Or.inl hk)
    · exact hcs k hk
    · exact hm k (Or.inr (Or.inr hk))
  refine hlisted.updateParent h fun q hq => ?_
  obtain rfl := Option.some.inj hq
  exact hp

/-- A placement within the region has the same fault in both. -/
theorem placementFault? (hp : n ≤ p.index) (hh : n ≤ h.index) :
    d'.placementFault? p h = d.placementFault? p h := by
  rw [Document.placementFault?, Document.placementFault?, hr.node? p hp, hr.node? h hh,
    hr.ancestors hp]

/-- A node is placed at the end of another one, in both documents or in none. -/
theorem append (hp : n ≤ p.index) (hh : n ≤ h.index) :
    (∃ fault, d.append p h = .error fault ∧ d'.append p h = .error fault) ∨
      ∃ e e', d.append p h = .ok e ∧ d'.append p h = .ok e' ∧ SameRegion n e e' := by
  rw [Document.append, Document.append, hr.placementFault? hp hh, (hr.lookups hp).2.2.2.2]
  cases d.placementFault? p h with
  | some fault => exact Or.inl ⟨fault, rfl, rfl⟩
  | none =>
    refine Or.inr ⟨_, _, rfl, rfl, hr.link hp h fun k hk => ?_⟩
    rcases List.mem_append.mp hk with hk | hk
    · exact hr.children_le hp hk
    · rw [List.mem_singleton.mp hk]
      exact hh

/-- A node is placed among the children of another one, in both documents or in none. -/
theorem insertAfter (hp : n ≤ p.index) (hh : n ≤ h.index) (q : Option Handle) :
    (∃ fault, d.insertAfter p q h = .error fault ∧ d'.insertAfter p q h = .error fault) ∨
      ∃ e e', d.insertAfter p q h = .ok e ∧ d'.insertAfter p q h = .ok e' ∧
        SameRegion n e e' := by
  rw [Document.insertAfter, Document.insertAfter, hr.placementFault? hp hh,
    (hr.lookups hp).2.2.2.2]
  cases d.placementFault? p h with
  | some fault => exact Or.inl ⟨fault, rfl, rfl⟩
  | none =>
    cases q with
    | none =>
      refine Or.inr ⟨_, _, rfl, rfl, hr.link hp h fun k hk => ?_⟩
      rcases List.mem_cons.mp hk with rfl | hk
      · exact hh
      · exact hr.children_le hp hk
    | some q =>
      dsimp only
      cases (d.children p).idxOf? q with
      | none => exact Or.inl ⟨_, rfl, rfl⟩
      | some i =>
        refine Or.inr ⟨_, _, rfl, rfl, hr.link hp h fun k hk => ?_⟩
        rcases List.eq_or_mem_of_mem_insertIdx hk with rfl | hk
        · exact hh
        · exact hr.children_le hp hk

/-- A node takes the place of a child, in both documents or in none. -/
theorem replaceChild (hp : n ≤ p.index) (hh : n ≤ h.index) (old : Handle) :
    (∃ fault, d.replaceChild p old h = .error fault ∧ d'.replaceChild p old h = .error fault) ∨
      ∃ e e', d.replaceChild p old h = .ok e ∧ d'.replaceChild p old h = .ok e' ∧
        SameRegion n e e' := by
  rw [Document.replaceChild, Document.replaceChild, hr.placementFault? hp hh,
    (hr.lookups hp).2.2.2.2]
  cases d.placementFault? p h with
  | some fault => exact Or.inl ⟨fault, rfl, rfl⟩
  | none =>
    dsimp only
    cases (d.children p).idxOf? old with
    | none => exact Or.inl ⟨_, rfl, rfl⟩
    | some i =>
      have hcs : ∀ k ∈ (d.children p).set i h, n ≤ k.index := fun k hk => by
        rcases List.mem_or_eq_of_mem_set hk with hk | rfl
        · exact hr.children_le hp hk
        · exact hh
      exact Or.inr ⟨_, _, rfl, rfl, (hr.link hp h hcs).updateParent old (by simp)⟩

/-- A node is taken out of its parent, in both documents or in none. -/
theorem detach (hh : n ≤ h.index) :
    (∃ fault, d.detach h = .error fault ∧ d'.detach h = .error fault) ∨
      ∃ e e', d.detach h = .ok e ∧ d'.detach h = .ok e' ∧ SameRegion n e e' := by
  rw [Document.detach, Document.detach, hr.node? h hh]
  cases hnode : d.node? h with
  | none => exact Or.inl ⟨_, rfl, rfl⟩
  | some node =>
    dsimp only
    cases hpar : node.parent with
    | none => exact Or.inr ⟨_, _, rfl, rfl, hr⟩
    | some p =>
      have hp : n ≤ p.index := hr.stays h hh node hnode p (Or.inr (Or.inr hpar))
      dsimp only
      rw [contains_congr (hr.lookups hp).1]
      cases d.contains p with
      | false => exact Or.inl ⟨_, rfl, rfl⟩
      | true =>
        have hunlisted : SameRegion n (d.update p (unlist h node.kind))
            (d'.update p (unlist h node.kind)) := by
          refine hr.update p fun m hm k hk => hm k ?_
          unfold unlist at hk
          split_ifs at hk
          · exact hk.imp_left fun hk => (List.mem_filter.mp hk).1
          · exact hk.imp_right fun hk => hk.imp_left fun hk => (List.mem_filter.mp hk).1
        exact Or.inr ⟨_, _, rfl, rfl, hunlisted.updateParent h (by simp)⟩

/-- Nodes of the region are dropped. -/
theorem foldlDrop (hs : List Handle) : SameRegion n (hs.foldl drop d) (hs.foldl drop d') where
  le := by
    rw [size_foldl_drop]
    exact hr.le
  size := by rw [size_foldl_drop, size_foldl_drop, hr.size]
  node? := by
    intro k hk
    rw [node?_foldl_drop, node?_foldl_drop, hr.node? k hk]
  stays := by
    intro k hk m hm
    rw [node?_foldl_drop] at hm
    split_ifs at hm
    exact hr.stays k hk m hm

/-- A subtree is discarded, in both documents or in none. -/
theorem discard (hh : n ≤ h.index) :
    (∃ fault, d.discard h = .error fault ∧ d'.discard h = .error fault) ∨
      ∃ e e', d.discard h = .ok e ∧ d'.discard h = .ok e' ∧ SameRegion n e e' := by
  rw [Document.discard, Document.discard, hr.node? h hh, hr.subtree hh]
  cases d.node? h with
  | none => exact Or.inl ⟨_, rfl, rfl⟩
  | some node =>
    dsimp only
    split_ifs
    · exact Or.inl ⟨_, rfl, rfl⟩
    · exact Or.inr ⟨_, _, rfl, rfl, hr.foldlDrop _⟩

/-- A content is written behind all nodes. -/
theorem write (t : Tree) : SameRegion n (d.write t).1 (d'.write t).1 where
  le := by
    rw [size_write]
    exact Nat.le_add_right_of_le hr.le
  size := by rw [size_write, size_write, hr.size]
  node? := by
    intro k hk
    rw [node?_write, node?_write, hr.size, hr.node? k hk]
  stays := by
    intro k hk m hm
    rw [node?_write] at hm
    split_ifs at hm
    · exact hr.stays k hk m hm
    · exact Tree.staysFrom_of_mem_layout hr.le (by simp) t m (List.mem_of_getElem? hm)

/-- What is read of a node as a content is settled within the region. -/
theorem contentAux (fuel : Nat) (hh : n ≤ h.index) :
    d'.contentAux fuel h = d.contentAux fuel h := by
  induction fuel generalizing h with
  | zero => rfl
  | succ fuel ih =>
    rw [Document.contentAux, Document.contentAux, hr.node? h hh]
    cases hnode : d.node? h with
    | none => rfl
    | some node =>
      have hattrs : node.attributes.mapM (fun a => (d'.node? a).map fun m => (m.name, m.value)) =
          node.attributes.mapM fun a => (d.node? a).map fun m => (m.name, m.value) := by
        refine mapM_congr fun a ha => ?_
        rw [hr.node? a (hr.stays h hh node hnode a (Or.inl ha))]
      have hchildren : node.children.mapM (d'.contentAux fuel) =
          node.children.mapM (d.contentAux fuel) :=
        mapM_congr fun c hc => ih (hr.stays h hh node hnode c (Or.inr (Or.inl hc)))
      simp only [Option.bind_eq_bind, Option.bind_some, hattrs, hchildren]

/-- A node of the region holds the same tree in both. -/
theorem content? (hh : n ≤ h.index) : d'.content? h = d.content? h := by
  rw [Document.content?, Document.content?, hr.size, hr.contentAux _ hh]

/-- An attribute is placed at an element, in both documents or in none. -/
theorem placeAttribute (hp : n ≤ p.index) (hh : n ≤ h.index) :
    (∃ fault, d.placeAttribute p h = .error fault ∧ d'.placeAttribute p h = .error fault) ∨
      ∃ e e' old, d.placeAttribute p h = .ok (e, old) ∧ d'.placeAttribute p h = .ok (e', old) ∧
        SameRegion n e e' := by
  have hparent : ∀ q, some p = some q → n ≤ q.index := fun q hq => Option.some.inj hq ▸ hp
  rw [Document.placeAttribute, Document.placeAttribute, isElement_congr (hr.lookups hp).1,
    hr.node? h hh]
  cases d.isElement p with
  | false => exact Or.inl ⟨_, rfl, rfl⟩
  | true =>
    cases d.node? h with
    | none => exact Or.inl ⟨_, rfl, rfl⟩
    | some node =>
      have hnot : ¬ (!true) = true := by simp
      dsimp only
      rw [if_neg hnot, if_neg hnot, hr.attribute? hp, (hr.lookups hp).2.2.2.1]
      split_ifs
      · exact Or.inl ⟨_, rfl, rfl⟩
      · exact Or.inl ⟨_, rfl, rfl⟩
      · cases d.attribute? p node.name with
        | none =>
          have hlisted := hr.updateAttributes p (f := (· ++ [h])) fun as k hk => by
            rcases List.mem_append.mp hk with hk | hk
            · exact Or.inl hk
            · rw [List.mem_singleton.mp hk]
              exact Or.inr hh
          exact Or.inr ⟨_, _, none, rfl, rfl, hlisted.updateParent h hparent⟩
        | some old =>
          dsimp only
          cases (d.attributes p).idxOf? old with
          | none => exact Or.inl ⟨_, rfl, rfl⟩
          | some i =>
            have hlisted := hr.updateAttributes p (f := fun as => as.set i h) fun as k hk => by
              rcases List.mem_or_eq_of_mem_set hk with hk | rfl
              · exact Or.inl hk
              · exact Or.inr hh
            exact Or.inr ⟨_, _, some old, rfl, rfl,
              (hlisted.updateParent old (by simp)).updateParent h hparent⟩

/-- A node gets a value, in both documents or in none. -/
theorem setValue (hh : n ≤ h.index) (value : String) :
    (∃ fault, d.setValue h value = .error fault ∧ d'.setValue h value = .error fault) ∨
      ∃ e e', d.setValue h value = .ok e ∧ d'.setValue h value = .ok e' ∧ SameRegion n e e' := by
  have hfirst := hr.firstText? hh
  rw [Document.firstText?, Document.firstText?, (hr.lookups hh).2.2.2.2] at hfirst
  rw [Document.setValue, Document.setValue, hr.node? h hh]
  cases hnode : d.node? h with
  | none => exact Or.inl ⟨_, rfl, rfl⟩
  | some node =>
    have hchildren : d.children h = node.children := by rw [children, hnode]; rfl
    rw [hchildren] at hfirst
    dsimp only
    cases node.kind with
    | «attribute» => exact Or.inr ⟨_, _, rfl, rfl, hr.updateValue h value⟩
    | text => exact Or.inr ⟨_, _, rfl, rfl, hr.updateValue h value⟩
    | document => exact Or.inl ⟨_, rfl, rfl⟩
    | element =>
      dsimp only
      rw [hfirst]
      cases node.children.find? d.isText with
      | some t => exact Or.inr ⟨_, _, rfl, rfl, hr.updateValue t value⟩
      | none =>
        -- the text that is made gets the same handle in both documents
        have hmade : SameRegion n (d.createText value).1 (d'.createText value).1 :=
          hr.push rfl rfl rfl
        have hplaced := hmade.append (p := h) (h := d.next) hh hr.le
        dsimp only [createText, push_snd]
        rw [hr.next]
        exact hplaced

end SameRegion

/-! ## Documents without other nodes -/

/-- A document of so many slots that has no node but its own. -/
def vacant (size : Nat) : Document :=
  ⟨empty.slots ++ Array.replicate (size - 1) none⟩

/-- A vacant document has as many slots as asked for. -/
theorem size_vacant {size : Nat} (hs : 0 < size) : (vacant size).slots.size = size := by
  simp only [vacant, empty, Array.size_append, Array.size_replicate, List.size_toArray,
    List.length_singleton]
  omega

/-- In a vacant document nothing lives but the document node. -/
theorem node?_vacant (size : Nat) (k : Handle) : (vacant size).node? k = empty.node? k := by
  by_cases hk : k.index < empty.slots.size
  · rw [node?, vacant, Array.getElem?_append_left hk]
    rfl
  · have hout : empty.node? k = none := by
      simpa [contains] using contains_eq_false_of_le (Nat.le_of_not_lt hk)
    rw [hout, node?, vacant, Array.getElem?_append_right (Nat.le_of_not_lt hk),
      Array.getElem?_replicate]
    split <;> rfl

/-- A vacant document is orderly. -/
theorem orderly_vacant (size : Nat) : (vacant size).Orderly := by
  refine Extends.orderly_of_node? ⟨?_, fun k _ => node?_vacant size k⟩ orderly_empty
    (node?_vacant size)
  simp [vacant]

/-- A handle that is not given out yet begins a region without nodes. -/
theorem sameRegion_of_size (hs : d'.slots.size = d.slots.size) :
    SameRegion d.slots.size d d' where
  le := Nat.le_refl _
  size := hs
  node? := by
    intro k hk
    have hnone : ∀ e : Document, e.slots.size ≤ k.index → e.node? k = none := fun e he => by
      simpa [Document.contains] using contains_eq_false_of_le he
    rw [hnone d hk, hnone d' (hs ▸ hk)]
  stays := by
    intro k hk node hnode
    have hc := contains_eq_false_of_le hk
    rw [Document.contains, hnode] at hc
    simp at hc

end Document

end GuidedXml
