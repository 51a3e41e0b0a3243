/-
# Copied subtrees

A subtree of one document is copied into another one under the next handles, in preorder. So the
copy is the subtree with its handles renamed: each node of it is stored with the renamed links, only
that the outermost one belongs to no parent.

Copying is one writing of a content. It may as well be done by recursion, node by node, where a copy
is linked to the node it belongs to only when all that is below it has been made: what has been made
of a node at any time is then the node with the attributes and children that are done.

The main statement says that every live node of a document can be copied so, and that no node that
was there before is changed.
-/
import GuidedXml.Proofs.Document.Preorder

namespace GuidedXml

namespace Tree

/-- The handles of trees are those of the first ones, then those of the rest behind these. -/
theorem heads_append (first : Nat) (ts us : List Tree) :
    heads first (ts ++ us) = heads first ts ++ heads (first + sizeAll ts) us := by
  induction ts generalizing first with
  | nil => simp [heads, sizeAll]
  | cons t ts ih => simp [heads, sizeAll, ih, Nat.add_assoc]

/-- Trees are laid out one list after the other. -/
theorem layoutAll_append (parent : Option Handle) (first : Nat) (ts us : List Tree) :
    layoutAll parent first (ts ++ us) =
      layoutAll parent first ts ++ layoutAll parent (first + sizeAll ts) us := by
  induction ts generalizing first with
  | nil => simp [layoutAll, sizeAll]
  | cons t ts ih => simp [layoutAll, sizeAll, ih, Nat.add_assoc]

/-- The nodes of a content name the same parents, whatever the parent of the outermost one is. -/
theorem exists_layout_eq_cons (first : Nat) (t : Tree) :
    ∃ (n : Node) (ns : List Node), ∀ parent, t.layout parent first = { n with parent } :: ns := by
  obtain ⟨kind, name, value, as, ts⟩ := t
  let root : Node :=
    { kind, name, value,
      children := heads (first + 1 + as.length) ts,
      attributes := (List.range as.length).map fun i => ⟨first + 1 + i⟩ }
  exact ⟨root, _, fun parent => rfl⟩

end Tree

/-- What is stored for a node if the handles of all nodes are renamed. -/
def Node.renamed (rename : Handle → Handle) (n : Node) : Node :=
  { n with
    parent := n.parent.map rename
    children := n.children.map rename
    attributes := n.attributes.map rename }

namespace Document

variable {d e e' source : Document} {h k a copy : Handle} {t : Tree} {first fuel : Nat}
  {rename : Handle → Handle} {kind : Kind} {name value : String}
  {as : List (String × String)} {ts : List Tree} {ks : List Handle}

/-! ## Nodes behind all slots -/

/-- The document with more nodes behind all slots. -/
def extend (d : Document) (ns : List Node) : Document :=
  ⟨d.slots ++ ns.map some⟩

/-- Writing a tree adds its layout. -/
theorem write_eq_extend (d : Document) (t : Tree) :
    (d.write t).1 = d.extend (t.layout none d.slots.size) :=
  rfl

/-- A single node is added as a list of one. -/
theorem push_eq_extend (d : Document) (n : Node) : (d.push n).1 = d.extend [n] := by
  simp [push, extend]

theorem size_extend (d : Document) (ns : List Node) :
    (d.extend ns).slots.size = d.slots.size + ns.length := by
  simp [extend, ← Array.length_toList]

/-- Nodes are added one list after the other. -/
theorem extend_extend (d : Document) (ms ns : List Node) :
    (d.extend ms).extend ns = d.extend (ms ++ ns) := by
  refine congrArg Document.mk (Array.toList_inj.mp ?_)
  simp [extend]

/-- The first one of the nodes added has the next handle. -/
theorem node?_extend_next (d : Document) (n : Node) (ns : List Node) :
    (d.extend (n :: ns)).node? d.next = some n := by
  simp [extend, node?, next, ← Array.getElem?_toList]

/-- A node behind all slots is changed by its number among the nodes that are there. -/
theorem update_extend (d : Document) (ms ns : List Node) (n : Node) (f : Node → Node) :
    (d.extend (ms ++ n :: ns)).update ⟨d.slots.size + ms.length⟩ f =
      d.extend (ms ++ f n :: ns) := by
  have hmodify : (d.slots.toList ++ ms.map some ++ some n :: ns.map some).modify
      (d.slots.toList ++ ms.map some).length (Option.map f) =
        d.slots.toList ++ ms.map some ++ some (f n) :: ns.map some :=
    List.modifyTailIdx_add _ 0 _ _
  refine congrArg Document.mk (Array.toList_inj.mp ?_)
  simpa [extend] using hmodify

/-- Link a new node to the node that it belongs to, which lists it last. -/
def adopt (d : Document) (owner new : Handle) (list : Node → Node) : Document :=
  (d.update new fun n => { n with parent := some owner }).update owner list

/-- Behind the nodes that were written for an owner, the ones of a content are linked to it by their
outermost node. -/
theorem adopt_extend (d : Document) (n : Node) (ns : List Node) (t : Tree) (list : Node → Node) :
    let first := d.slots.size + (ns.length + 1)
    (d.extend (n :: (ns ++ t.layout none first))).adopt d.next ⟨first⟩ list =
      d.extend (list n :: (ns ++ t.layout (some d.next) first)) := by
  intro first
  obtain ⟨m, ms, hlayout⟩ := t.exists_layout_eq_cons first
  have hnew := update_extend d (n :: ns) ms { m with parent := none }
    fun n => { n with parent := some d.next }
  have howner := update_extend d [] (ns ++ { m with parent := some d.next } :: ms) n list
  rw [List.cons_append, List.length_cons] at hnew
  rw [hlayout, hlayout, adopt, hnew]
  exact howner

/-! ## Copying node by node -/

/-- Copy an attribute and link it to the copy of its element. -/
def copyAttribute (d : Document) (copy : Handle) (m : Node) : Document :=
  (d.createAttribute m.name m.value).1.adopt copy d.next fun n =>
    { n with attributes := n.attributes ++ [d.next] }

/-- Link a copied subtree to the copy of the node that it lies in. -/
def adoptChild (d : Document) (copy child : Handle) : Document :=
  d.adopt copy child fun n => { n with children := n.children ++ [child] }

/-- Where the copying of attributes leads that belong to a node with the given copy. -/
inductive CopiesAttributes (source : Document) (copy : Handle) :
    Document → List Handle → Document → Prop
  | nil {d : Document} : CopiesAttributes source copy d [] d
  | cons {d d' : Document} {a : Handle} {as : List Handle} {m : Node} : source.node? a = some m →
      CopiesAttributes source copy (d.copyAttribute copy m) as d' →
      CopiesAttributes source copy d (a :: as) d'

mutual
/-- Where the copying of a subtree leads that makes one node after the other: the node, then its
attributes, then what is below its children. Each copy is linked to that of the node it belongs to
once it is there with all that is below it. -/
inductive Copies (source : Document) : Document → Handle → Document → Prop
  | node {d d' d'' : Document} {h : Handle} {n : Node} : source.node? h = some n →
      CopiesAttributes source d.next
        (d.push { kind := n.kind, name := n.name, value := n.value }).1 n.attributes d' →
      CopiesChildren source d.next d' n.children d'' → Copies source d h d''
/-- Where the copying of subtrees leads that lie in a node with the given copy. -/
inductive CopiesChildren (source : Document) : Handle → Document → List Handle → Document → Prop
  | nil {copy : Handle} {d : Document} : CopiesChildren source copy d [] d
  | cons {copy : Handle} {d d' d'' : Document} {c : Handle} {cs : List Handle} :
      Copies source d c d' → CopiesChildren source copy (d'.adoptChild copy d.next) cs d'' →
      CopiesChildren source copy d (c :: cs) d''
end

/-- Copying attributes has one outcome at most. -/
theorem CopiesAttributes.unique (hc : CopiesAttributes source copy d ks e)
    (hc' : CopiesAttributes source copy d ks e') : e = e' := by
  induction hc with
  | nil => cases hc'; rfl
  | cons hm _ ih =>
    cases hc' with
    | cons hm' hc' =>
      obtain rfl := Option.some.inj (hm.symm.trans hm')
      exact ih hc'

mutual
/-- Copying node by node leads to one document only. -/
theorem Copies.unique : ∀ {d e e' : Document} {h : Handle}, Copies source d h e →
    Copies source d h e' → e = e'
  | _, _, _, _, .node hn has hcs, hc' => by
    cases hc' with
    | node hn' has' hcs' =>
      cases hn.symm.trans hn'
      cases has.unique has'
      exact CopiesChildren.unique hcs hcs'
/-- Copying children has one outcome at most. -/
theorem CopiesChildren.unique : ∀ {copy : Handle} {d e e' : Document} {cs : List Handle},
    CopiesChildren source copy d cs e → CopiesChildren source copy d cs e' → e = e'
  | _, _, _, _, _, .nil, hcs' => by
    cases hcs'
    rfl
  | _, _, _, _, _, .cons hc hcs, hcs' => by
    cases hcs' with
    | cons hc' hcs' =>
      cases Copies.unique hc hc'
      exact CopiesChildren.unique hcs hcs'
end
/-- Behind a tree the next handle is as many further as the tree has nodes. -/
theorem next_write (d : Document) (t : Tree) : (d.write t).1.next = ⟨d.slots.size + t.size⟩ := by
  rw [next, size_write]

/-- A written node gets one more attribute. -/
theorem copyAttribute_write (d : Document) (m : Node) :
    (d.write (.node kind name value as [])).1.copyAttribute d.next m =
      (d.write (.node kind name value (as ++ [(m.name, m.value)]) [])).1 := by
  have hadopt := adopt_extend d
    { kind, name, value, attributes := (List.range as.length).map fun i => ⟨d.slots.size + 1 + i⟩ }
    (as.map fun a => { kind := .attribute, name := a.1, value := a.2, parent := some d.next })
    (.node .attribute m.name m.value [] [])
    fun n => { n with attributes := n.attributes ++ [⟨d.slots.size + 1 + as.length⟩] }
  rw [copyAttribute, next_write, createAttribute, push_eq_extend, write_eq_extend,
    write_eq_extend, extend_extend]
  simpa [Tree.layout, Tree.layoutAll, Tree.size, Tree.sizeAll, Tree.heads, List.range_succ, next,
    Nat.add_assoc, Nat.add_comm 1] using hadopt

/-- The node that the last nodes are laid out for gets one more content inside. -/
theorem adoptChild_extend (d : Document) (parent : Option Handle) (t : Tree) :
    let laid := d.extend ((Tree.node kind name value as ts).layout parent d.slots.size)
    (laid.write t).1.adoptChild d.next laid.next =
      d.extend ((Tree.node kind name value as (ts ++ [t])).layout parent d.slots.size) := by
  intro laid
  let first := d.slots.size + 1 + as.length + Tree.sizeAll ts
  have hadopt := adopt_extend d
    { kind, name, value, parent,
      children := Tree.heads (d.slots.size + 1 + as.length) ts,
      attributes := (List.range as.length).map fun i => ⟨d.slots.size + 1 + i⟩ }
    ((as.map fun a => { kind := .attribute, name := a.1, value := a.2, parent := some d.next }) ++
      Tree.layoutAll (some d.next) (d.slots.size + 1 + as.length) ts) t
    fun n => { n with children := n.children ++ [⟨first⟩] }
  have hsize : laid.slots.size = first := by
    rw [size_extend, Tree.length_layout, Tree.size]
    omega
  have hnext : laid.next = ⟨first⟩ := congrArg Handle.mk hsize
  rw [adoptChild, write_eq_extend, extend_extend, hnext, hsize]
  simpa [first, Tree.layout, Tree.layoutAll_append, Tree.layoutAll, Tree.length_layoutAll,
    Tree.heads_append, Tree.heads, next, Nat.add_assoc, Nat.add_comm 1] using hadopt

/-- A tree written behind another one and adopted by it is written as its last child. -/
theorem adoptChild_write (d : Document) (t : Tree) :
    ((d.write (.node kind name value as ts)).1.write t).1.adoptChild d.next
        (d.write (.node kind name value as ts)).1.next =
      (d.write (.node kind name value as (ts ++ [t]))).1 :=
  adoptChild_extend d none t

/-- Attributes are copied to where writing puts them. -/
theorem copiesAttributes_write {labels : List (String × String)}
    (hlabels : List.Forall₂
      (fun a label => ((source.node? a).map fun m => (m.name, m.value)) = some label) ks labels)
    (as : List (String × String)) :
    CopiesAttributes source d.next (d.write (.node kind name value as [])).1 ks
      (d.write (.node kind name value (as ++ labels) [])).1 := by
  induction hlabels generalizing as with
  | nil => simpa using .nil
  | @cons a label ks labels ha _ ih =>
    obtain ⟨m, hm, rfl⟩ := Option.map_eq_some_iff.mp ha
    refine .cons hm ?_
    rw [copyAttribute_write]
    simpa using ih (as ++ [(m.name, m.value)])

/-- Children are copied to where writing puts them. -/
theorem copiesChildren_write {cs : List Handle} {us : List Tree}
    (hcs : List.Forall₂ (fun c u => ∀ e, Copies source e c (e.write u).1) cs us) (ts : List Tree) :
    CopiesChildren source d.next (d.write (.node kind name value as ts)).1 cs
      (d.write (.node kind name value as (ts ++ us))).1 := by
  induction hcs generalizing ts with
  | nil => simpa using .nil
  | @cons c u cs us hc _ ih =>
    refine .cons (hc _) ?_
    rw [adoptChild_write]
    simpa using ih (ts ++ [u])

/-- Copying node by node writes the content. -/
theorem copies_write (ht : source.contentAux fuel h = some t) (d : Document) :
    Copies source d h (d.write t).1 := by
  induction fuel generalizing h t d with
  | zero => simp [contentAux] at ht
  | succ fuel ih =>
    rw [contentAux] at ht
    simp only [Option.bind_eq_bind, Option.bind_eq_some_iff, Option.some.injEq] at ht
    obtain ⟨n, hn, as, has, ts, hts, rfl⟩ := ht
    have hpush : d.push { kind := n.kind, name := n.name, value := n.value } =
        d.write (.node n.kind n.name n.value [] []) := push_eq_write ..
    refine .node hn (hpush ▸ copiesAttributes_write (forall₂_of_mapM_eq_some has) []) ?_
    exact copiesChildren_write ((forall₂_of_mapM_eq_some hts).imp fun c u hcu e => ih hcu e) []

/-! ## Parts of a subtree -/

namespace Forest

/-- An attribute lists nothing. -/
theorem inside_of_isAttribute (hd : d.Forest) (ha : d.isAttribute a = true) : d.inside a = [] := by
  have hkind : d.kind? a = some .attribute := by simpa [isAttribute] using ha
  refine List.eq_nil_iff_forall_not_mem.mpr fun k hk => ?_
  rcases hd.kind_of_parent (hd.parent?_of_mem hk) with he | hdoc
  · rw [not_isElement_of_isAttribute ha] at he
    cases he
  · rw [hkind] at hdoc
    cases hdoc

/-- The subtree of an attribute is that attribute. -/
theorem subtree_of_isAttribute (hd : d.Forest) (ha : d.isAttribute a = true) :
    d.subtree a = [a] := by
  have hkind : d.kind? a = some .attribute := by simpa [isAttribute] using ha
  have hc : d.contains a = true := by rw [contains_eq_isSome_kind?, hkind]; rfl
  rw [hd.subtree_eq, if_pos hc, hd.inside_of_isAttribute ha]
  rfl

/-- All that is stored for an attribute of a node. -/
theorem node?_of_mem_attributes (hd : d.Forest) (ha : a ∈ d.attributes h) :
    d.node? a = some
      { kind := .attribute, name := d.name a, value := d.value a, parent := some h } := by
  have hattribute := (hd.kinds_of_attribute ha).1
  have hinside := hd.inside_of_isAttribute hattribute
  have hparent := hd.parent?_of_mem (mem_inside.mpr (Or.inl ha))
  obtain ⟨⟨kind, name, value, parent, cs, as⟩, hm⟩ :=
    contains_iff.mp (contains_of_parent? hparent)
  obtain rfl : kind = .attribute := by simpa [isAttribute, Document.kind?, hm] using hattribute
  obtain rfl : parent = some h := by simpa [parent?, hm] using hparent
  obtain ⟨rfl, rfl⟩ : as = [] ∧ cs = [] := by simpa [inside, attributes, children, hm] using hinside
  simp [Document.name, Document.value, hm]

/-- A subtree is its outermost node, the attributes of it, and the subtrees of its children. -/
theorem subtree_parts (hd : d.Forest) (hc : d.contains h = true) :
    d.subtree h = h :: (d.attributes h ++ (d.children h).flatMap d.subtree) := by
  have hattributes : (d.attributes h).flatMap d.subtree = d.attributes h := by
    rw [List.flatMap_congr fun a ha => hd.subtree_of_isAttribute (hd.kinds_of_attribute ha).1]
    exact List.flatMap_singleton' _
  rw [hd.subtree_eq, if_pos hc, inside, List.flatMap_append, hattributes]

end Forest

/-- What bears a tree lives. -/
theorem Bears.contains (hb : d.Bears fuel h t) : d.contains h = true := by
  rw [contains_eq_isSome_kind?, hb.kind?]
  rfl

mutual
/-- A subtree has as many nodes as its content. -/
theorem length_subtree (hd : d.Forest) : ∀ (t : Tree) {fuel : Nat} {h : Handle},
    d.contentAux fuel h = some t → (d.subtree h).length = t.size
  | .node kind name value as ts, fuel, h, ht => by
    obtain ⟨n, -, hb⟩ := exists_bears hd.toLinked ht
    have hlabels : (d.attributes h).length = as.length := by
      rw [show as = d.labels h from hb.labels.symm, labels, List.length_map]
    rw [hd.subtree_parts hb.contains, List.length_cons, List.length_append, hlabels,
      length_flatMap_subtree hd ts hb.children, Tree.size]
    omega
/-- The subtrees of neighbouring nodes have as many nodes as their contents. -/
theorem length_flatMap_subtree (hd : d.Forest) : ∀ (ts : List Tree) {fuel : Nat} {cs : List Handle},
    List.Forall₂ (fun c u => d.contentAux fuel c = some u) cs ts →
      (cs.flatMap d.subtree).length = Tree.sizeAll ts
  | [], _, _, hcs => by
    cases hcs
    rfl
  | t :: ts, fuel, _, hcs => by
    cases hcs with
    | cons hc hcs =>
      rw [List.flatMap_cons, List.length_append, length_subtree hd t hc,
        length_flatMap_subtree hd ts hcs, Tree.sizeAll]
end

/-! ## Renamed subtrees -/

/-- The document stores for each node of a subtree of the other one, under a new handle, what is
stored there, with its links renamed; but the outermost node has the given parent. -/
def HoldsRenamed (d source : Document) (rename : Handle → Handle) (parent : Option Handle)
    (h : Handle) : Prop :=
  ∀ k ∈ source.subtree h, d.node? (rename k) = (source.node? k).map fun n =>
    { n.renamed rename with parent := if k = h then parent else n.parent.map rename }

mutual
/-- Where the content of a subtree is stored, the subtree is, under the handles that come with
it. -/
theorem holdsRenamed_of_holds (hs : source.Tidy) : ∀ (t : Tree) {fuel : Nat} {h : Handle}
    {parent : Option Handle} {first : Nat}, source.contentAux fuel h = some t →
      d.Holds parent first t → (source.subtree h).map rename = handlesFrom first t.size →
      d.HoldsRenamed source rename parent h
  | .node kind name value as ts, fuel, h, parent, first, ht, hh, hrename => by
    obtain ⟨n, -, hb⟩ := exists_bears hs.toLinked ht
    have hc := hb.contains
    obtain ⟨m, hm⟩ := contains_iff.mp hc
    rw [Holds] at hh
    obtain ⟨hnode, hattributes, hchildren⟩ := hh
    have hlabels : (source.attributes h).map (fun a => (source.name a, source.value a)) = as :=
      hb.labels
    have hlength : (source.attributes h).length = as.length := by
      rw [← hlabels, List.length_map]
    -- the new handles of the node, of its attributes and of what is below its children
    rw [hs.toForest.subtree_parts hc, Tree.size,
      show 1 + as.length + Tree.sizeAll ts = as.length + Tree.sizeAll ts + 1 by omega,
      handlesFrom_succ, handlesFrom_add, List.map_cons, List.map_append] at hrename
    obtain ⟨hself, hinside⟩ := List.cons.inj hrename
    obtain ⟨has, hbelow⟩ := List.append_inj hinside (by
      rw [List.length_map, length_handlesFrom, hlength])
    obtain ⟨hheads, hall⟩ := holdsRenamed_of_holdsAll hs ts hb.children hchildren hbelow
    intro k hk
    rw [hs.toForest.subtree_parts hc] at hk
    rcases List.mem_cons.mp hk with rfl | hk
    · have hkind : m.kind = kind := by simpa [Document.kind?, hm, Tree.kind] using hb.kind?
      have hname : m.name = name := by simpa [Document.name, hm, Tree.name] using hb.name
      have hvalue : m.value = value := by simpa [Document.stored, hm, Tree.ownValue] using hb.stored
      rw [children, hm, Option.map_some, Option.getD_some] at hheads
      rw [attributes, hm, Option.map_some, Option.getD_some, handlesFrom_eq_map_range] at has
      rw [hself, hnode, hm, Option.map_some, if_pos rfl, Node.renamed, hkind, hname, hvalue, hheads,
        has]
    · have hne : k ≠ h := by
        rintro rfl
        have hnd := hs.consistent.nodup_subtree k
        rw [hs.toForest.subtree_parts hc] at hnd
        exact (List.nodup_cons.mp hnd).1 hk
      rcases List.mem_append.mp hk with hk | hk
      · obtain ⟨i, hi, rfl⟩ := List.mem_iff_getElem.mp hk
        have hnew : rename (source.attributes h)[i] = ⟨first + 1 + i⟩ := by
          have hget := congrArg (·[i]?) has
          simpa [handlesFrom_eq_map_range, hi, hlength ▸ hi] using hget
        have hlabel := congrArg (·[i]?) hlabels
        rw [List.getElem?_map, List.getElem?_eq_getElem hi] at hlabel
        rw [hnew, hattributes i _ hlabel.symm, hs.toForest.node?_of_mem_attributes hk,
          Option.map_some, if_neg hne, Node.renamed, Option.map_some, hself]
        rfl
      · obtain ⟨c, hmem, hkc⟩ := List.mem_flatMap.mp hk
        have hparent := hs.toForest.parent?_of_mem (mem_inside.mpr (Or.inr hmem))
        rw [hall c hmem k hkc]
        refine Option.map_congr fun n hn => ?_
        by_cases hkc : k = c
        · subst hkc
          have hup : n.parent = some h := by simpa [parent?, hn] using hparent
          rw [if_pos rfl, if_neg hne, hup, Option.map_some, hself]
        · rw [if_neg hkc, if_neg hne]
/-- Where the contents of neighbouring nodes are stored, their subtrees are. -/
theorem holdsRenamed_of_holdsAll (hs : source.Tidy) : ∀ (ts : List Tree) {fuel : Nat}
    {cs : List Handle} {parent : Option Handle} {first : Nat},
    List.Forall₂ (fun c u => source.contentAux fuel c = some u) cs ts → d.HoldsAll parent first ts →
      (cs.flatMap source.subtree).map rename = handlesFrom first (Tree.sizeAll ts) →
      cs.map rename = Tree.heads first ts ∧ ∀ c ∈ cs, d.HoldsRenamed source rename parent c
  | [], _, _, _, _, hcs, _, _ => by
    cases hcs
    exact ⟨rfl, by simp⟩
  | t :: ts, fuel, _, parent, first, hcs, hh, hrename => by
    cases hcs with
    | @cons c _ cs _ hc hcs =>
      obtain ⟨ht, hts⟩ := hh
      rw [List.flatMap_cons, List.map_append, Tree.sizeAll, handlesFrom_add] at hrename
      obtain ⟨hfirst, hrest⟩ := List.append_inj hrename (by
        rw [List.length_map, length_handlesFrom, length_subtree hs.toForest t hc])
      obtain ⟨hheads, hall⟩ := holdsRenamed_of_holdsAll hs ts hcs hts hrest
      have hhead : rename c = ⟨first⟩ := by
        obtain ⟨n, -, hb⟩ := exists_bears hs.toLinked hc
        obtain ⟨m, hm⟩ := Nat.exists_eq_succ_of_ne_zero (Nat.pos_iff_ne_zero.mp t.size_pos)
        rw [hs.toForest.subtree_parts hb.contains, hm, handlesFrom_succ, List.map_cons] at hfirst
        exact (List.cons.inj hfirst).1
      refine ⟨by rw [List.map_cons, hhead, hheads, Tree.heads], ?_⟩
      rw [List.forall_mem_cons]
      exact ⟨holdsRenamed_of_holds hs t hc ht hfirst, hall⟩
end

/-! ## Copies -/

/-- The indices of distinct members are counted up from zero. -/
theorem map_idxOf_eq_range {α : Type} [DecidableEq α] {xs : List α} (hxs : xs.Nodup) :
    xs.map xs.idxOf = List.range xs.length := by
  refine List.ext_getElem (by simp) fun i hi _ => ?_
  rw [List.getElem_map, List.getElem_range, hxs.idxOf_getElem]

/-- The handle of the copy of a node, if the subtree at `h` is copied. -/
def copyOf (d source : Document) (h k : Handle) : Handle :=
  ⟨d.slots.size + (source.subtree h).idxOf k⟩

/-- The copies of a subtree have consecutive handles, in its order. -/
theorem map_copyOf_subtree (hs : source.Consistent) (d : Document) (h : Handle) :
    (source.subtree h).map (d.copyOf source h) =
      handlesFrom d.slots.size (source.subtree h).length := by
  rw [handlesFrom_eq_map_range, ← map_idxOf_eq_range (hs.nodup_subtree h), List.map_map]
  rfl

/-- Every live node of a document that was made somehow can be copied into any such document, with
all that is below it. The copy is what copying node by node makes. It has a new handle and no
parent; its nodes have consecutive handles in preorder, from the first one on that was not given out
yet; and each of them stores what is stored for the node it is a copy of, with the links renamed.
All that was stored before is as it was. -/
theorem copyFrom_exact (hd : Made d) (hs : Made source) (hc : source.contains h = true) :
    ∃ d', d.copyFrom source h = .ok (d', d.next) ∧ (∀ e, Copies source d h e ↔ e = d') ∧
      d.contains d.next = false ∧ d'.parent? d.next = none ∧
      d'.subtree d.next = (source.subtree h).map (d.copyOf source h) ∧
      d'.subtree d.next = handlesFrom d.slots.size (source.subtree h).length ∧
      d'.slots.size = d.slots.size + (source.subtree h).length ∧
      d'.HoldsRenamed source (d.copyOf source h) none h ∧ Extends d d' := by
  -- the part of the source that is copied is as in a tidy document
  obtain ⟨n, e, he, hr, hn⟩ := hs.grown.exists_region hc
  have hce : e.contains h = true := by rw [contains, ← hr.node? h hn]; exact hc
  obtain ⟨t, ht⟩ := he.toForest.exists_content hce
  have hcopy : d.copyFrom source h = .ok (d.write t) := by
    rw [copyFrom, hr.content? hn, ht]
  have hmade : Made (d.write t).1 := by
    have happly : Made ((Operation.copyFrom source h).apply d) :=
      .apply hd fun e he => Option.some.inj he ▸ hs
    rw [Operation.apply, hcopy] at happly
    exact happly
  have hholds := holds_write d t
  have hcopies := copies_write (hr.content? hn ▸ ht) d
  have hlength : (source.subtree h).length = t.size := by
    rw [hr.subtree hn, length_subtree he.toForest t ht]
  have hmap := map_copyOf_subtree hs.consistent d h
  have hsubtree : (d.write t).1.subtree d.next = handlesFrom d.slots.size t.size :=
    ((preorderOf_of_holds t hholds).eq_subtree hmade.consistent).symm
  refine ⟨(d.write t).1, hcopy, fun e => ⟨fun hc => hc.unique hcopies, fun he => he ▸ hcopies⟩, ?_,
    (parent?_write d t).1, by rw [hsubtree, hmap, hlength], by rw [hsubtree, hlength],
    by rw [size_write, hlength], ?_, extends_write d t⟩
  · rw [contains, node?_next]
    rfl
  · rw [hr.subtree hn] at hmap
    have hrenamed := holdsRenamed_of_holds he t ht hholds
      (hmap.trans (by rw [length_subtree he.toForest t ht]))
    intro k hk
    rw [hr.subtree hn] at hk
    rw [hr.node? k (hr.subtree_le hn hk)]
    exact hrenamed k hk

/-- A garden into which the tree is copied. -/
def garden : Document :=
  Operation.run empty [.createElement "garden", .append top ⟨1⟩, .createText "wild", .discard ⟨2⟩]

/-- A tree is copied from the orchard into the garden. -/
theorem copyFrom_garden : Made garden ∧ Made orchard ∧ orchard.contains ⟨2⟩ = true ∧
    ∃ d', garden.copyFrom orchard ⟨2⟩ = .ok (d', ⟨3⟩) ∧ Copies orchard garden ⟨2⟩ d' ∧
      d'.subtree ⟨3⟩ = [⟨3⟩, ⟨4⟩, ⟨5⟩, ⟨6⟩, ⟨7⟩, ⟨8⟩] ∧
      d'.node? ⟨6⟩ = some
        { kind := .element, name := "branch", parent := some ⟨3⟩, attributes := [⟨7⟩] } ∧
      d'.node? ⟨1⟩ = garden.node? ⟨1⟩ := by
  have hgarden : Made garden := .run .empty (by simp [Operation.source?])
  have hlive : orchard.contains ⟨2⟩ = true := by decide
  obtain ⟨d', hcopy, hsteps, -, -, hsubtree, -, -, hrenamed, hext⟩ :=
    copyFrom_exact hgarden made_orchard hlive
  have hbranch := hrenamed ⟨5⟩ (by decide)
  exact ⟨hgarden, made_orchard, hlive, d', hcopy, (hsteps d').mpr rfl, hsubtree,
    hbranch.trans (by decide), hext.node? ⟨1⟩ (by decide)⟩

end Document

end GuidedXml
