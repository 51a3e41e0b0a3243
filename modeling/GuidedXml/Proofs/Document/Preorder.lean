/-
# Preorder

The nodes at and below a node in preorder: the node itself, then what is at and below its
attributes, then what is at and below its children.

A walk downwards need not follow the links by recursion. One that keeps the nodes still to visit on
a stack lists the same nodes in the same order if it puts attributes and children there first to
last; and a sweep that empties the slot of each node it takes off the stack may put them there in
any order.

The main statement says that the subtree of a node is listed in preorder, each node below it once,
and that discarding it removes just these nodes.
-/
import GuidedXml.Proofs.Document.Arena

namespace GuidedXml.Document

variable {d d' e e' : Document} {h k p c : Handle} {hs ks ls stack : List Handle}

/-! ## Subtrees of consistent documents -/

namespace Consistent

/-- No node of a consistent document is inside of itself. -/
theorem acyclic (hd : d.Consistent) : d.Acyclic := by
  refine ⟨fun h => (d.ancestors h).length, ?_⟩
  intro k p hp
  simp only [hd.ancestors k, hp, List.length_cons]
  omega

/-- What is inside of a node has it as its parent. -/
theorem parent?_of_mem (hd : d.Consistent) (hk : k ∈ d.inside h) : d.parent? k = some h := by
  rcases mem_inside.mp hk with hk | hk
  · exact (hd.attributes hk).2.1
  · exact (hd.children hk).2

/-- Nothing is inside of a node twice. -/
theorem nodup_inside (hd : d.Consistent) (h : Handle) : (d.inside h).Nodup := by
  have hone : ∀ {k}, k ∈ d.inside h → (d.inside h).count k = 1 := by
    intro k hk
    have hlisted := (hd.listed (hd.parent?_of_mem hk)).2
    rw [inside, List.count_append]
    split at hlisted
    · rw [hlisted.1, List.count_eq_zero.mpr hlisted.2]
    · rw [hlisted.1, List.count_eq_zero.mpr hlisted.2]
  exact List.nodup_iff_count_eq_one.mpr fun k hk => hone hk

/-- What is in the subtree of a node is within it. -/
theorem within_of_mem_subtree (hd : d.Consistent) (hk : k ∈ d.subtree h) : d.Within h k := by
  induction h using hd.downwards.induction with
  | _ h ih =>
    rw [hd.subtree h] at hk
    cases hc : d.contains h with
    | false =>
      rw [hc] at hk
      cases hk
    | true =>
      rw [hc, if_pos rfl] at hk
      rcases List.mem_cons.mp hk with rfl | hk
      · exact .self hc
      · obtain ⟨c, hmem, hck⟩ := List.mem_flatMap.mp hk
        have hbelow : d.Within h c := (Within.self hc).step (hd.parent?_of_mem hmem)
        exact hbelow.trans (ih c (mem_inside.mp hmem) hck)

/-- The walk of a subtree visits no node twice. -/
theorem nodup_subtree (hd : d.Consistent) (h : Handle) : (d.subtree h).Nodup := by
  induction h using hd.downwards.induction with
  | _ h ih =>
    rw [hd.subtree h]
    split
    · rw [List.nodup_cons, List.nodup_flatMap]
      refine ⟨?_, fun c hc => ih c (mem_inside.mp hc), ?_⟩
      · intro hmem
        obtain ⟨c, hc, hh⟩ := List.mem_flatMap.mp hmem
        exact Within.not_within_parent hd.acyclic (hd.parent?_of_mem hc)
          (hd.within_of_mem_subtree hh)
      · -- siblings have no node below them in common
        refine (hd.nodup_inside h).imp_of_mem ?_
        intro a b ha hb hne k hka hkb
        exact hne (Within.eq_of_siblings hd.acyclic (hd.parent?_of_mem ha) (hd.parent?_of_mem hb)
          (hd.within_of_mem_subtree hka) (hd.within_of_mem_subtree hkb))
    · exact List.nodup_nil

/-- What is inside of a node lives. -/
theorem contains_of_mem (hd : d.Consistent) (hk : k ∈ d.inside h) : d.contains k = true :=
  contains_of_parent? (hd.parent?_of_mem hk)

/-- A node that lives is in its own subtree. -/
theorem mem_subtree_self (hd : d.Consistent) (hc : d.contains h = true) : h ∈ d.subtree h := by
  rw [hd.subtree h, if_pos hc]
  exact List.mem_cons_self

/-- What a node of a subtree lists is in the subtree. -/
theorem mem_subtree_of_mem_inside (hd : d.Consistent) (hp : p ∈ d.subtree h)
    (hk : k ∈ d.inside p) : k ∈ d.subtree h := by
  induction h using hd.downwards.induction with
  | _ h ih =>
    rw [hd.subtree h] at hp ⊢
    split_ifs at hp ⊢
    · rcases List.mem_cons.mp hp with rfl | hp
      · exact List.mem_cons_of_mem _
          (List.mem_flatMap.mpr ⟨k, hk, hd.mem_subtree_self (hd.contains_of_mem hk)⟩)
      · obtain ⟨c, hc, hpc⟩ := List.mem_flatMap.mp hp
        exact List.mem_cons_of_mem _ (List.mem_flatMap.mpr ⟨c, hc, ih c (mem_inside.mp hc) hpc⟩)
    · cases hp

/-- A node is inside of its parent. -/
theorem mem_inside_of_parent? (hd : d.Consistent) (hp : d.parent? k = some p) :
    k ∈ d.inside p := by
  have hone := (hd.listed hp).2
  split at hone
  · exact mem_inside.mpr (Or.inl (List.count_pos_iff.mp (by omega)))
  · exact mem_inside.mpr (Or.inr (List.count_pos_iff.mp (by omega)))

/-- The subtree lists exactly the nodes at and below a node. -/
theorem mem_subtree_iff (hd : d.Consistent) : k ∈ d.subtree h ↔ d.Within h k := by
  constructor
  · exact hd.within_of_mem_subtree
  · intro hw
    induction hw with
    | self hc => exact hd.mem_subtree_self hc
    | step _ hp ih => exact hd.mem_subtree_of_mem_inside ih (hd.mem_inside_of_parent? hp)

end Consistent

/-! ## Preorder -/

/-- The second list is the nodes at and below the nodes of the first one, which are live, in
preorder: each node, then those at and below its attributes, then those at and below its
children. -/
inductive PreorderOf (d : Document) : List Handle → List Handle → Prop
  | nil : PreorderOf d [] []
  | cons {h : Handle} {hs as cs ks : List Handle} : d.contains h = true →
      PreorderOf d (d.attributes h) as → PreorderOf d (d.children h) cs → PreorderOf d hs ks →
      PreorderOf d (h :: hs) (h :: (as ++ cs) ++ ks)

namespace PreorderOf

/-- Preorders of two lists of nodes are one of both together. -/
theorem append {hs' ks' : List Handle} (hp : d.PreorderOf hs ks) (hp' : d.PreorderOf hs' ks') :
    d.PreorderOf (hs ++ hs') (ks ++ ks') := by
  induction hp with
  | nil => exact hp'
  | cons hc has hcs _ _ _ ih =>
    rw [List.append_assoc]
    exact .cons hc has hcs ih

/-- There is one preorder only, that of the walk of a subtree. -/
theorem eq_flatMap_subtree (hd : d.Consistent) (hp : d.PreorderOf hs ks) :
    ks = hs.flatMap d.subtree := by
  induction hp with
  | nil => rfl
  | @cons h hs as cs ks hc _ _ _ ihas ihcs ih =>
    rw [List.flatMap_cons, hd.subtree h, if_pos hc, List.flatMap_append, ← ihas, ← ihcs, ← ih]

/-- The subtree of a node is its only preorder. -/
theorem eq_subtree (hd : d.Consistent) (hp : d.PreorderOf [h] ks) : ks = d.subtree h := by
  rw [hp.eq_flatMap_subtree hd, List.flatMap_singleton]

end PreorderOf

/-- The walk of a subtree lists it in preorder. -/
theorem Consistent.preorder_subtree (hd : d.Consistent) (hc : d.contains h = true) :
    d.PreorderOf [h] (d.subtree h) := by
  induction h using hd.downwards.induction with
  | _ h ih =>
    have hlist : ∀ hs : List Handle, (∀ c ∈ hs, c ∈ d.inside h) →
        d.PreorderOf hs (hs.flatMap d.subtree) := by
      intro hs hin
      induction hs with
      | nil => exact .nil
      | cons c hs ihs =>
        obtain ⟨hc, hs'⟩ := List.forall_mem_cons.mp hin
        exact (ih c (mem_inside.mp hc) (hd.contains_of_mem hc)).append (ihs hs')
    have hattributes := hlist (d.attributes h) fun c hc => mem_inside.mpr (Or.inl hc)
    have hchildren := hlist (d.children h) fun c hc => mem_inside.mpr (Or.inr hc)
    rw [hd.subtree h, if_pos hc, List.flatMap_append]
    simpa using PreorderOf.cons hc hattributes hchildren .nil

/-- Nodes without attributes and children are their own preorder. -/
theorem preorderOf_self (hleaf : ∀ k ∈ ks, d.contains k = true ∧ d.inside k = []) :
    d.PreorderOf ks ks := by
  induction ks with
  | nil => exact .nil
  | cons k ks ih =>
    obtain ⟨⟨hc, hnone⟩, hks⟩ := List.forall_mem_cons.mp hleaf
    obtain ⟨hattributes, hchildren⟩ := List.append_eq_nil_iff.mp hnone
    change d.PreorderOf (k :: ks) (k :: ([] ++ []) ++ ks)
    refine .cons hc ?_ ?_ (ih hks)
    · rw [hattributes]
      exact .nil
    · rw [hchildren]
      exact .nil

/-! ## Consecutive handles -/

/-- Consecutive handles, `n` of them, from the number `first` on. -/
def handlesFrom (first n : Nat) : List Handle :=
  (List.range' first n).map Handle.mk

@[simp] theorem length_handlesFrom (first n : Nat) : (handlesFrom first n).length = n := by
  simp [handlesFrom]

/-- Consecutive handles are some of them and then those that follow. -/
theorem handlesFrom_add (first m n : Nat) :
    handlesFrom first (m + n) = handlesFrom first m ++ handlesFrom (first + m) n := by
  rw [handlesFrom, ← List.range'_append_1, List.map_append]
  rfl

/-- Consecutive handles begin with the first one. -/
theorem handlesFrom_succ (first n : Nat) :
    handlesFrom first (n + 1) = ⟨first⟩ :: handlesFrom (first + 1) n := by
  rw [handlesFrom, List.range'_succ, List.map_cons]
  rfl

/-- Consecutive handles are those between their bounds. -/
theorem mem_handlesFrom {first n : Nat} :
    k ∈ handlesFrom first n ↔ first ≤ k.index ∧ k.index < first + n := by
  simp only [handlesFrom, List.mem_map, List.mem_range'_1]
  constructor
  · rintro ⟨i, hi, rfl⟩
    exact hi
  · exact fun hk => ⟨k.index, hk, rfl⟩

/-- Consecutive handles are counted up from the first one. -/
theorem handlesFrom_eq_map_range (first n : Nat) :
    handlesFrom first n = (List.range n).map fun i => ⟨first + i⟩ := by
  rw [handlesFrom, List.range'_eq_map_range, List.map_map]
  rfl

mutual
/-- A stored content is numbered in preorder. -/
theorem preorderOf_of_holds : ∀ (t : Tree) {parent : Option Handle} {first : Nat},
    d.Holds parent first t → d.PreorderOf [⟨first⟩] (handlesFrom first t.size)
  | .node kind name value as ts, parent, first, hs => by
    rw [Holds] at hs
    obtain ⟨hnode, hattributes, hchildren⟩ := hs
    have hleaf : ∀ k ∈ handlesFrom (first + 1) as.length,
        d.contains k = true ∧ d.inside k = [] := by
      intro k hk
      rw [handlesFrom_eq_map_range] at hk
      obtain ⟨i, hi, rfl⟩ := List.mem_map.mp hk
      have hn := hattributes i _ (List.getElem?_eq_getElem (List.mem_range.mp hi))
      exact ⟨contains_iff.mpr ⟨_, hn⟩, by simp [inside, attributes, children, hn]⟩
    have has : d.PreorderOf (d.attributes ⟨first⟩) (handlesFrom (first + 1) as.length) := by
      rw [show d.attributes ⟨first⟩ = handlesFrom (first + 1) as.length by
        simp [handlesFrom_eq_map_range, attributes, hnode]]
      exact preorderOf_self hleaf
    have hts : d.PreorderOf (d.children ⟨first⟩)
        (handlesFrom (first + 1 + as.length) (Tree.sizeAll ts)) := by
      rw [show d.children ⟨first⟩ = Tree.heads (first + 1 + as.length) ts by simp [children, hnode]]
      exact preorderOf_of_holdsAll ts hchildren
    have hpreorder := PreorderOf.cons (contains_iff.mpr ⟨_, hnode⟩) has hts .nil
    rw [← handlesFrom_add, List.append_nil, ← handlesFrom_succ] at hpreorder
    rwa [Tree.size, show 1 + as.length + Tree.sizeAll ts = as.length + Tree.sizeAll ts + 1 by omega]
/-- Stored contents are numbered in preorder, one after the other. -/
theorem preorderOf_of_holdsAll : ∀ (ts : List Tree) {parent : Option Handle} {first : Nat},
    d.HoldsAll parent first ts →
      d.PreorderOf (Tree.heads first ts) (handlesFrom first (Tree.sizeAll ts))
  | [], _, _, _ => .nil
  | t :: ts, parent, first, hs => by
    obtain ⟨ht, hts⟩ := hs
    rw [Tree.sizeAll, handlesFrom_add]
    exact (preorderOf_of_holds t ht).append (preorderOf_of_holdsAll ts hts)
end

/-! ## Walks and sweeps with a stack -/

/-- What a walk lists that begins with a stack of nodes to visit, the next one first. A node that is
dead is passed over; otherwise it is listed, and its attributes and children come before what else
is on the stack. -/
inductive Lists (d : Document) : List Handle → List Handle → Prop
  | done : Lists d [] []
  | pass {h : Handle} {stack ks : List Handle} : d.contains h = false → Lists d stack ks →
      Lists d (h :: stack) ks
  | visit {h : Handle} {stack ks : List Handle} : d.contains h = true →
      Lists d (d.attributes h ++ (d.children h ++ stack)) ks → Lists d (h :: stack) (h :: ks)

/-- What a sweep leaves of a document that begins with a stack of nodes to remove, the next one
first. A node that is dead already is passed over; otherwise its slot is emptied, and its attributes
and children, each last first, come before what else is on the stack. -/
inductive Sweeps : Document → List Handle → Document → Prop
  | done {d : Document} : Sweeps d [] d
  | pass {d d' : Document} {h : Handle} {stack : List Handle} : d.contains h = false →
      Sweeps d stack d' → Sweeps d (h :: stack) d'
  | visit {d d' : Document} {h : Handle} {stack : List Handle} : d.contains h = true →
      Sweeps (d.drop h) ((d.attributes h).reverse ++ ((d.children h).reverse ++ stack)) d' →
      Sweeps d (h :: stack) d'

/-- A walk with a stack lists one thing only. -/
theorem Lists.unique (hk : d.Lists stack ks) (hl : d.Lists stack ls) : ks = ls := by
  induction hk generalizing ls with
  | done => cases hl; rfl
  | pass hc _ ih =>
    cases hl with
    | pass _ hl => exact ih hl
    | visit hc' => rw [hc] at hc'; cases hc'
  | visit hc _ ih =>
    cases hl with
    | pass hc' => rw [hc] at hc'; cases hc'
    | visit _ hl => rw [ih hl]

/-- A sweep has one outcome at most. -/
theorem Sweeps.unique (hs : Sweeps d stack e) (hs' : Sweeps d stack e') : e = e' := by
  induction hs with
  | done => cases hs'; rfl
  | pass hc _ ih =>
    cases hs' with
    | pass _ hs' => exact ih hs'
    | visit hc' => rw [hc] at hc'; cases hc'
  | visit hc _ ih =>
    cases hs' with
    | pass hc' => rw [hc] at hc'; cases hc'
    | visit _ hs' => exact ih hs'

/-- A walk with a stack lists in preorder what is at and below the nodes on it. -/
theorem PreorderOf.lists (hp : d.PreorderOf hs ks) (hrest : d.Lists stack ls) :
    d.Lists (hs ++ stack) (ks ++ ls) := by
  induction hp generalizing stack ls with
  | nil => exact hrest
  | cons hc _ _ _ ihas ihcs ih =>
    have hinside := ihas (ihcs (ih hrest))
    simpa only [List.cons_append, List.append_assoc] using Lists.visit hc hinside

/-- Documents with as many slots and the same nodes are the same. -/
theorem eq_of_node?_eq (hs : d'.slots.size = d.slots.size) (hn : ∀ k, d'.node? k = d.node? k) :
    d' = d := by
  have hslots : d'.slots = d.slots := by
    refine Array.ext hs fun i hi hi' => ?_
    simpa [node?, hi, hi'] using hn ⟨i⟩
  cases d
  cases d'
  exact congrArg mk hslots

/-- It does not matter in which order nodes are removed. -/
theorem foldl_drop_congr {ks' : List Handle} (hk : ∀ k, k ∈ ks ↔ k ∈ ks') :
    ks.foldl drop d = ks'.foldl drop d := by
  refine eq_of_node?_eq (by rw [size_foldl_drop, size_foldl_drop]) fun k => ?_
  rw [node?_foldl_drop, node?_foldl_drop]
  simp only [hk]

/-- A sweep removes what is at and below the nodes on its stack, if the nodes that are gone already
are others. -/
theorem PreorderOf.sweeps {gone : List Handle} (hp : d.PreorderOf hs ks) (hnd : (gone ++ ks).Nodup)
    (hrest : Sweeps ((gone ++ ks).foldl drop d) stack d') :
    Sweeps (gone.foldl drop d) (hs.reverse ++ stack) d' := by
  induction hp generalizing gone stack d' with
  | nil => simpa using hrest
  | @cons h hs as cs ks hc _ _ _ ihas ihcs ih =>
    -- the sweep takes the last node off first, so the nodes go in the order `ks`, `h`, `as`, `cs`
    have hperm : (gone ++ ks ++ [h] ++ as ++ cs).Perm (gone ++ (h :: (as ++ cs) ++ ks)) := by
      refine List.perm_iff_count.mpr fun k => ?_
      simp only [List.count_append, List.count_cons, List.count_nil]
      omega
    have hcs : (gone ++ ks ++ [h] ++ as ++ cs).Nodup := hperm.nodup_iff.mpr hnd
    have has : (gone ++ ks ++ [h] ++ as).Nodup := hcs.of_append_left
    have hh : (gone ++ ks ++ [h]).Nodup := has.of_append_left
    have hleft : ((gone ++ ks).foldl drop d).node? h = d.node? h := by
      have hout : h ∉ gone ++ ks := fun hm =>
        (List.nodup_append.mp hh).2.2 h hm h List.mem_cons_self rfl
      rw [node?_foldl_drop, if_neg hout]
    have hlookups := lookups_congr hleft
    rw [List.reverse_cons, List.append_assoc, List.singleton_append]
    refine ih hh.of_append_left (.visit (contains_congr hlookups.1 ▸ hc) ?_)
    rw [hlookups.2.2.2.1, hlookups.2.2.2.2]
    have hdrop : ((gone ++ ks).foldl drop d).drop h = (gone ++ ks ++ [h]).foldl drop d := by
      simp only [List.foldl_append, List.foldl_cons, List.foldl_nil]
    rw [hdrop]
    refine ihas has (ihcs hcs ?_)
    rwa [foldl_drop_congr fun k => hperm.mem_iff]

/-- However a document was made, the subtree of a live node is listed in preorder, also by a walk
with a stack, and each node at or below the node once. If the node belongs to no parent, discarding
it, also by a sweep with a stack, removes exactly the nodes of its subtree and leaves all that is
stored for other nodes as it was. -/
theorem subtree_exact (hd : Made d) (hc : d.contains h = true) :
    (∀ ks, d.PreorderOf [h] ks ↔ ks = d.subtree h) ∧ (∀ ks, d.Lists [h] ks ↔ ks = d.subtree h) ∧
      (d.subtree h).Nodup ∧ (∀ k, k ∈ d.subtree h ↔ d.Within h k) ∧
      (d.parent? h = none → ∃ d', d.discard h = .ok d' ∧ (∀ e, Sweeps d [h] e ↔ e = d') ∧
        d'.slots.size = d.slots.size ∧
        ∀ k, d'.node? k = if k ∈ d.subtree h then none else d.node? k) := by
  have hcons := hd.consistent
  have hpreorder := hcons.preorder_subtree hc
  have hnd := hcons.nodup_subtree h
  have hlists : d.Lists [h] (d.subtree h) := by simpa using hpreorder.lists .done
  refine ⟨fun ks => ⟨fun hp => hp.eq_subtree hcons, fun he => he ▸ hpreorder⟩,
    fun ks => ⟨fun hl => hl.unique hlists, fun he => he ▸ hlists⟩, hnd,
    fun k => hcons.mem_subtree_iff, fun hp => ?_⟩
  obtain ⟨n, hn⟩ := contains_iff.mp hc
  have hpar : n.parent = none := by simpa [parent?, hn] using hp
  have hsweep : Sweeps (([] : List Handle).foldl drop d) ([h].reverse ++ [])
      (([] ++ d.subtree h).foldl drop d) := hpreorder.sweeps hnd .done
  exact ⟨(d.subtree h).foldl drop d, by simp [discard, hn, hpar],
    fun e => ⟨fun hs => hs.unique hsweep, fun he => he ▸ hsweep⟩, size_foldl_drop _ _,
    node?_foldl_drop _ _⟩

/-- An orchard beside a tree that was taken out of it, with attributes, a branch and a text. -/
def orchard : Document :=
  Operation.run empty [.createElement "orchard", .append top ⟨1⟩, .createElement "tree",
    .createText "ripe", .append ⟨2⟩ ⟨3⟩, .setAttribute ⟨2⟩ "age" "9", .createElement "branch",
    .insertAfter ⟨2⟩ none ⟨5⟩, .setAttribute ⟨5⟩ "side" "south", .setAttribute ⟨2⟩ "fruit" "pear",
    .append ⟨1⟩ ⟨2⟩, .detach ⟨2⟩]

/-- The orchard is made by operations. -/
theorem made_orchard : Made orchard :=
  .run .empty (by simp [Operation.source?])

/-- In the orchard a detached tree is listed in preorder and discarded as a whole. -/
theorem subtree_orchard : Made orchard ∧ orchard.contains ⟨2⟩ = true ∧ orchard.parent? ⟨2⟩ = none ∧
    orchard.PreorderOf [⟨2⟩] [⟨2⟩, ⟨4⟩, ⟨7⟩, ⟨5⟩, ⟨6⟩, ⟨3⟩] ∧
    ∃ d', orchard.discard ⟨2⟩ = .ok d' ∧ Sweeps orchard [⟨2⟩] d' ∧ d'.slots.size = 8 ∧
      ∀ k, d'.node? k = if k ∈ orchard.subtree ⟨2⟩ then none else orchard.node? k := by
  obtain ⟨hpreorder, -, -, -, hdiscard⟩ := subtree_exact made_orchard (h := ⟨2⟩) (by decide)
  obtain ⟨d', hd', hsweep, hrest⟩ := hdiscard (by decide)
  exact ⟨made_orchard, by decide, by decide, (hpreorder _).mpr rfl, d', hd', (hsweep d').mpr rfl,
    hrest⟩

end GuidedXml.Document
