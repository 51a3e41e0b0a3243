/-
# Contents of stored subtrees

Reading the content of a node off a document undoes the laying out of a content, and it says of the
node what the document says.

The main statements say that the document of an element has that element as its outermost one, that
contents read off a document are proper, and that every node of a forest has one.
-/
import GuidedXml.Proofs.Document.Growth

namespace GuidedXml.Document

theorem mapM_range_eq_some {β : Type} {bs : List β} {f : Nat → Option β}
    (hf : ∀ (i : Nat) (b : β), bs[i]? = some b → f i = some b) :
    (List.range bs.length).mapM f = some bs := by
  induction bs generalizing f with
  | nil => rfl
  | cons b bs ih =>
    have hrest : (List.range bs.length).mapM (f ∘ Nat.succ) = some bs :=
      ih fun i c hc => hf (i + 1) c (by simpa using hc)
    rw [List.length_cons, List.range_succ_eq_map, List.mapM_cons, hf 0 b rfl, List.mapM_map, hrest]
    rfl

variable {d : Document}

mutual
/-- The content of a node is the content that is stored there. -/
theorem contentAux_of_holds : ∀ (t : Tree) {parent : Option Handle} {first fuel : Nat},
    d.Holds parent first t → t.size ≤ fuel → d.contentAux fuel ⟨first⟩ = some t
  | .node kind name value as ts, parent, first, fuel, hs, hf => by
    rw [Holds] at hs
    obtain ⟨hnode, hattributes, hchildren⟩ := hs
    rw [Tree.size] at hf
    obtain ⟨n, rfl⟩ : ∃ n, fuel = n + 1 := ⟨fuel - 1, by omega⟩
    have has : ((List.range as.length).map fun i => (⟨first + 1 + i⟩ : Handle)).mapM
        (fun a => (d.node? a).map fun m => (m.name, m.value)) = some as := by
      rw [List.mapM_map]
      refine mapM_range_eq_some fun i a ha => ?_
      rw [Function.comp_apply, hattributes i a ha]
      rfl
    have hts : (Tree.heads (first + 1 + as.length) ts).mapM (d.contentAux n) = some ts :=
      mapM_contentAux_of_holdsAll ts hchildren (by omega)
    rw [contentAux, hnode]
    simp only [Option.bind_eq_bind, Option.bind_some, has, hts]
/-- The contents of neighbouring nodes are the contents that are stored there. -/
theorem mapM_contentAux_of_holdsAll : ∀ (ts : List Tree) {parent : Option Handle}
    {first fuel : Nat}, d.HoldsAll parent first ts → Tree.sizeAll ts ≤ fuel →
      (Tree.heads first ts).mapM (d.contentAux fuel) = some ts
  | [], _, _, _, _, _ => rfl
  | t :: ts, parent, first, fuel, hs, hf => by
    obtain ⟨ht, hts⟩ := hs
    rw [Tree.sizeAll] at hf
    rw [Tree.heads, List.mapM_cons, contentAux_of_holds t ht (by omega),
      mapM_contentAux_of_holdsAll ts hts (by omega)]
    rfl
end

/-- The document of an element has that element as its outermost one. -/
theorem content?_root?_ofTree {root : Tree} (hk : root.kind = .element) :
    (ofTree root).root? = some ⟨1⟩ ∧ (ofTree root).content? ⟨1⟩ = some root := by
  obtain ⟨htop, helement⟩ := inside_top_ofTree hk
  obtain ⟨-, -, hroot, -⟩ := holds_ofTree root
  refine ⟨?_, contentAux_of_holds root hroot ?_⟩
  · have hchildren : (ofTree root).children top = [⟨1⟩] := by
      have hattributes : (ofTree root).attributes top = [] := by
        have := (holds_ofTree root).1
        simp [attributes, show top = ⟨0⟩ from rfl, this]
      rwa [inside, hattributes, List.nil_append] at htop
    simp [root?, elements, hchildren, helement]
  · rw [size_ofTree]
    exact Nat.le_succ _

/-! ## What a content says of a node -/

section Lists

variable {α β : Type} {xs : List α} {ys : List β}

theorem forall₂_of_mapM_eq_some {f : α → Option β} (hm : xs.mapM f = some ys) :
    List.Forall₂ (fun x y => f x = some y) xs ys := by
  induction xs generalizing ys with
  | nil =>
    rw [List.mapM_nil] at hm
    obtain rfl : [] = ys := Option.some.inj hm
    exact .nil
  | cons x xs ih =>
    rw [List.mapM_cons] at hm
    simp only [Option.pure_def, Option.bind_eq_bind, Option.bind_eq_some_iff, Option.some.injEq]
      at hm
    obtain ⟨y, hy, ys, hys, rfl⟩ := hm
    exact .cons hy (ih hys)

theorem exists_mapM_eq_some {f : α → Option β} (hf : ∀ x ∈ xs, ∃ y, f x = some y) :
    ∃ ys, xs.mapM f = some ys := by
  induction xs with
  | nil => exact ⟨[], rfl⟩
  | cons x xs ih =>
    obtain ⟨y, hy⟩ := hf x (List.mem_cons_self ..)
    obtain ⟨ys, hys⟩ := ih fun z hz => hf z (List.mem_cons_of_mem _ hz)
    exact ⟨y :: ys, by rw [List.mapM_cons, hy, hys]; rfl⟩

end Lists

variable {h : Handle} {t : Tree} {fuel n : Nat}

/-- The names and values of the attributes of a node, in their order. -/
def labels (d : Document) (h : Handle) : List (String × String) :=
  (d.attributes h).map fun a => (d.name a, d.value a)

/-- The content of a node, whose children have contents that are at most `fuel` levels deep. -/
structure Bears (d : Document) (fuel : Nat) (h : Handle) (t : Tree) : Prop where
  kind? : d.kind? h = some t.kind
  name : d.name h = t.name
  stored : d.stored h = some t.ownValue
  labels : d.labels h = t.attributes
  children : List.Forall₂ (fun c u => d.contentAux fuel c = some u) (d.children h) t.children

/-- A content is read off node by node. -/
theorem exists_bears (hd : d.Linked) (ht : d.contentAux fuel h = some t) :
    ∃ n, fuel = n + 1 ∧ d.Bears n h t := by
  cases fuel with
  | zero => simp [contentAux] at ht
  | succ n =>
    rw [contentAux] at ht
    simp only [Option.bind_eq_bind, Option.bind_eq_some_iff, Option.some.injEq] at ht
    obtain ⟨m, hm, as, has, ts, hts, rfl⟩ := ht
    have hattributes : d.attributes h = m.attributes := by simp [attributes, hm]
    have hchildren : d.children h = m.children := by simp [children, hm]
    refine ⟨n, rfl, by simp [Document.kind?, hm, Tree.kind], by simp [Document.name, hm, Tree.name],
      by simp [Document.stored, hm, Tree.ownValue], ?_, ?_⟩
    · -- what is stored for an attribute is what it shows
      have hshown : ∀ a ∈ m.attributes, (d.node? a).map (fun m => (m.name, m.value)) =
          pure (d.name a, d.value a) := by
        intro a ha
        rw [← hattributes] at ha
        have hat := (hd.kinds_of_attribute ha).1
        obtain ⟨m', hm'⟩ := Option.isSome_iff_exists.mp
          (hd.contains_of_mem (mem_inside.mpr (Or.inl ha)))
        have hkind : m'.kind = .attribute := by simpa [isAttribute, Document.kind?, hm'] using hat
        simp [Document.name, Document.value, hm', hkind]
      rw [mapM_congr hshown, List.mapM_pure] at has
      rw [Document.labels, hattributes]
      exact Option.some.inj has
    · rw [hchildren]
      exact forall₂_of_mapM_eq_some hts

theorem Bears.isText (hb : d.Bears n h t) : d.isText h = decide (t.kind = .text) := by
  rw [Document.isText, hb.kind?]
  exact decide_eq_decide.mpr ⟨Option.some.inj, congrArg some⟩

theorem Bears.isElement (hb : d.Bears n h t) : d.isElement h = decide (t.kind = .element) := by
  rw [Document.isElement, hb.kind?]
  exact decide_eq_decide.mpr ⟨Option.some.inj, congrArg some⟩

/-- Whatever is inside a content is the content of a child. -/
theorem Bears.exists_child (hb : d.Bears n h t) {u : Tree} (hu : u ∈ t.children) :
    ∃ c ∈ d.children h, d.contentAux n c = some u := by
  obtain ⟨i, hi, rfl⟩ := List.mem_iff_getElem.mp hu
  have hlt := hb.children.length_eq.symm ▸ hi
  exact ⟨(d.children h)[i], List.getElem_mem hlt, hb.children.get hlt hi⟩

/-- Contents read off a linked document are proper. -/
theorem proper_of_contentAux (hd : d.Linked) (ht : d.contentAux fuel h = some t) :
    t.Proper ∧ d.kind? h = some t.kind := by
  induction fuel generalizing h t with
  | zero => simp [contentAux] at ht
  | succ n ih =>
    obtain ⟨m, hm, hb⟩ := exists_bears hd ht
    obtain rfl := Nat.succ.inj hm
    obtain ⟨kind, name, value, as, ts⟩ := t
    have hkind : d.kind? h = some kind := hb.kind?
    refine ⟨.node (fun hne => ?_) (fun hne => ?_) (fun u hu => ?_) fun u hu => ?_, hkind⟩
    · rw [show as = d.labels h from hb.labels.symm, labels, ne_eq, List.map_eq_nil_iff] at hne
      obtain ⟨a, ha⟩ := List.exists_mem_of_ne_nil _ hne
      simpa [isElement, hkind] using (hd.kinds_of_attribute ha).2
    · obtain ⟨u, hu⟩ := List.exists_mem_of_ne_nil _ hne
      obtain ⟨c, hc, -⟩ := hb.exists_child hu
      simpa [isElement, hkind] using (hd.kinds_of_child hc).2
    · obtain ⟨c, hc, hcu⟩ := hb.exists_child hu
      simpa [isElement, isText, (ih hcu).2] using (hd.kinds_of_child hc).1
    · obtain ⟨c, -, hcu⟩ := hb.exists_child hu
      exact (ih hcu).1

/-- A node of a forest has a content. -/
theorem Forest.exists_content (hd : d.Forest) (hc : d.contains h = true) :
    ∃ t, d.content? h = some t := by
  obtain ⟨height, hlt, hsize⟩ := hd.exists_height
  suffices hall : ∀ fuel h, d.contains h = true → height h < fuel →
      ∃ t, d.contentAux fuel h = some t from hall _ h hc (hsize h hc)
  intro fuel
  induction fuel with
  | zero => exact fun h _ hh => absurd hh (Nat.not_lt_zero _)
  | succ n ih =>
    intro h hc hh
    obtain ⟨m, hm⟩ := Option.isSome_iff_exists.mp hc
    have hattributes : d.attributes h = m.attributes := by simp [attributes, hm]
    have hchildren : d.children h = m.children := by simp [children, hm]
    have hin : ∀ k, k ∈ m.attributes ∨ k ∈ m.children → k ∈ d.inside h := fun k hk =>
      mem_inside.mpr (by rwa [hattributes, hchildren])
    have hlabels : ∀ a ∈ m.attributes,
        ∃ label, ((d.node? a).map fun m => (m.name, m.value)) = some label := by
      intro a ha
      obtain ⟨m', hm'⟩ := Option.isSome_iff_exists.mp (hd.contains_of_mem (hin a (Or.inl ha)))
      exact ⟨(m'.name, m'.value), by rw [hm']; rfl⟩
    have hcontents : ∀ c ∈ m.children, ∃ t, d.contentAux n c = some t := by
      intro c hc
      have hmem := hin c (Or.inr hc)
      have := hlt c h (hd.parent?_of_mem hmem)
      exact ih c (hd.contains_of_mem hmem) (by omega)
    obtain ⟨as, has⟩ := exists_mapM_eq_some hlabels
    obtain ⟨ts, hts⟩ := exists_mapM_eq_some hcontents
    refine ⟨.node m.kind m.name m.value as ts, ?_⟩
    rw [contentAux, hm]
    simp only [Option.bind_eq_bind, Option.bind_some, has, hts]

end GuidedXml.Document
