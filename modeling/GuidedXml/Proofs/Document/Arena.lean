/-
# Documents under all operations

The documents that any operations lead to, whatever handles they are given and whether they succeed
or fail. Only one of them can leave something that is no tidy document: the document node belongs to
no parent, so it can be discarded with all that is in it. What is left then differs from a tidy
document in its document node alone.

The main statement says that in every document that is made the links in both directions agree, that
no path returns to where it began, and that handles of dead nodes stay dead.
-/
import GuidedXml.Proofs.Document.Region
import GuidedXml.Proofs.Document.Tidiness

namespace GuidedXml.Document

variable {d d' d'' e source : Document} {h k p c : Handle}

/-! ## Operations -/

/-- An operation on a document, with the handles and texts that it is given. -/
inductive Operation where
  | setRoot (element : Handle)
  | createElement (name : String)
  | createAttribute (name value : String)
  | createText (value : String)
  | append (parent child : Handle)
  | insertAfter (parent : Handle) (previous : Option Handle) (child : Handle)
  | replaceChild (parent old replacement : Handle)
  | placeAttribute (element attr : Handle)
  | setAttribute (element : Handle) (name value : String)
  | removeAttribute (element : Handle) (name : String)
  | setValue (h : Handle) (value : String)
  | detach (h : Handle)
  | discard (h : Handle)
  | copyFrom (source : Document) (h : Handle)

namespace Operation

/-- The document after an operation that changes nothing if it fails. -/
def settled (d : Document) : Except Fault Document → Document
  | .ok d' => d'
  | .error _ => d

/-- The document after the operation. One that fails leaves it as it was, except for the two that
say so themselves. -/
def apply (d : Document) : Operation → Document
  | setRoot element => (d.setRoot element).1
  | createElement name => (d.createElement name).1
  | createAttribute name value => (d.createAttribute name value).1
  | createText value => (d.createText value).1
  | append parent child => settled d (d.append parent child)
  | insertAfter parent previous child => settled d (d.insertAfter parent previous child)
  | replaceChild parent old replacement => settled d (d.replaceChild parent old replacement)
  | placeAttribute element attr => settled d ((d.placeAttribute element attr).map Prod.fst)
  | setAttribute element name value => (d.setAttribute element name value).1
  | removeAttribute element name => settled d ((d.removeAttribute element name).map Prod.fst)
  | setValue h value => settled d (d.setValue h value)
  | detach h => settled d (d.detach h)
  | discard h => settled d (d.discard h)
  | copyFrom source h => settled d ((d.copyFrom source h).map Prod.fst)

/-- The other document that is read, if there is one. -/
def source? : Operation → Option Document
  | copyFrom source _ => some source
  | _ => none

/-- The document after operations in turn. -/
def run (d : Document) (os : List Operation) : Document :=
  os.foldl apply d

end Operation

/-- The documents that can be made: they are empty or read off a text at first, and subtrees are
copied from documents that can be made. -/
inductive Made : Document → Prop
  | empty : Made empty
  | read {text : String} {d : Document} : read text = .ok d → Made d
  | apply {d : Document} {o : Operation} :
      Made d → (∀ source, o.source? = some source → Made source) → Made (o.apply d)

/-- Operations in turn lead to a document that can be made, if they copy from such documents only. -/
theorem Made.run {os : List Operation} (hd : Made d)
    (hs : ∀ o ∈ os, ∀ source, o.source? = some source → Made source) : Made (Operation.run d os) := by
  induction os generalizing d with
  | nil => exact hd
  | cons o os ih =>
    obtain ⟨ho, hos⟩ := List.forall_mem_cons.mp hs
    exact ih (.apply hd ho) hos

/-! ## Dead handles -/

/-- The second document has all slots of the first one, and those that were empty still are. -/
structure KeepsDead (d d' : Document) : Prop where
  size : d.slots.size ≤ d'.slots.size
  dead : ∀ k, k.index < d.slots.size → d.contains k = false → d'.contains k = false

namespace KeepsDead

theorem refl (d : Document) : KeepsDead d d :=
  ⟨Nat.le_refl _, fun _ _ hc => hc⟩

theorem trans (h₁ : KeepsDead d d') (h₂ : KeepsDead d' d'') : KeepsDead d d'' where
  size := Nat.le_trans h₁.size h₂.size
  dead := fun k hk hc => h₂.dead k (Nat.lt_of_lt_of_le hk h₁.size) (h₁.dead k hk hc)

/-- Changing what is stored for a node revives none. -/
theorem update (d : Document) (h : Handle) (f : Node → Node) : KeepsDead d (d.update h f) where
  size := by rw [size_update]
  dead := by
    intro k _ hc
    rw [contains, node?_update]
    simp only [contains, Option.isSome_eq_false_iff, Option.isNone_iff_eq_none] at hc
    simp [hc]

/-- Linking revives no node. -/
theorem link (d : Document) (p c : Handle) (cs : List Handle) : KeepsDead d (d.link p c cs) :=
  (update d p _).trans (update _ c _)

/-- Adding nodes revives none. -/
theorem of_extends (he : Extends d d') : KeepsDead d d' where
  size := he.size
  dead := fun k hk hc => by rw [contains, he.node? k hk, ← contains, hc]

/-- Dropping nodes revives none. -/
theorem foldlDrop (d : Document) (hs : List Handle) : KeepsDead d (hs.foldl drop d) where
  size := by rw [size_foldl_drop]
  dead := by
    intro k _ hc
    rw [contains, node?_foldl_drop]
    split
    · rfl
    · exact hc

/-- Appending revives no node. -/
theorem append (ha : d.append p c = .ok d') : KeepsDead d d' := by
  unfold Document.append at ha
  split at ha
  · simp at ha
  · exact Except.ok.inj ha ▸ link d p c _

/-- Inserting after a node revives none. -/
theorem insertAfter {q : Option Handle} (hi : d.insertAfter p q c = .ok d') : KeepsDead d d' := by
  unfold Document.insertAfter at hi
  split at hi
  · simp at hi
  · dsimp only at hi
    split at hi
    · exact Except.ok.inj hi ▸ link d p c _
    · split at hi
      · simp at hi
      · exact Except.ok.inj hi ▸ link d p c _

/-- Replacing a child revives no node. -/
theorem replaceChild {old : Handle} (hr : d.replaceChild p old c = .ok d') : KeepsDead d d' := by
  unfold Document.replaceChild at hr
  split at hr
  · simp at hr
  · dsimp only at hr
    split at hr
    · simp at hr
    · exact Except.ok.inj hr ▸ (link d p c _).trans (update _ old _)

/-- Detaching revives no node. -/
theorem detach (hr : d.detach h = .ok d') : KeepsDead d d' := by
  unfold Document.detach at hr
  split at hr
  · simp at hr
  · split at hr
    · exact Except.ok.inj hr ▸ refl d
    · split at hr
      · simp at hr
      · exact Except.ok.inj hr ▸ (update d _ _).trans (update _ h _)

/-- Placing an attribute revives no node. -/
theorem placeAttribute {a : Handle} {displaced : Option Handle}
    (hp : d.placeAttribute h a = .ok (d', displaced)) : KeepsDead d d' := by
  unfold Document.placeAttribute at hp
  split at hp
  · simp at hp
  · split at hp
    · simp at hp
    · split_ifs at hp
      dsimp only at hp
      split at hp
      · exact (Prod.mk.inj (Except.ok.inj hp)).1 ▸ (update d h _).trans (update _ a _)
      · split at hp
        · simp at hp
        · exact (Prod.mk.inj (Except.ok.inj hp)).1 ▸
            ((update d h _).trans (update _ _ _)).trans (update _ a _)

/-- Setting a value revives no node. -/
theorem setValue {value : String} (hs : d.setValue h value = .ok d') : KeepsDead d d' := by
  rcases setValue_cases hs with ⟨k, -, rfl⟩ | ⟨-, ha⟩
  · exact update d k _
  · exact (of_extends (extends_push d _)).trans (append ha)

/-- Discarding revives no node. -/
theorem discard (hr : d.discard h = .ok d') : KeepsDead d d' := by
  unfold Document.discard at hr
  split at hr
  · simp at hr
  · split_ifs at hr
    exact Except.ok.inj hr ▸ foldlDrop d _

/-- What an operation settles for revives no node if its success does not. -/
theorem settled {r : Except Fault Document} (hr : ∀ d', r = .ok d' → KeepsDead d d') :
    KeepsDead d (Operation.settled d r) := by
  cases r with
  | error _ => exact refl d
  | ok d' => exact hr d' rfl

end KeepsDead

/-- Where the first half of a result is known, there is a second half. -/
theorem map_fst_eq_ok {α : Type} {r : Except Fault (Document × α)} (hr : r.map Prod.fst = .ok d') :
    ∃ a, r = .ok (d', a) := by
  cases r with
  | error _ => simp [Except.map] at hr
  | ok q =>
    obtain ⟨d₁, a⟩ := q
    exact ⟨a, by rw [← Except.ok.inj hr]⟩

/-- Installing a root takes out the old one and places the new one, as far as that succeeds. -/
theorem setRoot_cases (d : Document) (h : Handle) :
    ∃ d', (d' = d ∨ ∃ old, d.detach old = .ok d') ∧
      ((d.setRoot h).1 = d' ∨ d'.append top h = .ok (d.setRoot h).1) := by
  unfold setRoot
  cases hroot : d.root? with
  | none =>
    refine ⟨d, Or.inl rfl, ?_⟩
    dsimp only
    cases ha : d.append top h with
    | error _ => exact Or.inl rfl
    | ok d'' => exact Or.inr rfl
  | some old =>
    dsimp only
    cases hold : d.detach old with
    | error _ => exact ⟨d, Or.inl rfl, Or.inl rfl⟩
    | ok d' =>
      refine ⟨d', Or.inr ⟨old, hold⟩, ?_⟩
      dsimp only
      cases ha : d'.append top h with
      | error _ => exact Or.inl rfl
      | ok d'' => exact Or.inr rfl

/-- Setting an attribute changes the value of one that is there, or makes one and places it as far
as that succeeds. -/
theorem setAttribute_cases (d : Document) (h : Handle) (name value : String) :
    (d.setAttribute h name value).1 = d ∨
      (∃ a, (d.setAttribute h name value).1 = d.update a fun n => { n with value := value }) ∨
        ((d.setAttribute h name value).1 = (d.createAttribute name value).1 ∨
          ∃ displaced, (d.createAttribute name value).1.placeAttribute h d.next =
            .ok ((d.setAttribute h name value).1, displaced)) := by
  unfold setAttribute
  cases d.attribute? h name with
  | some a =>
    dsimp only
    split_ifs
    · exact Or.inr (Or.inl ⟨a, rfl⟩)
    · exact Or.inl rfl
  | none =>
    refine Or.inr (Or.inr ?_)
    dsimp only [createAttribute, push_snd]
    cases hp : (d.push { kind := .attribute, name := name, value := value }).1.placeAttribute h
      d.next with
    | error _ => exact Or.inl rfl
    | ok q => exact Or.inr ⟨q.2, rfl⟩

/-- Removing an attribute does nothing or detaches it. -/
theorem removeAttribute_cases {name : String} {a : Option Handle}
    (hr : d.removeAttribute h name = .ok (d', a)) :
    d' = d ∨ ∃ old, d.detach old = .ok d' := by
  unfold removeAttribute at hr
  split at hr
  · simp at hr
  · split at hr
    · exact Or.inl (Prod.mk.inj (Except.ok.inj hr)).1.symm
    · next old _ =>
      cases hd : d.detach old with
      | error _ => rw [hd] at hr; simp [Except.map] at hr
      | ok e =>
        rw [hd] at hr
        exact Or.inr ⟨old, (Prod.mk.inj (Except.ok.inj hr)).1 ▸ hd⟩

/-- Copying from a document writes what the node holds there. -/
theorem copyFrom_cases {new : Handle} (hc : d.copyFrom source h = .ok (d', new)) :
    ∃ t, source.content? h = some t ∧ d' = (d.write t).1 := by
  unfold copyFrom at hc
  cases ht : source.content? h with
  | none => rw [ht] at hc; simp at hc
  | some t =>
    rw [ht] at hc
    exact ⟨t, rfl, by rw [Except.ok.inj hc]⟩

/-- No operation revives a node. -/
theorem Operation.keepsDead (d : Document) (o : Operation) : KeepsDead d (o.apply d) := by
  -- what is made gets a handle of its own, behind all others
  have hpush : ∀ (d : Document) (n : Node), KeepsDead d (d.push n).1 := fun d n =>
    .of_extends (extends_push d n)
  cases o with
  | setRoot element =>
    obtain ⟨d', hcleared, hplaced⟩ := setRoot_cases d element
    have hfirst : KeepsDead d d' := by
      rcases hcleared with rfl | ⟨old, hold⟩
      · exact .refl d'
      · exact .detach hold
    rcases hplaced with heq | ha
    · rw [apply, heq]
      exact hfirst
    · exact hfirst.trans (.append ha)
  | createElement name => exact hpush d _
  | createAttribute name value => exact hpush d _
  | createText value => exact hpush d _
  | append parent child => exact .settled fun d' => .append
  | insertAfter parent previous child => exact .settled fun d' => .insertAfter
  | replaceChild parent old replacement => exact .settled fun d' => .replaceChild
  | placeAttribute element attr =>
    refine .settled fun d' hp => ?_
    obtain ⟨displaced, hp⟩ := map_fst_eq_ok hp
    exact .placeAttribute hp
  | setAttribute element name value =>
    rcases setAttribute_cases d element name value with heq | ⟨a, heq⟩ | heq | ⟨displaced, hp⟩
    · rw [apply, heq]
      exact .refl d
    · rw [apply, heq]
      exact .update d a _
    · rw [apply, heq]
      exact hpush d _
    · exact (hpush d _).trans (.placeAttribute hp)
  | removeAttribute element name =>
    refine .settled fun d' hr => ?_
    obtain ⟨a, hr⟩ := map_fst_eq_ok hr
    rcases removeAttribute_cases hr with rfl | ⟨old, hold⟩
    · exact .refl d'
    · exact .detach hold
  | setValue h value => exact .settled fun d' => .setValue
  | detach h => exact .settled fun d' => .detach
  | discard h => exact .settled fun d' => .discard
  | copyFrom source h =>
    refine .settled fun d' hc => ?_
    obtain ⟨new, hc⟩ := map_fst_eq_ok hc
    obtain ⟨t, -, rfl⟩ := copyFrom_cases hc
    exact .of_extends (extends_write d t)

/-- No run of operations revives a node. -/
theorem Operation.keepsDead_run (d : Document) (os : List Operation) : KeepsDead d (run d os) := by
  induction os generalizing d with
  | nil => exact .refl d
  | cons o os ih => exact (o.keepsDead d).trans (ih (o.apply d))

/-! ## Documents without their document node -/

/-- The document is tidy, or it is what is left of a tidy one whose document node, with nothing in
it, was discarded. -/
inductive Grown (d : Document) : Prop
  | whole : d.Tidy → Grown d
  | topless {e : Document} : e.Tidy → d.contains top = false → SameRegion 1 e d → Grown d

/-- Where the document node is dead, what lives comes after it. -/
theorem one_le_of_contains (htop : d.contains top = false) (hc : d.contains h = true) :
    1 ≤ h.index := by
  obtain ⟨i⟩ := h
  cases i with
  | zero =>
    rw [← top, htop] at hc
    simp at hc
  | succ i => exact Nat.le_add_left ..

/-- A live node lies in a region that a tidy document has too. -/
theorem Grown.exists_region (hd : Grown d) (hc : d.contains h = true) :
    ∃ n e, e.Tidy ∧ SameRegion n e d ∧ n ≤ h.index := by
  cases hd with
  | whole htidy => exact ⟨0, d, htidy, .whole d, Nat.zero_le _⟩
  | @topless e he htop hr => exact ⟨1, e, he, hr, one_le_of_contains htop hc⟩

/-- The nodes of the document form trees, whether its document node is there or not: every live node
lies in a region that a forest has too. -/
def Wooded (d : Document) : Prop :=
  ∀ h, d.contains h = true → ∃ n e, Forest e ∧ SameRegion n e d ∧ n ≤ h.index

/-- A forest is wooded. -/
theorem Forest.wooded (hd : d.Forest) : d.Wooded :=
  fun _ _ => ⟨0, d, hd, .whole d, Nat.zero_le _⟩

/-- What was grown is wooded. -/
theorem Grown.wooded (hd : Grown d) : d.Wooded := by
  intro h hc
  obtain ⟨n, e, he, hr, hn⟩ := hd.exists_region hc
  exact ⟨n, e, he.toForest, hr, hn⟩

/-- There is a slot for the document node, be it empty. -/
theorem Grown.size_pos (hd : Grown d) : 0 < d.slots.size := by
  cases hd with
  | whole htidy => exact Nat.lt_of_le_of_lt (Nat.zero_le _) (index_lt_of_contains htidy.contains_top)
  | topless _ _ hr => exact hr.size ▸ hr.le

/-- What was a document node is one with nothing in it again. -/
def crowned (d : Document) : Document :=
  ⟨d.slots.modify top.index fun _ => some { kind := .document }⟩

/-- A crown adds no slot. -/
theorem size_crowned (d : Document) : d.crowned.slots.size = d.slots.size := by
  simp [crowned]

/-- Under a crown the document node is new and every other node as it was. -/
theorem node?_crowned (hs : 0 < d.slots.size) (k : Handle) :
    d.crowned.node? k = if k = top then some { kind := .document } else d.node? k := by
  obtain ⟨i⟩ := k
  simp only [crowned, node?, Array.getElem?_modify, top, Handle.mk.injEq]
  by_cases hi : i = 0
  · subst hi
    simp [Array.getElem?_eq_getElem hs]
  · simp [hi, Ne.symm hi]

/-- Discarding the document node leaves what a tidy document has beside its document node. -/
theorem Pruned.grown (hr : Pruned d d' top) (hd : d.Tidy) : Grown d' := by
  have hlive := Within.self (hd.toLinked.contains_top)
  have hs : 0 < d'.slots.size := hr.size ▸ index_lt_of_contains hd.toLinked.contains_top
  have hnode := node?_crowned hs
  have htop : d'.crowned.kind? top = some .document := by simp [kind?, hnode]
  have hkept : ∀ k, ¬ d.Within top k → k ≠ top := by
    rintro k hk rfl
    exact hk hlive
  -- under a crown this is a document from which all was cut but the document node itself
  have hcut : Cut d d'.crowned top := by
    refine ⟨fun k hw => ?_, fun k hk => ?_⟩
    · by_cases hk : k = top
      · simp [inside, attributes, children, parent?, hnode, hk]
      · simp [inside, attributes, children, parent?, hnode, hk, hr.gone k hw]
    · rw [hnode, if_neg (hkept k hk), hr.kept k hk]
  have htidy := hd.cut hcut hd.toLinked.parent?_top htop
  refine .topless htidy ?_ ⟨?_, ?_, ?_, ?_⟩
  · simp [contains, hr.gone top hlive]
  · rw [size_crowned]
    exact hs
  · rw [size_crowned]
  · intro k hk
    rw [hnode, if_neg]
    rintro rfl
    exact absurd hk (by decide)
  · -- the document node is linked to nothing, so no link leads back to it
    intro k hk node hn x hx
    have hbare := hcut.bare top hlive
    rw [Nat.one_le_iff_ne_zero]
    intro hzero
    obtain rfl : x = top := by
      obtain ⟨i⟩ := x
      exact congrArg Handle.mk hzero
    have hlinked : top ∈ d'.crowned.inside k ∨ d'.crowned.parent? k = some top := by
      simp only [inside, attributes, children, parent?, hn, Option.map_some, Option.getD_some,
        Option.bind_some, List.mem_append]
      tauto
    rcases hlinked with hm | hp
    · rw [htidy.parent?_of_mem hm] at hbare
      simp at hbare
    · have := htidy.mem_of_parent? hp
      rw [hbare.1] at this
      simp at this

/-! ## What succeeds names live nodes -/

/-- What was appended could be placed. -/
theorem placeable_of_append (ha : d.append p c = .ok d') : d.Placeable p c := by
  unfold append at ha
  split at ha
  · simp at ha
  · next hf => exact placementFault?_eq_none_iff.mp hf

/-- What was inserted could be placed. -/
theorem placeable_of_insertAfter {q : Option Handle} (hi : d.insertAfter p q c = .ok d') :
    d.Placeable p c := by
  unfold insertAfter at hi
  split at hi
  · simp at hi
  · next hf => exact placementFault?_eq_none_iff.mp hf

/-- What replaced a child could be placed. -/
theorem placeable_of_replaceChild {old : Handle} (hr : d.replaceChild p old c = .ok d') :
    d.Placeable p c := by
  unfold replaceChild at hr
  split at hr
  · simp at hr
  · next hf => exact placementFault?_eq_none_iff.mp hf

/-- Both an attribute that was placed and its element live. -/
theorem contains_of_placeAttribute {displaced : Option Handle}
    (hp : d.placeAttribute p c = .ok (d', displaced)) :
    d.contains p = true ∧ d.contains c = true := by
  refine ⟨contains_of_isElement (isElement_of_placeAttribute hp), ?_⟩
  unfold placeAttribute at hp
  split at hp
  · simp at hp
  · split at hp
    · simp at hp
    · next n hn => exact contains_iff.mpr ⟨n, hn⟩

/-- What was detached lives. -/
theorem contains_of_detach (hr : d.detach h = .ok d') : d.contains h = true := by
  unfold detach at hr
  split at hr
  · simp at hr
  · next n hn => exact contains_iff.mpr ⟨n, hn⟩

/-- What was given a value lives. -/
theorem contains_of_setValue {value : String} (hs : d.setValue h value = .ok d') :
    d.contains h = true := by
  unfold setValue at hs
  split at hs
  · simp at hs
  · next n hn => exact contains_iff.mpr ⟨n, hn⟩

/-- What holds something lives. -/
theorem contains_of_content? {t : Tree} (ht : d.content? h = some t) : d.contains h = true := by
  unfold content? at ht
  cases hs : d.slots.size with
  | zero => rw [hs] at ht; simp [contentAux] at ht
  | succ fuel =>
    rw [hs, contentAux] at ht
    simp only [Option.bind_eq_bind, Option.bind_eq_some_iff] at ht
    obtain ⟨n, hn, -⟩ := ht
    exact contains_iff.mpr ⟨n, hn⟩

/-! ## Operations on grown documents -/

namespace Grown

/-- An operation that keeps documents tidy, and does the same in all documents with the nodes that it
is given. -/
theorem of_ok {f : Document → Except Fault Document} (hd : Grown d) (hf : f d = .ok d')
    (hdead : KeepsDead d d') (htidy : ∀ e e', e.Tidy → f e = .ok e' → e'.Tidy)
    (hsame : ∀ e, d.contains top = false → SameRegion 1 e d →
      (∃ fault, f e = .error fault ∧ f d = .error fault) ∨
        ∃ e' d'', f e = .ok e' ∧ f d = .ok d'' ∧ SameRegion 1 e' d'') : Grown d' := by
  cases hd with
  | whole hd => exact .whole (htidy d d' hd hf)
  | @topless e he htop hr =>
    rcases hsame e htop hr with ⟨fault, -, hfail⟩ | ⟨e', d'', hfe, hfd, hr'⟩
    · rw [hf] at hfail
      simp at hfail
    · obtain rfl := Except.ok.inj (hf.symm.trans hfd)
      refine .topless (htidy e e' he hfe) (hdead.dead top ?_ htop) hr'
      rw [hr.size]
      exact hr.le

/-- Appending keeps a document grown. -/
theorem append (hd : Grown d) (ha : d.append p c = .ok d') : Grown d' := by
  have hpl := placeable_of_append ha
  refine hd.of_ok (f := fun e => e.append p c) ha (.append ha) (fun e e' he => he.append) ?_
  intro e htop hr
  exact hr.append (one_le_of_contains htop hpl.contains_parent)
    (one_le_of_contains htop hpl.contains_child)

/-- Inserting after a node keeps a document grown. -/
theorem insertAfter (hd : Grown d) {q : Option Handle} (hi : d.insertAfter p q c = .ok d') :
    Grown d' := by
  have hpl := placeable_of_insertAfter hi
  refine hd.of_ok (f := fun e => e.insertAfter p q c) hi (.insertAfter hi)
    (fun e e' he => he.insertAfter) ?_
  intro e htop hr
  exact hr.insertAfter (one_le_of_contains htop hpl.contains_parent)
    (one_le_of_contains htop hpl.contains_child) q

/-- Replacing a child keeps a document grown. -/
theorem replaceChild (hd : Grown d) {old : Handle} (hr : d.replaceChild p old c = .ok d') :
    Grown d' := by
  have hpl := placeable_of_replaceChild hr
  refine hd.of_ok (f := fun e => e.replaceChild p old c) hr (.replaceChild hr)
    (fun e e' he => he.replaceChild) ?_
  intro e htop hr
  exact hr.replaceChild (one_le_of_contains htop hpl.contains_parent)
    (one_le_of_contains htop hpl.contains_child) old

/-- Detaching keeps a document grown. -/
theorem detach (hd : Grown d) (hr : d.detach h = .ok d') : Grown d' := by
  have hc := contains_of_detach hr
  refine hd.of_ok (f := fun e => e.detach h) hr (.detach hr) (fun e e' he => he.detach) ?_
  intro e htop hr
  exact hr.detach (one_le_of_contains htop hc)

/-- Setting a value keeps a document grown. -/
theorem setValue (hd : Grown d) {value : String} (hs : d.setValue h value = .ok d') :
    Grown d' := by
  have hc := contains_of_setValue hs
  refine hd.of_ok (f := fun e => e.setValue h value) hs (.setValue hs)
    (fun e e' he => he.setValue) ?_
  intro e htop hr
  exact hr.setValue (one_le_of_contains htop hc) value

/-- Placing an attribute keeps a document grown. -/
theorem placeAttribute (hd : Grown d) {displaced : Option Handle}
    (hp : d.placeAttribute p c = .ok (d', displaced)) : Grown d' := by
  obtain ⟨hcp, hcc⟩ := contains_of_placeAttribute hp
  have hf : (d.placeAttribute p c).map Prod.fst = .ok d' := by
    rw [hp]
    rfl
  refine hd.of_ok (f := fun e => (e.placeAttribute p c).map Prod.fst) hf (.placeAttribute hp) ?_ ?_
  · intro e e' he hfe
    obtain ⟨old, hpe⟩ := map_fst_eq_ok hfe
    exact he.placeAttribute hpe
  · intro e htop hr
    rcases hr.placeAttribute (one_le_of_contains htop hcp) (one_le_of_contains htop hcc) with
      ⟨fault, hfe, hfd⟩ | ⟨e', d'', old, hfe, hfd, hr'⟩
    · exact Or.inl ⟨fault, by rw [hfe]; rfl, by rw [hfd]; rfl⟩
    · exact Or.inr ⟨e', d'', by rw [hfe]; rfl, by rw [hfd]; rfl, hr'⟩

/-- The document node itself may be discarded, and anything else that belongs to no parent. -/
theorem discard (hd : Grown d) (hr : d.discard h = .ok d') : Grown d' := by
  obtain ⟨hc, hp⟩ := detached_of_discard hr
  cases hd with
  | whole hd =>
    by_cases hne : h = top
    · subst hne
      obtain ⟨e, he, hpruned⟩ := pruned_discard hd.toForest hc hp
      obtain rfl := Except.ok.inj (he.symm.trans hr)
      exact hpruned.grown hd
    · exact .whole (hd.discard hr hne)
  | @topless e he htop hs =>
    have hh := one_le_of_contains htop hc
    have hne : h ≠ top := by
      rintro rfl
      exact absurd hh (by decide)
    rcases hs.discard hh with ⟨fault, -, hfail⟩ | ⟨e', d'', hfe, hfd, hs'⟩
    · rw [hr] at hfail
      simp at hfail
    · obtain rfl := Except.ok.inj (hr.symm.trans hfd)
      refine .topless (he.discard hfe hne) ((KeepsDead.discard hr).dead top ?_ htop) hs'
      rw [hs.size]
      exact hs.le

/-- Changing a stored value keeps a document grown. -/
theorem revalue (hd : Grown d) (h : Handle) (value : String) :
    Grown (d.update h fun n => { n with value := value }) :=
  hd.of_ok (f := fun e => .ok (e.update h fun n => { n with value := value })) rfl
    (.update d h _) (fun _ _ he hfe => Except.ok.inj hfe ▸ he.revalue h value)
    fun _ _ hr => Or.inr ⟨_, _, rfl, rfl, hr.updateValue h value⟩

/-- Writing a proper tree keeps a document grown. -/
theorem write (hd : Grown d) {t : Tree} (ht : t.Proper) (hkeyed : t.Keyed) :
    Grown (d.write t).1 :=
  hd.of_ok (f := fun e => .ok (e.write t).1) rfl (.of_extends (extends_write d t))
    (fun _ _ he hfe => Except.ok.inj hfe ▸ he.write ht hkeyed)
    fun _ _ hr => Or.inr ⟨_, _, rfl, rfl, hr.write t⟩

/-- A node without links keeps a document grown. -/
theorem push (hd : Grown d) (kind : Kind) (name value : String) :
    Grown (d.push { kind, name, value }).1 := by
  rw [push_eq_write]
  exact hd.write (.node (by simp) (by simp) (by simp) (by simp)) (.node (by simp) (by simp))

/-- A content that is read off a grown document can be written into one. -/
theorem content (hd : Grown d) {t : Tree} (ht : d.content? h = some t) : t.Proper ∧ t.Keyed := by
  cases hd with
  | whole hd => exact hd.content ht
  | topless he htop hr =>
    have hh := one_le_of_contains htop (contains_of_content? ht)
    exact he.content (hr.content? hh ▸ ht)

/-- What an operation settles for is grown if its success is. -/
theorem settled (hd : Grown d) {r : Except Fault Document} (hr : ∀ d', r = .ok d' → Grown d') :
    Grown (Operation.settled d r) := by
  cases r with
  | error _ => exact hd
  | ok d' => exact hr d' rfl

/-- Whatever an operation is given and whether it succeeds, it leads to a grown document. -/
theorem apply (hd : Grown d) (o : Operation) (hs : ∀ source, o.source? = some source → Grown source) :
    Grown (o.apply d) := by
  cases o with
  | setRoot element =>
    -- the old root is detached first, whether the new one can be placed or not
    obtain ⟨d', hcleared, hplaced⟩ := setRoot_cases d element
    have hfirst : Grown d' := by
      rcases hcleared with rfl | ⟨old, hold⟩
      · exact hd
      · exact hd.detach hold
    rcases hplaced with heq | ha
    · rw [Operation.apply, heq]
      exact hfirst
    · exact hfirst.append ha
  | createElement name => exact hd.push .element name ""
  | createAttribute name value => exact hd.push .attribute name value
  | createText value => exact hd.push .text "" value
  | append parent child => exact hd.settled fun d' => hd.append
  | insertAfter parent previous child => exact hd.settled fun d' => hd.insertAfter
  | replaceChild parent old replacement => exact hd.settled fun d' => hd.replaceChild
  | placeAttribute element attr =>
    refine hd.settled fun d' hp => ?_
    obtain ⟨displaced, hp⟩ := map_fst_eq_ok hp
    exact hd.placeAttribute hp
  | setAttribute element name value =>
    rcases setAttribute_cases d element name value with heq | ⟨a, heq⟩ | heq | ⟨displaced, hp⟩
    · rw [Operation.apply, heq]
      exact hd
    · rw [Operation.apply, heq]
      exact hd.revalue a value
    · rw [Operation.apply, heq]
      exact hd.push .attribute name value
    · exact (hd.push .attribute name value).placeAttribute hp
  | removeAttribute element name =>
    refine hd.settled fun d' hr => ?_
    obtain ⟨a, hr⟩ := map_fst_eq_ok hr
    rcases removeAttribute_cases hr with rfl | ⟨old, hold⟩
    · exact hd
    · exact hd.detach hold
  | setValue h value => exact hd.settled fun d' => hd.setValue
  | detach h => exact hd.settled fun d' => hd.detach
  | discard h => exact hd.settled fun d' => hd.discard
  | copyFrom source h =>
    refine hd.settled fun d' hc => ?_
    obtain ⟨new, hc⟩ := map_fst_eq_ok hc
    obtain ⟨t, ht, rfl⟩ := copyFrom_cases hc
    obtain ⟨hproper, hkeyed⟩ := (hs source rfl).content ht
    exact hd.write hproper hkeyed

end Grown

/-- The empty document is tidy. -/
theorem tidy_empty : (empty : Document).Tidy where
  toForest := orderly_empty.forest
  names := by
    intro h a b ha
    have hattributes : empty.attributes h = [] := by
      cases h with
      | mk i => cases i <;> simp [attributes, node?, empty]
    rw [hattributes] at ha
    simp at ha

/-- The document of a proper tree is tidy. -/
theorem tidy_ofTree {root : Tree} (ht : root.Proper) (hk : root.kind = .element)
    (hkeyed : root.Keyed) : (ofTree root).Tidy where
  toForest := (orderly_ofTree ht hk).forest
  names := by
    intro h a b ha hb hab
    have hlt := index_lt_of_contains (contains_of_mem_inside (mem_inside.mpr (Or.inl ha)))
    rw [size_ofTree] at hlt
    refine names_of_holds (.node (by simp) (by simpa using hkeyed)) (holds_ofTree root) h
      (Nat.zero_le _) ?_ a ha b hb hab
    simp only [Tree.size, Tree.sizeAll, List.length_nil]
    omega

/-- What is read is tidy. -/
theorem tidy_of_read {text : String} (hd : read text = .ok d) : d.Tidy := by
  obtain ⟨root, ht, rfl⟩ := exists_readTree_of_read hd
  obtain ⟨hcontent, hkind⟩ := Markup.isContent_of_readTree ht
  exact tidy_ofTree hcontent.proper hkind (Markup.neat_of_readTree ht).keyed

/-- What is made by operations is grown. -/
theorem Made.grown (hd : Made d) : Grown d := by
  induction hd with
  | empty => exact .whole tidy_empty
  | read hread => exact .whole (tidy_of_read hread)
  | @apply d o _ _ ih ihs => exact ih.apply o ihs

/-! ## Consistency -/

/-- The links of a document agree in both directions, and the walks along them end. -/
structure Consistent (d : Document) : Prop where
  /-- The parent of a node is live and lists it once, in the list for its kind. -/
  listed : ∀ {k p}, d.parent? k = some p → d.contains p = true ∧
    if d.isAttribute k then (d.attributes p).count k = 1 ∧ k ∉ d.children p
    else (d.children p).count k = 1 ∧ k ∉ d.attributes p
  /-- Children are elements and texts. -/
  children : ∀ {h k}, k ∈ d.children h →
    (d.isElement k = true ∨ d.isText k = true) ∧ d.parent? k = some h
  /-- Attributes are attributes, and listed by elements. -/
  attributes : ∀ {h k}, k ∈ d.attributes h →
    d.isAttribute k = true ∧ d.parent? k = some h ∧ d.isElement h = true
  /-- The attributes of a node have different names. -/
  names : ∀ h, ((d.attributes h).map d.name).Nodup
  /-- Links upwards cannot be followed for ever. -/
  upwards : WellFounded fun p k => d.parent? k = some p
  /-- Links downwards cannot be followed for ever. -/
  downwards : WellFounded fun k p => k ∈ d.attributes p ∨ k ∈ d.children p
  /-- The walk to the nodes above a node ends with the last of them. -/
  ancestors : ∀ h, d.ancestors h = match d.parent? h with
    | none => []
    | some p => p :: d.ancestors p
  /-- A node is attached if it is the document node or its parent is attached. -/
  attached : ∀ h, d.isAttached h = true ↔
    h = top ∨ ∃ p, d.parent? h = some p ∧ d.isAttached p = true
  /-- The walk to the nodes at and below a node leaves none of them out. -/
  subtree : ∀ h, d.subtree h =
    if d.contains h then h :: (d.attributes h ++ d.children h).flatMap d.subtree else []

/-- Whether a node is attached is settled by the nodes above it. -/
theorem isAttached_iff_parent (ha : d.ancestors h = match d.parent? h with
      | none => []
      | some p => p :: d.ancestors p) :
    d.isAttached h = true ↔ h = top ∨ ∃ p, d.parent? h = some p ∧ d.isAttached p = true := by
  simp only [isAttached, List.contains_iff_mem, List.mem_cons, ha]
  cases d.parent? h with
  | none => simp [eq_comm]
  | some p => simp [eq_comm]

/-- A tidy document is consistent. -/
theorem Tidy.consistent (hd : d.Tidy) : d.Consistent where
  listed := by
    intro k p hp
    refine ⟨hd.toLinked.contains_parent hp, ?_⟩
    have hmem := hd.mem_of_parent? hp
    split_ifs with ha
    · have hout : k ∉ d.children p := fun hc => by
        rw [hd.toLinked.not_isAttribute_of_mem_children hc] at ha
        simp at ha
      exact ⟨List.count_eq_one_of_mem (hd.toLinked.nodup_attributes p)
        ((mem_inside.mp hmem).resolve_right hout), hout⟩
    · have hout : k ∉ d.attributes p := fun hm => ha (hd.kinds_of_attribute hm).1
      exact ⟨List.count_eq_one_of_mem (hd.toLinked.nodup_children p)
        ((mem_inside.mp hmem).resolve_left hout), hout⟩
  children := fun hk =>
    ⟨(hd.kinds_of_child hk).1, hd.parent?_of_mem (mem_inside.mpr (Or.inr hk))⟩
  attributes := fun hk =>
    ⟨(hd.kinds_of_attribute hk).1, hd.parent?_of_mem (mem_inside.mpr (Or.inl hk)),
      (hd.kinds_of_attribute hk).2⟩
  names := fun h =>
    (hd.toLinked.nodup_attributes h).map_on fun a ha b hb => hd.names ha hb
  upwards := hd.acyclic.wellFounded_parent
  downwards := by simpa only [mem_inside] using hd.toForest.wellFounded_inside
  ancestors := hd.toForest.ancestors_eq
  attached := fun h => isAttached_iff_parent (hd.toForest.ancestors_eq h)
  subtree := hd.toForest.subtree_eq

/-- What does not live is not found. -/
theorem node?_eq_none_of_not_contains (hc : d.contains h = false) : d.node? h = none := by
  simpa [contains] using hc

/-- Without its document node, the way up from a node is that over its parent all the same. -/
theorem SameRegion.ancestors_eq_of_topless (he : e.Consistent) (htop : d.contains top = false)
    (hr : SameRegion 1 e d) (h : Handle) : d.ancestors h = match d.parent? h with
      | none => []
      | some p => p :: d.ancestors p := by
  cases hc : d.contains h with
  | true =>
    have hh : 1 ≤ h.index := one_le_of_contains htop hc
    rw [hr.ancestors hh, he.ancestors h, (hr.lookups hh).2.2.1]
    cases hp : e.parent? h with
    | none => rfl
    | some p => exact congrArg (p :: ·) (hr.ancestors (hr.parent_le hh hp)).symm
  | false =>
    have hp : d.parent? h = none := by simp [parent?, node?_eq_none_of_not_contains hc]
    cases hs : d.slots.size <;> simp [Document.ancestors, hs, Document.ancestorsAux, hp]

/-- Without its document node, which is linked to nothing, a document is as consistent as with it. -/
theorem Consistent.of_topless (he : e.Consistent) (htop : d.contains top = false)
    (hr : SameRegion 1 e d) : d.Consistent := by
  have hlive : ∀ {h}, d.contains h = true → 1 ≤ h.index := one_le_of_contains htop
  have hparent : ∀ {k p}, d.parent? k = some p → 1 ≤ k.index ∧ e.parent? k = some p := by
    intro k p hp
    have hk := hlive (contains_of_parent? hp)
    exact ⟨hk, (hr.lookups hk).2.2.1 ▸ hp⟩
  have hlisted : ∀ {h k}, k ∈ d.inside h → 1 ≤ h.index ∧ 1 ≤ k.index := by
    intro h k hk
    have hh := hlive (contains_of_mem_inside hk)
    have heq := hr.lookups hh
    rw [inside, heq.2.2.2.1, heq.2.2.2.2] at hk
    exact ⟨hh, hr.inside_le hh hk⟩
  -- what is asked of the dead document node, or of another one
  have hcases : ∀ h : Handle, 1 ≤ h.index ∨ d.contains h = false := by
    intro h
    cases hc : d.contains h with
    | false => exact Or.inr rfl
    | true => exact Or.inl (hlive hc)
  have hancestors := SameRegion.ancestors_eq_of_topless he htop hr
  constructor
  case listed =>
    intro k p hp
    obtain ⟨hk, hpe⟩ := hparent hp
    have heq := hr.lookups (hr.parent_le hk hpe)
    have := he.listed hpe
    rwa [contains_congr heq.1, isAttribute_congr (hr.lookups hk).1, heq.2.2.2.1, heq.2.2.2.2]
  case children =>
    intro h k hm
    obtain ⟨hh, hk⟩ := hlisted (mem_inside.mpr (Or.inr hm))
    have heq := hr.lookups hk
    rw [isElement_congr heq.1, isText_congr heq.1, heq.2.2.1]
    exact he.children ((hr.lookups hh).2.2.2.2 ▸ hm)
  case attributes =>
    intro h k hm
    obtain ⟨hh, hk⟩ := hlisted (mem_inside.mpr (Or.inl hm))
    have heq := hr.lookups hk
    rw [isAttribute_congr heq.1, heq.2.2.1, isElement_congr (hr.lookups hh).1]
    exact he.attributes ((hr.lookups hh).2.2.2.1 ▸ hm)
  case names =>
    intro h
    rcases hcases h with hh | hc
    · rw [(hr.lookups hh).2.2.2.1,
        List.map_congr_left fun a ha => (hr.lookups (hr.attributes_le hh ha)).2.1]
      exact he.names h
    · simp [Document.attributes, node?_eq_none_of_not_contains hc]
  case upwards =>
    exact Subrelation.wf (fun {p k} hp => (hparent hp).2) he.upwards
  case downwards =>
    refine Subrelation.wf (fun {k p} hk => ?_) he.downwards
    have heq := (hr.lookups (hlisted (mem_inside.mpr hk)).1).2.2.2
    rwa [← heq.1, ← heq.2]
  case ancestors => exact hancestors
  case attached => exact fun h => isAttached_iff_parent (hancestors h)
  case subtree =>
    intro h
    rcases hcases h with hh | hc
    · have heq := hr.lookups hh
      have hmap : (e.attributes h ++ e.children h).map d.subtree =
          (e.attributes h ++ e.children h).map e.subtree :=
        List.map_congr_left fun x hx => hr.subtree (hr.inside_le hh hx)
      rw [hr.subtree hh, he.subtree h, contains_congr heq.1, heq.2.2.2.1, heq.2.2.2.2,
        List.flatMap_def, List.flatMap_def, hmap]
    · rw [hc]
      exact subtreeAux_of_not_contains hc _

/-- What was grown is consistent, even without its document node. -/
theorem Grown.consistent (hd : Grown d) : d.Consistent := by
  cases hd with
  | whole htidy => exact htidy.consistent
  | topless he htop hr => exact he.consistent.of_topless htop hr

/-- The nodes of every document that can be made form trees. -/
theorem Made.wooded (hd : Made d) : d.Wooded :=
  hd.grown.wooded

/-- What is made by operations has a slot for the document node. -/
theorem Made.size_pos (hd : Made d) : 0 < d.slots.size :=
  hd.grown.size_pos

/-- What is made by operations is consistent. -/
theorem Made.consistent (hd : Made d) : d.Consistent :=
  hd.grown.consistent

/-- However a document was made, its links agree in both directions and its walks end; and however it
is changed further, a handle that died stays dead. -/
theorem consistent_of_made (hd : Made d) : d.Consistent ∧
    ∀ (os os' : List Operation) (h : Handle), d.contains h = true →
      (Operation.run d os).contains h = false → (Operation.run d (os ++ os')).contains h = false := by
  refine ⟨hd.consistent, ?_⟩
  intro os os' h hlive hgone
  have hfirst := Operation.keepsDead_run d os
  have hrest := Operation.keepsDead_run (Operation.run d os) os'
  rw [Operation.run, List.foldl_append]
  exact hrest.dead h (Nat.lt_of_lt_of_le (index_lt_of_contains hlive) hfirst.size) hgone

/-- A document whose document node was discarded: there is a loose element in it, and a copy of a
document node with an element inside, into which it cannot be placed. -/
def felled : Document :=
  Operation.run empty [.createElement "tree", .append top ⟨1⟩, .setAttribute ⟨1⟩ "age" "90",
    .discard top, .createElement "twig", .copyFrom empty top, .append ⟨4⟩ ⟨3⟩, .append ⟨3⟩ ⟨4⟩,
    .setRoot ⟨3⟩, .setAttribute ⟨3⟩ "age" "1"]

/-- A document without its document node is consistent, and its dead stay dead. -/
theorem consistent_felled :
    Made felled ∧ felled.Consistent ∧ felled.contains top = false ∧
      felled.parent? ⟨3⟩ = some ⟨4⟩ ∧ felled.contains ⟨5⟩ = true ∧
      (Operation.run felled [.detach ⟨5⟩, .discard ⟨5⟩]).contains ⟨5⟩ = false ∧
      (Operation.run felled ([.detach ⟨5⟩, .discard ⟨5⟩] ++ [.placeAttribute ⟨3⟩ ⟨5⟩])).contains ⟨5⟩ =
        false := by
  have hmade : Made felled := .run .empty (by simp [Operation.source?, Made.empty])
  obtain ⟨hconsistent, hdead⟩ := consistent_of_made hmade
  have hlive : felled.contains ⟨5⟩ = true := by decide
  have hgone : (Operation.run felled [.detach ⟨5⟩, .discard ⟨5⟩]).contains ⟨5⟩ = false := by decide
  exact ⟨hmade, hconsistent, by decide, by decide, hlive, hgone, hdead _ _ _ hlive hgone⟩

end GuidedXml.Document
