/-
# Selection

The nodes that a path leads to. A selection goes through a document level by level, but what it finds
below one node does not depend on the others of its level. So it is a walk downwards that visits some
of the nodes that the walk of the whole subtree visits, in the same order.

The main statement says that a path selects exactly the ends of the chains of elements that it
describes, each of them once and in document order.
-/
import GuidedXml.Proofs.Document.Preorder
import GuidedXml.Proofs.Path.Reading
import Mathlib.Data.List.Flatten

namespace GuidedXml

open Document (Made Operation Within)

variable {d : Document} {h k c : Handle} {p : Path} {s : Path.Step} {steps : List Path.Step}

/-! ## The walk of a subtree -/

namespace Document.Consistent

/-- What walks visit below some of the nodes inside a live node, its walk visits in that order. -/
theorem sublist_subtree (hd : d.Consistent) (hc : d.contains h = true) {cs : List Handle}
    (hcs : cs.Sublist (d.inside h)) {walk : Handle → List Handle}
    (hwalk : ∀ c ∈ cs, (walk c).Sublist (d.subtree c)) :
    (cs.flatMap walk).Sublist (d.subtree h) := by
  rw [hd.subtree h, if_pos hc]
  exact ((List.Sublist.flatMap_right cs hwalk).trans (hcs.flatMap d.subtree)).cons h

theorem mem_attribute?_iff (hd : d.Consistent) {name : String} :
    d.attribute? h name = some k ↔ k ∈ d.attributes h ∧ d.name k = name := by
  constructor
  · exact mem_of_attribute?_eq_some
  · rintro ⟨hk, rfl⟩
    cases ha : d.attribute? h (d.name k) with
    | none => simpa using List.find?_eq_none.mp ha k hk
    | some a =>
      obtain ⟨hmem, hname⟩ := mem_of_attribute?_eq_some ha
      rw [List.inj_on_of_nodup_map (hd.names h) hmem hk hname]

end Document.Consistent

namespace Path

/-! ## One step -/

/-- The step asks for the element `c` inside `h`: it has the name of the step, and if the step has a
position, so many elements of the name stand inside `h` up to this one. -/
structure Step.Meets (s : Step) (d : Document) (h c : Handle) : Prop where
  inside : c ∈ d.elements h
  named : d.name c = s.name
  placed : ∀ n, s.position = some n →
    ((d.elements h).takeWhile (· ≠ c)).countP (fun x => d.name x = s.name) + 1 = n

/-- In a filtered list each element stands behind those before it that pass the test. -/
theorem getElem?_filter_eq_some_iff {α : Type} [DecidableEq α] {q : α → Bool} {l : List α}
    (hl : l.Nodup) {i : Nat} {c : α} :
    (l.filter q)[i]? = some c ↔ (c ∈ l ∧ q c = true) ∧ (l.takeWhile (· ≠ c)).countP q = i := by
  induction l generalizing i with
  | nil => simp
  | cons x l ih =>
    obtain ⟨hx, hl⟩ := List.nodup_cons.mp hl
    by_cases hxc : x = c
    · subst hxc
      -- the element does not come again in the rest of the list
      have hrest : ∀ j, (l.filter q)[j]? ≠ some x := fun j hj =>
        hx (List.mem_of_mem_filter (List.mem_of_getElem? hj))
      cases hq : q x with
      | false => simpa [hq] using hrest i
      | true => cases i with
        | zero => simp [hq]
        | succ i => simpa [hq] using hrest i
    · have hmem : c ∈ x :: l ↔ c ∈ l := by simp [Ne.symm hxc]
      rw [hmem, List.takeWhile_cons_of_pos (by simpa using hxc)]
      cases hq : q x with
      | false =>
        rw [List.filter_cons_of_neg (by simp [hq]), List.countP_cons_of_neg (by simp [hq])]
        exact ih hl
      | true =>
        rw [List.filter_cons_of_pos hq, List.countP_cons_of_pos hq]
        cases i with
        | zero => simp [hxc]
        | succ i => simpa using ih hl

theorem Step.select_sublist (s : Step) (d : Document) (h : Handle) :
    (s.select d h).Sublist (d.inside h) := by
  have hmatching : ((d.elements h).filter fun c => d.name c = s.name).Sublist (d.inside h) :=
    List.filter_sublist.trans (List.filter_sublist.trans (List.sublist_append_right _ _))
  unfold select
  cases s.position with
  | none => exact hmatching
  | some n => exact (List.take_sublist ..).trans ((List.drop_sublist ..).trans hmatching)

/-- A step selects the elements that it asks for. -/
theorem Step.mem_select_iff (hd : d.Consistent) (hs : s.position ≠ some 0) :
    c ∈ s.select d h ↔ s.Meets d h c := by
  have helements : (d.elements h).Nodup :=
    (hd.nodup_inside h).sublist (List.filter_sublist.trans (List.sublist_append_right _ _))
  unfold select
  cases hp : s.position with
  | none =>
    simp only [List.mem_filter, decide_eq_true_eq]
    exact ⟨fun hc => ⟨hc.1, hc.2, by simp [hp]⟩, fun hc => ⟨hc.inside, hc.named⟩⟩
  | some n =>
    have hn : n ≠ 0 := fun hn => hs (by rw [hp, hn])
    dsimp only
    rw [List.take_one, List.head?_drop, Option.mem_toList, getElem?_filter_eq_some_iff helements,
      decide_eq_true_eq]
    constructor
    · rintro ⟨⟨hc, hname⟩, hplace⟩
      refine ⟨hc, hname, ?_⟩
      intro m hm
      rw [hp, Option.some.injEq] at hm
      omega
    · rintro ⟨hc, hname, hplace⟩
      have := hplace n hp
      exact ⟨⟨hc, hname⟩, by omega⟩

/-! ## All steps -/

/-- What a path of these steps and this ending leads to from a node. -/
def selectFrom (d : Document) (ending : Option String) : List Step → Handle → List Handle
  | [], h => match ending with
    | none => [h]
    | some name => (d.attribute? h name).toList
  | s :: steps, h => (s.select d h).flatMap (selectFrom d ending steps)

/-- What is found level by level is what is found below one node after the other. -/
theorem select_eq_selectFrom (p : Path) (d : Document) :
    p.select d = selectFrom d p.ending p.steps Document.top := by
  have hlevels : ∀ (steps : List Step) (hs : List Handle),
      (match p.ending with
        | none => steps.foldl (fun hs s => hs.flatMap (s.select d)) hs
        | some name => (steps.foldl (fun hs s => hs.flatMap (s.select d)) hs).filterMap fun h =>
            d.attribute? h name) = hs.flatMap (selectFrom d p.ending steps) := by
    intro steps
    induction steps with
    | nil =>
      intro hs
      cases p.ending with
      | none => simp [selectFrom]
      | some name => simp [selectFrom, List.filterMap_eq_flatMap_toList]
    | cons s steps ih =>
      intro hs
      rw [List.foldl_cons, ih, List.flatMap_assoc]
      rfl
  have hall := hlevels p.steps [Document.top]
  rw [List.flatMap_singleton] at hall
  exact hall

/-- From a live node a path leads to nodes of its subtree, in document order. -/
theorem selectFrom_sublist (hd : d.Consistent) (ending : Option String) (hc : d.contains h = true) :
    (selectFrom d ending steps h).Sublist (d.subtree h) := by
  induction steps generalizing h with
  | nil =>
    cases ending with
    | none => simp [selectFrom, hd.subtree h, hc]
    | some name =>
      cases ha : d.attribute? h name with
      | none => simp [selectFrom, ha]
      | some a =>
        have hmem : a ∈ d.inside h :=
          Document.mem_inside.mpr (Or.inl (Document.mem_of_attribute?_eq_some ha).1)
        have hlive := Document.contains_of_parent? (hd.parent?_of_mem hmem)
        have hwalk : ([a].flatMap fun x => [x]).Sublist (d.subtree h) :=
          hd.sublist_subtree hc (List.singleton_sublist.mpr hmem) fun x hx => by
            simp [List.mem_singleton.mp hx, hd.subtree a, hlive]
        simpa [selectFrom, ha] using hwalk
  | cons s steps ih =>
    refine hd.sublist_subtree hc (s.select_sublist d h) ?_
    intro c hmem
    exact ih (Document.contains_of_isElement (Document.mem_elements.mp (Step.mem_select hmem).1).2)

/-- The steps lead from a node to another: through elements, each inside the one before, that they
ask for in turn. -/
inductive Leads (d : Document) : List Step → Handle → Handle → Prop
  | stay {h : Handle} : Leads d [] h h
  | step {s : Step} {steps : List Step} {h c k : Handle} :
      s.Meets d h c → Leads d steps c k → Leads d (s :: steps) h k

/-- The node is an element to which the steps lead from the document, or the attribute with the name
at the end of the path that such an element has. -/
def LeadsTo (p : Path) (d : Document) (k : Handle) : Prop :=
  match p.ending with
  | none => Leads d p.steps Document.top k
  | some name => ∃ e, Leads d p.steps Document.top e ∧ k ∈ d.attributes e ∧ d.name k = name

theorem leads_nil_iff : Leads d [] h k ↔ k = h := by
  constructor
  · rintro ⟨⟩
    rfl
  · rintro rfl
    exact .stay

theorem leads_cons_iff : Leads d (s :: steps) h k ↔ ∃ c, s.Meets d h c ∧ Leads d steps c k := by
  constructor
  · rintro ⟨⟩
    exact ⟨_, ‹_›, ‹_›⟩
  · rintro ⟨c, hc, hk⟩
    exact .step hc hk

theorem mem_selectFrom_iff (hd : d.Consistent) {ending : Option String}
    (hs : ∀ s ∈ steps, s.position ≠ some 0) :
    k ∈ selectFrom d ending steps h ↔ match ending with
      | none => Leads d steps h k
      | some name => ∃ e, Leads d steps h e ∧ k ∈ d.attributes e ∧ d.name k = name := by
  induction steps generalizing h with
  | nil =>
    cases ending with
    | none => simp [selectFrom, leads_nil_iff]
    | some name => simp [selectFrom, leads_nil_iff, hd.mem_attribute?_iff]
  | cons s steps ih =>
    obtain ⟨hfirst, hrest⟩ := List.forall_mem_cons.mp hs
    simp only [selectFrom, List.mem_flatMap, Step.mem_select_iff hd hfirst, ih hrest, leads_cons_iff]
    cases ending with
    | none => rfl
    | some name =>
      constructor
      · rintro ⟨c, hc, e, he, hk⟩
        exact ⟨e, ⟨c, hc, he⟩, hk⟩
      · rintro ⟨e, ⟨c, hc, he⟩, hk⟩
        exact ⟨c, hc, e, he, hk⟩

/-! ## Selections -/

/-- With a step a path leads to nodes of the document in document order, also where the document
node is dead. -/
theorem select_sublist (hd : d.Consistent) (hp : p.steps ≠ []) :
    (p.select d).Sublist (d.subtree Document.top) := by
  rw [select_eq_selectFrom]
  cases hc : d.contains Document.top with
  | true => exact selectFrom_sublist hd p.ending hc
  | false =>
    obtain ⟨s, steps, hsteps⟩ := List.exists_cons_of_ne_nil hp
    -- nothing is inside a dead node, so the first step finds nothing
    have hnone : s.select d Document.top = [] := by
      have hsub := s.select_sublist d Document.top
      rw [Document.inside, Document.attributes, Document.children,
        Document.node?_eq_none_of_not_contains hc] at hsub
      exact List.sublist_nil.mp hsub
    rw [hsteps, selectFrom, hnone]
    exact List.nil_sublist _

/-- Whether the node has an attribute of the name. -/
def bears (d : Document) (name : String) (e : Handle) : Bool :=
  (d.attributes e).any fun a => d.name a = name

/-- The attributes of one name belong to the elements that have one of this name, one to each. -/
theorem map_parent?_filterMap_attribute? (hd : d.Consistent) (name : String) (es : List Handle) :
    (es.filterMap (d.attribute? · name)).map d.parent? = (es.filter (bears d name)).map some := by
  induction es with
  | nil => rfl
  | cons e es ih =>
    rw [List.filterMap_cons, List.filter_cons]
    cases ha : d.attribute? e name with
    | none =>
      have hnone : bears d name e = false := by
        simpa [Document.attribute?, bears] using ha
      rw [hnone]
      exact ih
    | some a =>
      obtain ⟨hmem, hname⟩ := hd.mem_attribute?_iff.mp ha
      have hsome : bears d name e = true :=
        List.any_eq_true.mpr ⟨a, hmem, by simpa using hname⟩
      rw [hsome, if_pos rfl, List.map_cons, List.map_cons, ih, (hd.attributes hmem).2.1]

/-- However a document was made, a path that was read selects exactly the nodes to which it leads,
each of them once and in the order of the walk of the document. What it selects at an attribute are
the attributes of the elements to which its steps lead, in the order of these elements. -/
theorem select_exact {text : String} (hp : read text = .ok p) (hd : Made d) :
    (p.select d).Sublist (d.subtree Document.top) ∧ (d.subtree Document.top).Nodup ∧
      (∀ k, k ∈ p.select d ↔ p.LeadsTo d k) ∧
      ∀ name, p.ending = some name → (p.select d).map d.parent? =
        ((Path.select { p with ending := none } d).filter (bears d name)).map some := by
  have hcons := hd.consistent
  obtain ⟨hsteps, hpositions⟩ := steps_of_read hp
  refine ⟨select_sublist hcons hsteps, hcons.nodup_subtree _, ?_, ?_⟩
  · intro k
    rw [select_eq_selectFrom, mem_selectFrom_iff hcons hpositions]
    rfl
  · intro name hname
    rw [← map_parent?_filterMap_attribute? hcons]
    unfold select
    rw [hname]

/-- A kennel with dogs and a cat. -/
def kennel : Document :=
  Operation.run .empty [.createElement "kennel", .append Document.top ⟨1⟩, .createElement "dog",
    .createElement "dog", .setAttribute ⟨3⟩ "name" "Rex", .createElement "cat", .append ⟨1⟩ ⟨3⟩,
    .insertAfter ⟨1⟩ none ⟨5⟩, .insertAfter ⟨1⟩ (some ⟨5⟩) ⟨2⟩]

theorem select_kennel :
    ∃ p, read "kennel/dog[2]/@name" = .ok p ∧ Made kennel ∧ p.select kennel = [⟨4⟩] ∧
      ((p.select kennel).Sublist (kennel.subtree Document.top) ∧
        (kennel.subtree Document.top).Nodup ∧ (∀ k, k ∈ p.select kennel ↔ p.LeadsTo kennel k) ∧
        ∀ name, p.ending = some name → (p.select kennel).map kennel.parent? =
          ((Path.select { p with ending := none } kennel).filter (bears kennel name)).map some) := by
  have hread : read "kennel/dog[2]/@name" = .ok ⟨[⟨"kennel", none⟩, ⟨"dog", some 2⟩], some "name"⟩ := by
    decide +kernel
  have hmade : Made kennel := .run .empty (by simp [Operation.source?])
  exact ⟨_, hread, hmade, by decide +kernel, select_exact hread hmade⟩

end Path

end GuidedXml
