/-
# Where parameters lead

A path sees nothing but the attached nodes: their names, their attributes and the elements inside
them. So a parameter leads to the same node, with the same value, as long as these stay what they
are.

The main statements say which changes of a document leave all parameters of a rule where they are:
those that keep the attached nodes, and those of a value that no parameter leads to.
-/
import GuidedXml.Proofs.Document.Attachment
import GuidedXml.Proofs.Document.Showing
import GuidedXml.Proofs.Document.Surroundings
import GuidedXml.Rule.Basic

namespace GuidedXml

open Document (Within)

variable {d d' : Document} {h k : Handle}

/-! ## Attached nodes that are kept -/

namespace Document

/-- The attached nodes are the same in the second document. -/
def Keeps (d d' : Document) : Prop :=
  ∀ k, d.Within top k → d'.node? k = d.node? k

/-- What is in the document stays in it. -/
theorem Keeps.within (hk : d.Keeps d') (hw : d.Within top k) : d'.Within top k := by
  induction hw with
  | self hc =>
    have hsame := lookups_congr (hk top (Within.self hc))
    exact Within.self (by rwa [contains_congr hsame.1])
  | @step p k hw hp ih =>
    refine ih.step ?_
    rw [(lookups_congr (hk k (hw.step hp))).2.2.1, hp]

/-- New nodes come without a place. -/
theorem Extends.keeps (he : Extends d d') : d.Keeps d' :=
  fun k hk => he.node? k (index_lt_of_contains hk.contains)

/-- What is discarded has lost its place before. -/
theorem Pruned.keeps (hr : Pruned d d' h) (hd : d.Linked) (hp : d.parent? h = none)
    (hne : h ≠ top) : d.Keeps d' :=
  fun k hk => hr.kept k (hd.not_within_of_detached hk hp hne)

end Document

/-! ## Paths -/

/-- Along every path the same is found in the second document. -/
structure Document.SamePaths (d d' : Document) : Prop where
  elements : ∀ k, d.Within top k → d'.elements k = d.elements k
  attributes : ∀ k, d.Within top k → d'.attributes k = d.attributes k
  name : ∀ k, d.Within top k → d'.name k = d.name k

namespace Document

/-- What is inside of a node of the document is in it. -/
theorem within_of_mem_inside (hd : d.Linked) (hw : d.Within top h) (hk : k ∈ d.inside h) :
    d.Within top k :=
  hw.step (hd.parent?_of_mem hk)

/-- The elements of a node of the document are in it. -/
theorem within_of_mem_elements (hd : d.Linked) (hw : d.Within top h) (hk : k ∈ d.elements h) :
    d.Within top k :=
  hw.step (hd.parent?_of_mem_elements hk)

/-- Where nodes are kept, paths lead to the same. -/
theorem Keeps.samePaths (hk : d.Keeps d') (hd : d.Linked) : d.SamePaths d' where
  elements := by
    intro k hw
    refine elements_congr (lookups_congr (hk k hw)).2.2.2.2 ?_
    intro c hc
    have hin := mem_inside.mpr (Or.inr hc)
    exact (lookups_congr (hk c (within_of_mem_inside hd hw hin))).1
  attributes := fun k hw => (lookups_congr (hk k hw)).2.2.2.1
  name := fun k hw => (lookups_congr (hk k hw)).2.1

/-- A step from a node of the document leads to the same. -/
theorem SamePaths.step (hs : d.SamePaths d') (hd : d.Linked) (step : Path.Step)
    (hw : d.Within top h) : step.select d' h = step.select d h := by
  have hfilter : (d'.elements h).filter (fun c => d'.name c = step.name) =
      (d.elements h).filter fun c => d.name c = step.name := by
    rw [hs.elements h hw]
    apply List.filter_congr
    intro c hc
    rw [hs.name c (within_of_mem_elements hd hw hc)]
  unfold Path.Step.select
  rw [hfilter]

/-- An attribute of a node of the document is found by the same name. -/
theorem SamePaths.attribute? (hs : d.SamePaths d') (hd : d.Linked) (name : String)
    (hw : d.Within top h) : d'.attribute? h name = d.attribute? h name := by
  unfold Document.attribute?
  rw [hs.attributes h hw]
  apply List.find?_congr
  intro a ha
  rw [hs.name a (within_of_mem_inside hd hw (mem_inside.mpr (Or.inl ha)))]

end Document

/-- A path leads along attached nodes, and the same way wherever these look the same. -/
theorem Path.foldl_steps (hd : d.Linked) (d' : Document) (steps : List Path.Step)
    {hs : List Handle} (hhs : ∀ h ∈ hs, d.Within Document.top h ∧ d.isText h = false) :
    (∀ h ∈ steps.foldl (fun hs s => hs.flatMap (s.select d)) hs,
      d.Within Document.top h ∧ d.isText h = false) ∧
    (d.SamePaths d' → steps.foldl (fun hs s => hs.flatMap (s.select d')) hs =
      steps.foldl (fun hs s => hs.flatMap (s.select d)) hs) := by
  induction steps generalizing hs with
  | nil => exact ⟨hhs, fun _ => rfl⟩
  | cons step steps ih =>
    have hnext : ∀ h ∈ hs.flatMap (step.select d), d.Within Document.top h ∧ d.isText h = false := by
      intro h hh
      obtain ⟨x, hx, hh⟩ := List.mem_flatMap.mp hh
      have hin := (Step.mem_select hh).1
      refine ⟨Document.within_of_mem_elements hd (hhs x hx).1 hin, ?_⟩
      have hkind : d.kind? h = some .element := by
        simpa [Document.isElement] using (Document.mem_elements.mp hin).2
      simp [Document.isText, hkind]
    obtain ⟨hlive, hsame⟩ := ih hnext
    refine ⟨hlive, fun hp => ?_⟩
    rw [List.foldl_cons, List.foldl_cons, ← hsame hp]
    congr 1
    exact List.flatMap_congr fun x hx => hp.step hd step (hhs x hx).1

/-- A path leads to attached nodes that are no texts. -/
theorem Path.within_of_mem_select (hd : d.Linked) {p : Path} (hk : k ∈ p.select d) :
    d.Within Document.top k ∧ d.isText k = false := by
  have htop : ∀ h ∈ [Document.top], d.Within Document.top h ∧ d.isText h = false := by
    intro h hh
    rw [List.mem_singleton.mp hh]
    exact ⟨Within.self hd.contains_top, by simp [Document.isText, hd.kind?_top]⟩
  have hall := (Path.foldl_steps hd d p.steps htop).1
  unfold select at hk
  dsimp only at hk
  cases he : p.ending with
  | none =>
    rw [he] at hk
    exact hall k hk
  | some name =>
    rw [he] at hk
    obtain ⟨h, hh, ha⟩ := List.mem_filterMap.mp hk
    have hmem := (Document.mem_of_attribute?_eq_some ha).1
    refine ⟨Document.within_of_mem_inside hd (hall h hh).1
      (Document.mem_inside.mpr (Or.inl hmem)), ?_⟩
    have hkind : d.kind? k = some .attribute := by
      simpa [Document.isAttribute] using (hd.kinds_of_attribute hmem).1
    simp [Document.isText, hkind]

/-- A path selects the same. -/
theorem Document.SamePaths.select (hs : d.SamePaths d') (hd : d.Linked) (p : Path) :
    p.select d' = p.select d := by
  have htop : ∀ h ∈ [Document.top], d.Within Document.top h ∧ d.isText h = false := by
    intro h hh
    rw [List.mem_singleton.mp hh]
    exact ⟨Within.self hd.contains_top, by simp [Document.isText, hd.kind?_top]⟩
  obtain ⟨hall, hsame⟩ := Path.foldl_steps hd d' p.steps htop
  unfold Path.select
  dsimp only
  rw [hsame hs]
  cases p.ending with
  | none => rfl
  | some name => exact List.filterMap_congr fun h hh => hs.attribute? hd name (hall h hh).1

/-! ## Parameters -/

namespace Parameter

variable {p : Parameter} {value : String}

/-- A parameter leads to attached nodes that are no texts. -/
theorem within_of_resolve? (hd : d.Linked) (hp : p.resolve? d = some (k, value)) :
    d.Within Document.top k ∧ d.isText k = false := by
  unfold resolve? at hp
  split at hp
  · simp at hp
  · obtain ⟨x, hx, heq⟩ := Option.map_eq_some_iff.mp hp
    obtain rfl := (Prod.mk.inj heq).1
    exact Path.within_of_mem_select hd (List.mem_of_mem_head? hx)

/-- A parameter leads to the same node with the same value, if paths lead where they led and the
node shows what it showed. -/
theorem resolve?_congr (hs : d.SamePaths d') (hd : d.Linked)
    (hv : ∀ k value, p.resolve? d = some (k, value) → d'.value k = d.value k) :
    p.resolve? d' = p.resolve? d := by
  unfold resolve? at hv ⊢
  split
  · rfl
  · rename_i path hpath
    rw [hpath] at hv
    dsimp only at hv
    rw [Path.selectFirst?, hs.select hd, ← Path.selectFirst?]
    cases hsel : path.selectFirst? d with
    | none => rfl
    | some k =>
      have hk := hv k _ (by rw [hsel]; rfl)
      rw [Option.map_some, Option.map_some, hk]

end Parameter

/-! ## Rules -/

/-- What comes twice in a list without repetitions is nothing. -/
theorem eraseDups_eraseDups {α : Type} [DecidableEq α] :
    ∀ l : List α, l.eraseDups.eraseDups = l.eraseDups
  | [] => rfl
  | a :: as => by
    have hfilter : ((as.filter fun b => !b == a).eraseDups.filter fun b => !b == a) =
        (as.filter fun b => !b == a).eraseDups :=
      List.filter_eq_self.mpr fun b hb => (List.mem_filter.mp (List.mem_eraseDups.mp hb)).2
    rw [List.eraseDups_cons, List.eraseDups_cons, hfilter, eraseDups_eraseDups]
termination_by l => l.length
decreasing_by exact Nat.lt_succ_of_le (List.length_filter_le _ _)

/-- Leaving out duplicates makes no list longer. -/
theorem length_eraseDups_le {α : Type} [DecidableEq α] :
    ∀ l : List α, l.eraseDups.length ≤ l.length
  | [] => Nat.le_refl _
  | a :: as => by
    rw [List.eraseDups_cons, List.length_cons, List.length_cons, Nat.add_le_add_iff_right]
    exact Nat.le_trans (length_eraseDups_le (as.filter fun b => !b == a))
      (List.length_filter_le _ _)
termination_by l => l.length
decreasing_by exact Nat.lt_succ_of_le (List.length_filter_le _ _)

namespace Rule

variable {r : Rule}

/-- A rule leads to the nodes that its parameters are resolved to. -/
theorem mem_nodes : k ∈ r.nodes d ↔
    ∃ p ∈ r.parameters, ∃ value, p.resolve? d = some (k, value) := by
  unfold nodes
  simp only [List.mem_eraseDups, List.mem_filterMap, Option.map_eq_some_iff, Prod.exists]
  constructor
  · rintro ⟨p, hp, _, value, hv, rfl⟩
    exact ⟨p, hp, value, hv⟩
  · rintro ⟨p, hp, value, hv⟩
    exact ⟨p, hp, k, value, hv, rfl⟩

/-- The nodes of a rule are listed once. -/
theorem eraseDups_nodes (r : Rule) (d : Document) : (r.nodes d).eraseDups = r.nodes d :=
  eraseDups_eraseDups _

/-- Every parameter leads to one node at most. -/
theorem length_nodes_le (r : Rule) (d : Document) : (r.nodes d).length ≤ r.parameters.length :=
  Nat.le_trans (length_eraseDups_le _) (List.length_filterMap_le _ _)

/-- A rule leads to nodes of the document only. -/
theorem within_of_mem_nodes (hd : d.Linked) (hk : k ∈ r.nodes d) : d.Within Document.top k := by
  obtain ⟨p, -, value, hp⟩ := mem_nodes.mp hk
  exact (Parameter.within_of_resolve? hd hp).1

/-- All parameters lead to the same nodes, with the same values, in both documents. -/
def Stays (r : Rule) (d d' : Document) : Prop :=
  ∀ p ∈ r.parameters, p.resolve? d' = p.resolve? d

instance (r : Rule) (d d' : Document) : Decidable (r.Stays d d') :=
  inferInstanceAs (Decidable (∀ p ∈ r.parameters, p.resolve? d' = p.resolve? d))

namespace Stays

/-- A rule that stays leads to the same nodes. -/
theorem nodes (hs : r.Stays d d') : r.nodes d' = r.nodes d := by
  have hmap : r.parameters.filterMap (fun p => (p.resolve? d').map Prod.fst) =
      r.parameters.filterMap fun p => (p.resolve? d).map Prod.fst :=
    List.filterMap_congr fun p hp => congrArg (Option.map Prod.fst) (hs p hp)
  rw [Rule.nodes, Rule.nodes, hmap]

/-- A rule says the same of documents in which its parameters lead to the same. -/
theorem holds (hs : r.Stays d d') : r.holds d' = r.holds d := by
  have hvalues : r.values d' = r.values d := by
    funext id
    rw [values, values]
    refine Option.bind_congr fun p hp => ?_
    rw [hs p (List.mem_of_find?_eq_some hp)]
  have hliteral : r.literalHolds d' = r.literalHolds d := by
    funext l
    rw [literalHolds, literalHolds, hvalues]
  rw [Rule.holds, Rule.holds, premiseHolds, premiseHolds, hliteral]

end Stays

/-- Parameters lead where they led, as long as the attached nodes are kept. -/
theorem stays_of_keeps (hk : d.Keeps d') (hd : d.Linked) (r : Rule) : r.Stays d d' := by
  intro p _
  refine Parameter.resolve?_congr (hk.samePaths hd) hd ?_
  intro k value hp
  have hw := (Parameter.within_of_resolve? hd hp).1
  have hsame := Document.lookups_congr (hk k hw)
  have hin : ∀ c ∈ d.children k, d'.node? c = d.node? c := fun c hc =>
    hk c (Document.within_of_mem_inside hd hw (Document.mem_inside.mpr (Or.inr hc)))
  refine Document.value_congr hsame.1 ?_ ?_ ?_
  · rw [Document.stored, Document.stored, hk k hw]
  · exact Document.firstText?_congr hsame.2.2.2.2 fun c hc => (Document.lookups_congr (hin c hc)).1
  · intro t ht
    rw [Document.stored, Document.stored, hin t (List.mem_of_find?_eq_some ht)]

/-- Parameters lead where they led while the value of a node changes that none of them leads to. -/
theorem stays_of_setValue (hd : d.Orderly) {value : String} (hs : d.setValue h value = .ok d')
    (ht : d.isText h = false) (hn : h ∉ r.nodes d) : r.Stays d d' := by
  have hvalues := (Document.value_setValue hd hs ht).2
  have hpaths : d.SamePaths d' := by
    refine ⟨fun k hw => ?_, fun k hw => ?_, fun k hw => ?_⟩
    · exact (Document.undisturbed_of_setValue hd hs hw.contains).elements
    · exact Document.attributes_setValue hs hw.contains
    · exact (Document.undisturbed_of_setValue hd hs hw.contains).name
  intro p hp
  refine Parameter.resolve?_congr hpaths hd.toLinked ?_
  intro k shown hk
  obtain ⟨hw, htext⟩ := Parameter.within_of_resolve? hd.toLinked hk
  refine hvalues k hw.contains htext ?_
  rintro rfl
  exact hn (mem_nodes.mpr ⟨p, hp, shown, hk⟩)

end Rule

end GuidedXml
