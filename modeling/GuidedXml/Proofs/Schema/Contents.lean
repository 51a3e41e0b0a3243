/-
# Contents

The elements of one content, in order: their names are distinct, and the alternatives of a choice
stand next to each other.

The main statement says that every content of a flat and unambiguous content model is of this kind. In
any content model no element is in a content twice.
-/
import GuidedXml.Proofs.Schema.Shape
import Mathlib.Logic.Relation

namespace GuidedXml.Schema.ContentModel

variable {m : ContentModel} {i j k p q : ConstraintId} {js cs : List ConstraintId}

/-! ## Places -/

/-- The constraint is the other one, or stands somewhere inside it. -/
def Under (m : ContentModel) : ConstraintId → ConstraintId → Prop :=
  Relation.ReflTransGen fun p j => j ∈ m.children p

namespace TreeShaped

/-- A constraint comes no later than those under it. -/
theorem index_le_of_under (hm : m.TreeShaped) (hu : m.Under p j) : p.index ≤ j.index := by
  induction hu with
  | refl => exact Nat.le_refl _
  | tail _ hj ih => exact Nat.le_trans ih (Nat.le_of_lt (hm.index_lt_of_mem hj))

/-- No constraint stands inside two that are inside the same one. -/
theorem eq_of_under (hm : m.TreeShaped) (hp : p ∈ m.children i) (hq : q ∈ m.children i)
    (hpj : m.Under p j) (hqj : m.Under q j) : p = q := by
  -- what is inside the same one is not inside each other, for it came later
  have hout : ∀ {a b l}, a ∈ m.children i → b ∈ m.children i → m.Under a l → b ∉ m.children l := by
    intro a b l ha hb hal hbl
    obtain rfl : l = i := Option.some.inj ((hm.parent?_of_mem hbl).symm.trans (hm.parent?_of_mem hb))
    exact absurd (hm.index_le_of_under hal) (Nat.not_le.mpr (hm.index_lt_of_mem ha))
  induction hpj with
  | refl =>
    rcases Relation.ReflTransGen.cases_tail hqj with heq | ⟨l, hql, hl⟩
    · exact heq
    · exact absurd hl (hout hq hp hql)
  | @tail l j hpl hl ih =>
    rcases Relation.ReflTransGen.cases_tail hqj with rfl | ⟨l', hql, hl'⟩
    · exact absurd hl (hout hp hq hpl)
    · obtain rfl : l = l' :=
        Option.some.inj ((hm.parent?_of_mem hl).symm.trans (hm.parent?_of_mem hl'))
      exact ih hql

/-- The elements of a content stand inside, each of them once. -/
theorem under_and_nodup (hm : m.TreeShaped) (i : ConstraintId) :
    (∀ j ∈ m.contentElements i, m.Under i j) ∧ (m.contentElements i).Nodup := by
  -- what is inside came later, so the induction is on the number of later constraints
  obtain ⟨n, hn⟩ : ∃ n, m.entries.size - i.index ≤ n := ⟨_, Nat.le_refl _⟩
  induction n generalizing i with
  | zero =>
    rw [contentElements_eq hm, children_eq_nil_of_le (by omega)]
    simp
  | succ n ih =>
    have hpart : ∀ c ∈ m.children i,
        (∀ j ∈ m.contentPart c, m.Under c j) ∧ (m.contentPart c).Nodup := by
      intro c hc
      have hlt := hm.index_lt_of_mem hc
      unfold contentPart
      split
      · refine ⟨fun j hj => ?_, List.nodup_singleton c⟩
        rw [List.mem_singleton.mp hj]
        exact Relation.ReflTransGen.refl
      · simp
      · exact ih c (by omega)
      · simp
    rw [contentElements_eq hm]
    refine ⟨fun j hj => ?_, ?_⟩
    · obtain ⟨c, hc, hjc⟩ := List.mem_flatMap.mp hj
      exact Relation.ReflTransGen.head hc ((hpart c hc).1 j hjc)
    · rw [List.nodup_flatMap]
      refine ⟨fun c hc => (hpart c hc).2, (hm.nodup_children i).pairwise_of_forall_ne ?_⟩
      intro p hp q hq hne j hjp hjq
      exact hne (hm.eq_of_under hp hq ((hpart p hp).1 j hjp) ((hpart q hq).1 j hjq))

/-- No content element is listed twice. -/
theorem nodup_contentElements (hm : m.TreeShaped) (i : ConstraintId) :
    (m.contentElements i).Nodup :=
  (hm.under_and_nodup i).2

end TreeShaped

/-! ## Alternatives -/

/-- The choice of a constraint is its parent, if that is a choice. -/
theorem choice?_eq_some_iff : m.choice? j = some p ↔
    m.parent? j = some p ∧ m.kind? p = some .choice := by
  rw [choice?, Option.filter_eq_some_iff]
  simp

/-- The alternatives are the children of the choice. -/
theorem alternatives_of_choice? (hc : m.choice? j = some p) : m.alternatives j = m.children p := by
  rw [alternatives, hc]
  rfl

/-- Without a choice there are no alternatives. -/
theorem alternatives_eq_nil (hc : m.choice? j = none) : m.alternatives j = [] := by
  rw [alternatives, hc]
  rfl

/-- What has alternatives is in a choice. -/
theorem isInChoice_of_mem_alternatives (hk : k ∈ m.alternatives j) : m.isInChoice j = true := by
  cases hc : m.choice? j with
  | none => rw [alternatives_eq_nil hc] at hk; simp at hk
  | some p => rw [isInChoice, hc]; rfl

/-- The children of a choice have it as their choice. -/
theorem TreeShaped.choice?_of_mem (hm : m.TreeShaped) (hp : m.kind? p = some .choice)
    (hj : j ∈ m.children p) : m.choice? j = some p :=
  choice?_eq_some_iff.mpr ⟨hm.parent?_of_mem hj, hp⟩

/-- Alternatives of one choice have the same alternatives. -/
theorem TreeShaped.alternatives_congr (hm : m.TreeShaped) (hk : k ∈ m.alternatives j) :
    m.alternatives k = m.alternatives j := by
  cases hc : m.choice? j with
  | none => rw [alternatives_eq_nil hc] at hk; simp at hk
  | some p =>
    rw [alternatives_of_choice? hc] at hk ⊢
    exact alternatives_of_choice? (hm.choice?_of_mem (choice?_eq_some_iff.mp hc).2 hk)

/-- Where the content model is flat, alternatives are elements. -/
theorem FlatUnambiguous.kind?_of_mem_alternatives (hf : m.FlatUnambiguous)
    (hk : k ∈ m.alternatives j) : m.kind? k = some .element := by
  cases hc : m.choice? j with
  | none => rw [alternatives_eq_nil hc] at hk; simp at hk
  | some p =>
    rw [alternatives_of_choice? hc] at hk
    exact hf.choice_elements p (choice?_eq_some_iff.mp hc).2 k hk

/-! ## Grouped lists -/

/-- Behind a constraint its other alternatives come first. -/
def Grouped (m : ContentModel) : List ConstraintId → Prop
  | [] => True
  | j :: js => js.dropWhile (m.alternatives j).contains =
      js.filter (fun k => !(m.alternatives j).contains k) ∧ Grouped m js

/-- What is left at the end of a grouped list is grouped. -/
theorem Grouped.of_suffix (hg : Grouped m cs) (hs : js <:+ cs) : Grouped m js := by
  obtain ⟨xs, rfl⟩ := hs
  induction xs with
  | nil => exact hg
  | cons x xs ih => exact ih hg.2

/-- The alternatives of a choice can be put before a grouped list that has none of them. -/
theorem grouped_append (hm : m.TreeShaped) (hp : m.kind? p = some .choice)
    (hjs : ∀ j ∈ js, j ∈ m.children p) (hg : Grouped m cs) (hcs : ∀ k ∈ cs, k ∉ m.children p) :
    Grouped m (js ++ cs) := by
  induction js with
  | nil => exact hg
  | cons j js ih =>
    have halts := alternatives_of_choice? (hm.choice?_of_mem hp (hjs j (List.mem_cons_self ..)))
    have hin : ∀ k ∈ js, (m.children p).contains k = true := fun k hk =>
      List.contains_iff_mem.mpr (hjs k (List.mem_cons_of_mem _ hk))
    have hout : ∀ k ∈ cs, (m.children p).contains k = false := by
      intro k hk
      rw [Bool.eq_false_iff]
      exact fun hc => hcs k hk (List.contains_iff_mem.mp hc)
    refine ⟨?_, ih fun k hk => hjs k (List.mem_cons_of_mem _ hk)⟩
    show (js ++ cs).dropWhile (m.alternatives j).contains =
      (js ++ cs).filter fun k => !(m.alternatives j).contains k
    rw [halts, List.dropWhile_append_of_pos hin, List.filter_append]
    have hnone : js.filter (fun k => !(m.children p).contains k) = [] := by
      rw [List.filter_eq_nil_iff]
      intro k hk
      rw [hin k hk]
      simp
    have hall : cs.filter (fun k => !(m.children p).contains k) = cs := by
      rw [List.filter_eq_self]
      intro k hk
      rw [hout k hk]
      rfl
    rw [hnone, hall, List.nil_append]
    cases cs with
    | nil => rfl
    | cons c cs =>
      rw [List.dropWhile_cons, hout c (List.mem_cons_self ..)]
      rfl

/-- Blocks one after the other are grouped. -/
theorem grouped_flatten (hm : m.TreeShaped) {bs : List (List ConstraintId)}
    (hbs : ∀ b ∈ bs, IsBlock m b) (hnd : bs.flatten.Nodup) : Grouped m bs.flatten := by
  induction bs with
  | nil => trivial
  | cons b bs ih =>
    rw [List.flatten_cons] at hnd ⊢
    have hrest := ih (fun b' hb' => hbs b' (List.mem_cons_of_mem _ hb'))
      (List.nodup_append.mp hnd).2.1
    cases hbs b (List.mem_cons_self ..) with
    | @single j hk hc =>
      -- a single element has no alternatives, so nothing is dropped and all is kept
      refine ⟨?_, hrest⟩
      show bs.flatten.dropWhile (m.alternatives j).contains =
        bs.flatten.filter fun k => !(m.alternatives j).contains k
      rw [alternatives_eq_nil hc]
      have hfalse : ∀ k : ConstraintId, ([] : List ConstraintId).contains k = false := fun _ => rfl
      rw [List.filter_eq_self.mpr (by simp)]
      cases bs.flatten with
      | nil => rfl
      | cons c cs => rw [List.dropWhile_cons, hfalse]; rfl
    | @choice p hp =>
      refine grouped_append hm hp (fun j hj => hj) hrest ?_
      intro k hk hkp
      exact (List.nodup_append.mp hnd).2.2 k hkp k hk rfl

/-! ## Contents -/

/-- The elements of a content. -/
structure IsContent (m : ContentModel) (cs : List ConstraintId) : Prop where
  kind? : ∀ j ∈ cs, m.kind? j = some .element
  nodup_names : (cs.map m.name).Nodup
  mem_alternatives : ∀ j ∈ cs, m.isInChoice j = true → j ∈ m.alternatives j
  alternatives_mem : ∀ j ∈ cs, ∀ k ∈ m.alternatives j, k ∈ cs
  grouped : Grouped m cs

namespace IsContent

/-- The constraints of a content are distinct. -/
theorem nodup (hc : IsContent m cs) : cs.Nodup :=
  List.Nodup.of_map _ hc.nodup_names

/-- A constraint is one of its alternatives if it has any. -/
theorem self_mem_alternatives (hc : IsContent m cs) (hj : j ∈ cs) (hk : k ∈ m.alternatives j) :
    j ∈ m.alternatives j :=
  hc.mem_alternatives j hj (isInChoice_of_mem_alternatives hk)

/-- Being alternatives is mutual. -/
theorem mem_alternatives_comm (hc : IsContent m cs) (hm : m.TreeShaped) (hj : j ∈ cs)
    (hk : k ∈ m.alternatives j) : j ∈ m.alternatives k := by
  rw [hm.alternatives_congr hk]
  exact hc.self_mem_alternatives hj hk

/-- Constraints of a content with one name are one. -/
theorem name_inj (hc : IsContent m cs) (hj : j ∈ cs) (hk : k ∈ cs) (hn : m.name j = m.name k) :
    j = k :=
  List.inj_on_of_nodup_map hc.nodup_names hj hk hn

end IsContent

/-- The elements of the content of a constraint that is no choice. -/
theorem isContent_contentElements (hm : m.TreeShaped) (hf : m.FlatUnambiguous)
    (hi : m.kind? i = some .element) : IsContent m (m.contentElements i) := by
  have hnames := hf.nodup_names i hi
  have hnd : (m.contentElements i).Nodup := List.Nodup.of_map _ hnames
  obtain ⟨bs, hbs, hblocks⟩ := blocked_contentElements hm hf i (by rw [hi]; simp)
  have hmem : ∀ j ∈ m.contentElements i, ∃ b ∈ bs, j ∈ b ∧ IsBlock m b := by
    intro j hj
    rw [hbs] at hj
    obtain ⟨b, hb, hjb⟩ := List.mem_flatten.mp hj
    exact ⟨b, hb, hjb, hblocks b hb⟩
  -- what is said of one constraint is seen in its block
  refine ⟨?_, hnames, ?_, ?_, ?_⟩
  · intro j hj
    obtain ⟨b, -, hjb, hblock⟩ := hmem j hj
    cases hblock with
    | single hk _ => rw [List.mem_singleton.mp hjb, hk]
    | choice hp => exact hf.choice_elements _ hp j hjb
  · intro j hj hin
    obtain ⟨b, -, hjb, hblock⟩ := hmem j hj
    cases hblock with
    | single _ hc =>
      rw [isInChoice, List.mem_singleton.mp hjb, hc] at hin
      simp at hin
    | choice hq =>
      rw [alternatives_of_choice? (hm.choice?_of_mem hq hjb)]
      exact hjb
  · intro j hj k hk
    obtain ⟨b, hb, hjb, hblock⟩ := hmem j hj
    cases hblock with
    | single _ hc =>
      rw [List.mem_singleton.mp hjb, alternatives_eq_nil hc] at hk
      simp at hk
    | choice hq =>
      rw [alternatives_of_choice? (hm.choice?_of_mem hq hjb)] at hk
      rw [hbs]
      exact List.mem_flatten.mpr ⟨_, hb, hk⟩
  · rw [hbs] at hnd ⊢
    exact grouped_flatten hm hblocks hnd

end GuidedXml.Schema.ContentModel
