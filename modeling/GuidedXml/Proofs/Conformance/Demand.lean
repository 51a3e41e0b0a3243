/-
# What has to be there

What creation makes inside an element: elements as often as they have to be there, and of every choice
the first alternative.

The main statement says that in a flat and unambiguous content model this fills the content, with
every excuse that is at hand where a first alternative need not be there.
-/
import GuidedXml.Proofs.Conformance.Filling

namespace GuidedXml.Schema.ContentModel

variable {m : ContentModel} {c i j p : ConstraintId} {cs : List ConstraintId}

/-- How often an element has to be there if of every choice the first alternative is. -/
def demand (m : ContentModel) (j : ConstraintId) : Nat :=
  if (m.alternatives j).head?.all (· = j) then (m.occurs j).min else 0

/-- The elements of a content as often as they have to be there. -/
def demanded (m : ContentModel) (cs : List ConstraintId) : List ConstraintId :=
  cs.flatMap fun j => List.replicate (m.demand j) j

/-- What has to be there for a constraint inside another one. -/
def wanted (m : ContentModel) (c : ConstraintId) : List ConstraintId :=
  match m.kind? c with
  | some .element => List.replicate (m.occurs c).min c
  | some .attribute => []
  | some _ => m.demanded (m.contentElements c)
  | none => []

theorem demand_of_single (hj : m.alternatives j = []) : m.demand j = (m.occurs j).min := by
  rw [demand, hj]
  rfl

theorem demand_of_first (hj : (m.alternatives j).head? = some j) :
    m.demand j = (m.occurs j).min := by
  rw [demand, hj]
  simp

theorem demand_of_other {k : ConstraintId} (hk : (m.alternatives j).head? = some k) (hne : k ≠ j) :
    m.demand j = 0 := by
  rw [demand, hk]
  simp [hne]

/-- Outside choices what has to be there for the constraints inside is what the content demands. -/
theorem flatMap_wanted (hm : m.TreeShaped) (hi : m.kind? i ≠ some .choice) :
    (m.children i).flatMap m.wanted = m.demanded (m.contentElements i) := by
  rw [demanded, contentElements_eq hm, List.flatMap_assoc]
  apply List.flatMap_congr
  intro c hc
  obtain ⟨kind, hkind, hne⟩ := hm.kind?_of_mem hc
  rw [wanted, contentPart, hkind]
  cases kind with
  | element =>
    have hnone : m.choice? c = none := by
      rw [choice?, hm.parent?_of_mem hc]
      simp [Option.filter, hi]
    simp [demand_of_single (alternatives_eq_nil hnone)]
  | «attribute» => exact absurd rfl hne
  | sequence => rfl
  | choice => rfl
  | group => rfl

/-- A choice demands its first alternative alone. -/
theorem wanted_of_choice (hm : m.TreeShaped) (hf : m.FlatUnambiguous)
    (hp : m.kind? p = some .choice) {first : ConstraintId} {rest : List ConstraintId}
    (hcs : m.children p = first :: rest) : m.wanted p = m.wanted first := by
  have halts : ∀ j ∈ m.children p, m.alternatives j = first :: rest := by
    intro j hj
    rw [alternatives_of_choice? (hm.choice?_of_mem hp hj), hcs]
  have hself := hf.choice_elements p hp first (by rw [hcs]; exact List.mem_cons_self ..)
  have hnd := hm.nodup_children p
  rw [hcs, List.nodup_cons] at hnd
  have hrest : rest.flatMap (fun j => List.replicate (m.demand j) j) = [] := by
    apply List.flatMap_eq_nil_iff.mpr
    intro j hj
    rw [demand_of_other (k := first), List.replicate_zero]
    · rw [halts j (by rw [hcs]; exact List.mem_cons_of_mem _ hj)]
      rfl
    · rintro rfl
      exact hnd.1 hj
  rw [wanted, hp, wanted, hself]
  show m.demanded (m.contentElements p) = List.replicate (m.occurs first).min first
  rw [contentElements_of_choice hm hf hp, hcs, demanded, List.flatMap_cons, hrest,
    List.append_nil, demand_of_first]
  rw [halts first (by rw [hcs]; exact List.mem_cons_self ..)]
  rfl

/-- Of the alternatives of a choice the first one is demanded, and no other. -/
theorem exists_first (hm : m.TreeShaped) (hj : j ∈ m.alternatives j) :
    ∃ first, (m.alternatives j).head? = some first ∧ m.demand first = (m.occurs first).min ∧
      ∀ k ∈ m.alternatives j, k ≠ first → m.demand k = 0 := by
  obtain ⟨first, rest, hfirst⟩ := List.exists_cons_of_ne_nil (List.ne_nil_of_mem hj)
  have hmem : first ∈ m.alternatives j := by
    rw [hfirst]
    exact List.mem_cons_self ..
  have hhead : ∀ k ∈ m.alternatives j, (m.alternatives k).head? = some first := by
    intro k hk
    rw [hm.alternatives_congr hk, hfirst]
    rfl
  refine ⟨first, hhead j hj, demand_of_first (hhead first hmem), ?_⟩
  intro k hk hne
  exact demand_of_other (hhead k hk) hne.symm

theorem contains_min (hf : m.FlatUnambiguous) (j : ConstraintId) :
    (m.occurs j).contains (m.occurs j).min = true :=
  Occurs.contains_iff.mpr ⟨Nat.le_refl _, hf.min_le_max j⟩

/-- The excuse is at hand for every choice of which the first alternative need not be there. -/
def Excuse.Covers (x : Excuse) (m : ContentModel) : Prop :=
  ∀ cs names i first, (m.alternatives i).head? = some first → (m.occurs first).min = 0 →
    x m cs names i

theorem covers_strict (m : ContentModel) : Excuse.strict.Covers m :=
  fun _ _ _ first hfirst hzero => ⟨first, List.mem_of_mem_head? hfirst, hzero⟩

/-- Where first alternatives have to be there, no excuse is needed. -/
theorem covers_of_firmChoices (hf : m.FirmChoices) (x : Excuse) : x.Covers m := by
  intro cs names i first hfirst hzero
  cases hc : m.choice? i with
  | none =>
    rw [alternatives_eq_nil hc] at hfirst
    simp at hfirst
  | some p =>
    rw [alternatives_of_choice? hc] at hfirst
    have := hf p (choice?_eq_some_iff.mp hc).2 first hfirst
    omega

/-- What a content demands fills it. -/
theorem fills_demanded {x : Excuse} (hm : m.TreeShaped) (hf : m.FlatUnambiguous)
    (hx : x.Covers m) (hi : m.kind? i = some .element) :
    m.Fills x (m.contentElements i) ((m.demanded (m.contentElements i)).map m.name) := by
  have hc := isContent_contentElements hm hf hi
  have hnames : (m.demanded (m.contentElements i)).map m.name =
      (m.contentElements i).flatMap fun j => List.replicate (m.demand j) (m.name j) := by
    rw [demanded, List.map_flatMap]
    simp only [List.map_replicate]
  rw [hnames]
  have htally : ∀ j ∈ m.contentElements i, m.tally ((m.contentElements i).flatMap fun j =>
      List.replicate (m.demand j) (m.name j)) j = m.demand j := fun j hj =>
    tally_runs hc.nodup_names m.demand hj
  refine ⟨?_, ?_, ?_⟩
  · exact (inOrder_iff hc.nodup_names).mpr (ordered_runs hc.nodup_names m.demand)
  · intro j hj hin
    have hnone : m.choice? j = none := by
      rw [isInChoice, Option.isSome_eq_false_iff, Option.isNone_iff_eq_none] at hin
      exact hin
    rw [htally j hj, demand_of_single (alternatives_eq_nil hnone)]
    exact contains_min hf j
  · intro j hj hin
    have hself := hc.mem_alternatives j hj hin
    have hmem : ∀ k ∈ m.alternatives j, k ∈ m.contentElements i := hc.alternatives_mem j hj
    obtain ⟨first, hfirst, hdemand, hother⟩ := exists_first hm hself
    have hfa : first ∈ m.alternatives j := List.mem_of_mem_head? hfirst
    by_cases hzero : (m.occurs first).min = 0
    · refine Or.inr ⟨?_, hx _ _ j first hfirst hzero⟩
      intro k hk
      rw [htally k (hmem k hk)]
      by_cases hkf : k = first
      · rw [hkf, hdemand, hzero]
      · exact hother k hk hkf
    · refine Or.inl ⟨first, hfa, ?_, ?_, ?_⟩
      · rw [htally first (hmem first hfa), hdemand]
        exact hzero
      · rw [htally first (hmem first hfa), hdemand]
        exact contains_min hf first
      · intro l hl hne
        rw [htally l (hmem l hl)]
        exact hother l hl hne

end GuidedXml.Schema.ContentModel
