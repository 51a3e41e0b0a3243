/-
# Walks

The walk up to the nodes above a node and the walk down to those below it. In a forest both of them
end before they have taken as many steps as there are slots.

The main statements are the equations of the two walks, which do not speak of the number of steps,
and that neither links upwards nor links downwards can be followed for ever.
-/
import GuidedXml.Proofs.Document.Attachment

namespace GuidedXml.Document

variable {d : Document} {h k p c : Handle}

/-! ## Upwards -/

/-- A walk upwards finds the same nodes with every number of steps that is no less than the depth of
the node. -/
theorem ancestorsAux_eq_of_depth {depth : Handle → Nat}
    (hd : ∀ k p, d.parent? k = some p → depth p < depth k) {m n : Nat} (hm : depth h ≤ m)
    (hn : depth h ≤ n) : d.ancestorsAux m h = d.ancestorsAux n h := by
  induction m generalizing h n with
  | zero =>
    -- nothing lies above a node of depth zero
    have hp : d.parent? h = none := by
      cases hp : d.parent? h with
      | none => rfl
      | some p =>
        have := hd h p hp
        omega
    cases n with
    | zero => rfl
    | succ n => rw [ancestorsAux, ancestorsAux, hp]
  | succ m ih =>
    cases hp : d.parent? h with
    | none => cases n <;> simp [ancestorsAux, hp]
    | some p =>
      have hlt := hd h p hp
      obtain ⟨n, rfl⟩ : ∃ n', n = n' + 1 := ⟨n - 1, by omega⟩
      rw [ancestorsAux, ancestorsAux, hp]
      exact congrArg (p :: ·) (ih (by omega) (by omega))

/-- A path upwards is found by a walk of as many steps as the node is deep. -/
theorem mem_ancestorsAux_of_depth {depth : Handle → Nat}
    (hd : ∀ k p, d.parent? k = some p → depth p < depth k) (hw : d.Within k h) {n : Nat}
    (hn : depth h ≤ n) : h = k ∨ k ∈ d.ancestorsAux n h := by
  induction hw generalizing n with
  | self _ => exact Or.inl rfl
  | @step p h hw hp ih =>
    have hlt := hd h p hp
    obtain ⟨n, rfl⟩ : ∃ n', n = n' + 1 := ⟨n - 1, by omega⟩
    right
    rw [ancestorsAux, hp]
    rcases ih (show depth p ≤ n by omega) with rfl | hm
    · exact List.mem_cons_self ..
    · exact List.mem_cons_of_mem _ hm

namespace Forest

theorem mem_ancestors_of_within (hd : d.Forest) (hw : d.Within k h) :
    h = k ∨ k ∈ d.ancestors h := by
  obtain ⟨depth, hlt, hsize⟩ := hd.exists_depth
  exact mem_ancestorsAux_of_depth hlt hw (Nat.le_of_lt (hsize h hw.contains))

/-- Above a node there are its parent and what is above the parent. -/
theorem ancestors_eq (hd : d.Forest) (h : Handle) :
    d.ancestors h = match d.parent? h with
      | none => []
      | some p => p :: d.ancestors p := by
  obtain ⟨depth, hlt, hsize⟩ := hd.exists_depth
  cases hp : d.parent? h with
  | none => cases hs : d.slots.size <;> simp [ancestors, hs, ancestorsAux, hp]
  | some p =>
    have hh := hsize h (contains_of_parent? hp)
    have hph := hlt h p hp
    have hstep : d.ancestors h = d.ancestorsAux (d.slots.size + 1) h :=
      ancestorsAux_eq_of_depth hlt (by omega) (by omega)
    rw [hstep, ancestorsAux, hp]
    rfl

/-- A node that may be placed under a parent does not lie above it. -/
theorem not_within_of_placeable (hd : d.Forest) (hpl : d.Placeable p c) : ¬ d.Within c p := by
  intro hw
  apply hpl.not_above
  rcases hd.mem_ancestors_of_within hw with rfl | hm
  · exact List.mem_cons_self ..
  · exact List.mem_cons_of_mem _ hm

end Forest

/-! ## Downwards -/

theorem subtreeAux_eq_of_contains (hc : d.contains h = true) (n : Nat) :
    d.subtreeAux (n + 1) h = h :: (d.inside h).flatMap (d.subtreeAux n) := by
  obtain ⟨node, hn⟩ := contains_iff.mp hc
  rw [subtreeAux, hn]
  simp [inside, attributes, children, hn]

theorem subtreeAux_of_not_contains (hc : d.contains h = false) (n : Nat) :
    d.subtreeAux n h = [] := by
  have hn : d.node? h = none := by simpa [contains] using hc
  cases n with
  | zero => rfl
  | succ n => rw [subtreeAux, hn]

/-- A walk downwards finds the same nodes with every number of steps that is greater than the height
of the node. -/
theorem Linked.subtreeAux_eq_of_height (hd : d.Linked) {height : Handle → Nat}
    (hh : ∀ k p, d.parent? k = some p → height k < height p) {m n : Nat} (hm : height h < m)
    (hn : height h < n) : d.subtreeAux m h = d.subtreeAux n h := by
  induction m generalizing h n with
  | zero => omega
  | succ m ih =>
    obtain ⟨n, rfl⟩ : ∃ n', n = n' + 1 := ⟨n - 1, by omega⟩
    cases hc : d.contains h with
    | false => rw [subtreeAux_of_not_contains hc, subtreeAux_of_not_contains hc]
    | true =>
      rw [subtreeAux_eq_of_contains hc, subtreeAux_eq_of_contains hc, List.flatMap_def,
        List.flatMap_def]
      congr 2
      apply List.map_congr_left
      intro c hc
      have := hh c h (hd.parent?_of_mem hc)
      exact ih (by omega) (by omega)

/-- At and below a live node there are the node and what is at and below the nodes that it lists. -/
theorem Forest.subtree_eq (hd : d.Forest) (h : Handle) :
    d.subtree h = if d.contains h then h :: (d.inside h).flatMap d.subtree else [] := by
  obtain ⟨height, hlt, hsize⟩ := hd.exists_height
  cases hc : d.contains h with
  | false => exact subtreeAux_of_not_contains hc _
  | true =>
    have hh := hsize h hc
    have hstep : d.subtree h = d.subtreeAux (d.slots.size + 1) h :=
      hd.toLinked.subtreeAux_eq_of_height hlt hh (by omega)
    rw [hstep, subtreeAux_eq_of_contains hc]
    rfl

/-! ## Well-founded links -/

/-- Links upwards cannot be followed for ever. -/
theorem Acyclic.wellFounded_parent (ha : d.Acyclic) :
    WellFounded fun p k => d.parent? k = some p := by
  obtain ⟨rank, hr⟩ := ha
  exact Subrelation.wf (fun {p k} hp => hr k p hp) (measure rank).wf

/-- Links downwards cannot be followed for ever. -/
theorem Forest.wellFounded_inside (hd : d.Forest) : WellFounded fun k p => k ∈ d.inside p := by
  obtain ⟨height, hlt, -⟩ := hd.exists_height
  exact Subrelation.wf (fun {k p} hk => hlt k p (hd.parent?_of_mem hk)) (measure height).wf

end GuidedXml.Document
