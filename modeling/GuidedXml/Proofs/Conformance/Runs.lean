/-
# Runs

A list falls into runs, one for each member of a second list, if what has the same name stands
together and in the order of that second list. Runs may be empty.

The main statements say that such a list is known from the names in it, and that the run of an
element is as long as its name is frequent among its siblings.
-/
import GuidedXml.Proofs.Document.Forest
import GuidedXml.Proofs.Lists
import Mathlib.Data.List.Basic

namespace GuidedXml

/-! ## Lists of runs -/

namespace Runs

variable {α ι : Type} {name : α → String} {label : ι → String} {cs : List ι} {hs : List α}
  {f : ι → List α} {i : ι}

/-- A name is not found where only other labels are. -/
theorem count_flatMap_of_not_mem (hf : ∀ j ∈ cs, ∀ a ∈ f j, name a = label j)
    (hi : label i ∉ cs.map label) : ((cs.flatMap f).map name).count (label i) = 0 := by
  rw [List.count_eq_zero]
  intro hm
  obtain ⟨a, ha, hname⟩ := List.mem_map.mp hm
  obtain ⟨j, hj, haj⟩ := List.mem_flatMap.mp ha
  exact hi (List.mem_map.mpr ⟨j, hj, by rw [← hf j hj a haj, hname]⟩)

theorem count_of_all {run : List α} {n : String} (hr : ∀ a ∈ run, name a = n) :
    (run.map name).count n = run.length := by
  have heq : run.map name = List.replicate run.length n := by
    rw [List.eq_replicate_iff]
    refine ⟨List.length_map .., ?_⟩
    intro b hb
    obtain ⟨a, ha, rfl⟩ := List.mem_map.mp hb
    exact hr a ha
  rw [heq, List.count_replicate_self]

/-- Each label is found as often as its run is long. -/
theorem count_flatMap (hnd : (cs.map label).Nodup) (hf : ∀ j ∈ cs, ∀ a ∈ f j, name a = label j)
    (hi : i ∈ cs) : ((cs.flatMap f).map name).count (label i) = (f i).length := by
  induction cs with
  | nil => simp at hi
  | cons c cs ih =>
    rw [List.map_cons, List.nodup_cons] at hnd
    have hrest : ∀ j ∈ cs, ∀ a ∈ f j, name a = label j := fun j hj =>
      hf j (List.mem_cons_of_mem _ hj)
    rw [List.flatMap_cons, List.map_append, List.count_append]
    by_cases hc : i = c
    · subst hc
      rw [count_of_all (hf i (List.mem_cons_self ..)), count_flatMap_of_not_mem hrest hnd.1]
      rfl
    · have hics := (List.mem_cons.mp hi).resolve_left hc
      have hne : label c ≠ label i := fun heq =>
        hnd.1 (List.mem_map.mpr ⟨i, hics, heq.symm⟩)
      have hzero : ((f c).map name).count (label i) = 0 := by
        rw [List.count_eq_zero]
        intro hm
        obtain ⟨a, ha, hname⟩ := List.mem_map.mp hm
        exact hne (by rw [← hname, hf c (List.mem_cons_self ..) a ha])
      rw [hzero, ih hnd.2 hrest hics, Nat.zero_add]

/-- The names of runs are repeated labels. -/
theorem map_flatMap (hf : ∀ j ∈ cs, ∀ a ∈ f j, name a = label j) :
    (cs.flatMap f).map name = cs.flatMap fun j => List.replicate (f j).length (label j) := by
  rw [List.map_flatMap]
  apply List.flatMap_congr
  intro j hj
  rw [List.eq_replicate_iff]
  refine ⟨List.length_map .., ?_⟩
  intro b hb
  obtain ⟨a, ha, rfl⟩ := List.mem_map.mp hb
  exact hf j hj a ha

/-- A list whose names are repeated labels falls into runs. -/
theorem exists_runs {t : ι → Nat} (hnd : (cs.map label).Nodup)
    (hnames : hs.map name = cs.flatMap fun j => List.replicate (t j) (label j)) :
    ∃ f : ι → List α, hs = cs.flatMap f ∧ (∀ j ∈ cs, ∀ a ∈ f j, name a = label j) ∧
      ∀ j ∈ cs, (f j).length = t j := by
  classical
  induction cs generalizing hs with
  | nil =>
    refine ⟨fun _ => [], ?_, by simp, by simp⟩
    simpa using hnames
  | cons c cs ih =>
    rw [List.map_cons, List.nodup_cons] at hnd
    rw [List.flatMap_cons, List.map_eq_append_iff] at hnames
    obtain ⟨run, rest, rfl, hrun, hrest⟩ := hnames
    obtain ⟨g, rfl, hname, hlength⟩ := ih hnd.2 hrest
    have hne : ∀ j ∈ cs, j ≠ c := by
      rintro j hj rfl
      exact hnd.1 (List.mem_map_of_mem hj)
    -- labels are distinct, so the runs of the others stay what they are
    refine ⟨fun j => if j = c then run else g j, ?_, ?_, ?_⟩
    · rw [List.flatMap_cons, if_pos rfl]
      congr 1
      apply List.flatMap_congr
      intro j hj
      rw [if_neg (hne j hj)]
    · intro j hj a ha
      dsimp only at ha
      by_cases hc : j = c
      · rw [if_pos hc] at ha
        have hmem : name a ∈ run.map name := List.mem_map_of_mem ha
        rw [hrun] at hmem
        rw [hc]
        exact List.eq_of_mem_replicate hmem
      · rw [if_neg hc] at ha
        exact hname j ((List.mem_cons.mp hj).resolve_left hc) a ha
    · intro j hj
      dsimp only
      by_cases hc : j = c
      · have hlen : (run.map name).length = run.length := List.length_map ..
        rw [if_pos hc, hc, ← hlen, hrun, List.length_replicate]
      · rw [if_neg hc]
        exact hlength j ((List.mem_cons.mp hj).resolve_left hc)

/-- A run stands between runs of other labels. -/
theorem exists_surroundings (hnd : (cs.map label).Nodup)
    (hf : ∀ j ∈ cs, ∀ a ∈ f j, name a = label j) (hi : i ∈ cs) :
    ∃ xs ys, cs.flatMap f = xs ++ f i ++ ys ∧ (∀ a ∈ xs, name a ≠ label i) ∧
      ∀ a ∈ ys, name a ≠ label i := by
  obtain ⟨as, bs, rfl⟩ := List.append_of_mem hi
  rw [List.map_append, List.map_cons, List.nodup_middle, List.nodup_cons, ← List.map_append] at hnd
  have hother : ∀ j, j ∈ as ++ bs → ∀ a ∈ f j, name a ≠ label i := by
    intro j hj a ha hname
    have hja : j ∈ as ++ i :: bs := by
      rcases List.mem_append.mp hj with hj | hj
      · exact List.mem_append_left _ hj
      · exact List.mem_append_right _ (List.mem_cons_of_mem _ hj)
    exact hnd.1 (List.mem_map.mpr ⟨j, hj, by rw [← hf j hja a ha, hname]⟩)
  refine ⟨as.flatMap f, bs.flatMap f, ?_, ?_, ?_⟩
  · rw [List.flatMap_append, List.flatMap_cons, List.append_assoc]
  · intro a ha
    obtain ⟨j, hj, haj⟩ := List.mem_flatMap.mp ha
    exact hother j (List.mem_append_left _ hj) a haj
  · intro a ha
    obtain ⟨j, hj, haj⟩ := List.mem_flatMap.mp ha
    exact hother j (List.mem_append_right _ hj) a haj

end Runs

/-! ## Runs of elements -/

namespace Document

variable {d : Document} {h p : Handle}

/-- Between siblings of other names, the run of an element is as long as what stands between. -/
theorem runLength_eq (hd : d.Linked) {xs run ys : List Handle} (hs : d.elements p = xs ++ run ++ ys)
    (hh : h ∈ run) (hrun : ∀ k ∈ run, d.name k = d.name h) (hxs : ∀ k ∈ xs, d.name k ≠ d.name h)
    (hys : ∀ k ∈ ys, d.name k ≠ d.name h) : d.runLength h = run.length := by
  have hmem : h ∈ d.elements p := by
    rw [hs]
    exact List.mem_append_left _ (List.mem_append_right _ hh)
  have hnd := hd.nodup_elements p
  obtain ⟨as, bs, rfl⟩ := List.append_of_mem hh
  have hsplit : d.elements p = (xs ++ as) ++ h :: (bs ++ ys) := by
    rw [hs]
    simp
  rw [hsplit, List.nodup_middle, List.nodup_cons] at hnd
  -- the element is listed once, so its siblings are split at it
  have hne : ∀ a ∈ xs ++ as, decide (a ≠ h) = true := by
    intro a ha
    refine decide_eq_true ?_
    rintro rfl
    exact hnd.1 (List.mem_append_left _ ha)
  have hbefore : (d.elements p).takeWhile (· ≠ h) = xs ++ as := by
    rw [hsplit, Lists.takeWhile_append hne (by simp)]
  have hafter : ((d.elements p).dropWhile (· ≠ h)).drop 1 = bs ++ ys := by
    rw [hsplit, Lists.dropWhile_append hne (by simp)]
    rfl
  have hsame : ∀ k ∈ as ++ h :: bs, decide (d.name k = d.name h) = true := fun k hk =>
    decide_eq_true (hrun k hk)
  rw [runLength, hd.parent?_of_mem_elements hmem]
  dsimp only
  rw [if_pos (List.contains_iff_mem.mpr hmem), hbefore, hafter, List.reverse_append,
    Lists.takeWhile_append, Lists.takeWhile_append]
  · simp only [List.length_reverse, List.length_append, List.length_cons]
    omega
  · intro k hk
    exact hsame k (List.mem_append_right _ (List.mem_cons_of_mem _ hk))
  · intro k hk
    exact decide_eq_false (hys k (List.mem_of_mem_head? hk))
  · intro k hk
    exact hsame k (List.mem_append_left _ (List.mem_reverse.mp hk))
  · intro k hk
    exact decide_eq_false (hxs k (List.mem_reverse.mp (List.mem_of_mem_head? hk)))

end Document

end GuidedXml
