/-
# What the matching accepts

Elements are matched with the elements of a content from left to right. Where an element can be
bound to at most one element of the content, this finds the runs that the elements fall into.

The main statement says that matching succeeds exactly if there are such runs, no two of them for
one choice, and an excuse for every one that is empty.
-/
import GuidedXml.Proofs.Conformance.Runs
import GuidedXml.Proofs.Editing.Binding
import GuidedXml.Proofs.Schema.Contents

namespace GuidedXml.Workspace

open Schema (ConstraintId ContentModel)
open Schema.ContentModel (Grouped isInChoice_of_mem_alternatives)

variable {m : ContentModel} {hs : List Handle} {cs : List ConstraintId} {c i j k : ConstraintId}

/-! ## Pairs in order -/

theorem sublist_pair_of_suffix (as : List ConstraintId) {bs : List ConstraintId}
    (hnd : (as ++ bs).Nodup) (hi : i ∈ bs) (hs : [i, j].Sublist (as ++ bs)) :
    [i, j].Sublist bs := by
  induction as with
  | nil => exact hs
  | cons a as ih =>
    rw [List.cons_append, List.nodup_cons] at hnd
    refine ih hnd.2 ?_
    rw [List.cons_append, List.sublist_cons_iff] at hs
    rcases hs with hs | ⟨r, hr, -⟩
    · exact hs
    · obtain ⟨rfl, -⟩ := List.cons.inj hr
      exact absurd (List.mem_append_right as hi) hnd.1

theorem sublist_pair_cons (hj : j ∈ cs) : [c, j].Sublist (c :: cs) :=
  (List.singleton_sublist.mpr hj).cons_cons c

/-! ## Matchings -/

/-- The elements fall into runs, of which `ok` says what each consists of. -/
structure Matching (m : ContentModel) (ok : Handle → ConstraintId → Prop) (hs : List Handle)
    (cs : List ConstraintId) (run : ConstraintId → List Handle) : Prop where
  eq : hs = cs.flatMap run
  ok : ∀ i ∈ cs, ∀ h ∈ run i, ok h i
  alone : ∀ i ∈ cs, ∀ k ∈ cs, k ∈ m.alternatives i → k ≠ i → run i ≠ [] → run k = []
  excused : ∀ i ∈ cs, run i = [] → (m.occurs i).min = 0 ∨
    (∃ k ∈ cs, k ∈ m.alternatives i ∧ run k ≠ []) ∨
    (m.isInChoice i = true ∧ ∃ j, [i, j].Sublist cs ∧ run j ≠ [])

/-- Contents as they are met on the way: no element twice, and alternatives together. -/
structure Remaining (m : ContentModel) (cs : List ConstraintId) : Prop where
  nodup : cs.Nodup
  grouped : Grouped m cs
  mem_alternatives : ∀ i ∈ cs, m.isInChoice i = true → i ∈ m.alternatives i

namespace Remaining

theorem tail (hc : Remaining m (c :: cs)) : Remaining m cs where
  nodup := (List.nodup_cons.mp hc.nodup).2
  grouped := hc.grouped.2
  mem_alternatives := fun i hi => hc.mem_alternatives i (List.mem_cons_of_mem _ hi)

theorem of_suffix {cs' : List ConstraintId} (hc : Remaining m cs) (hs : cs' <:+ cs) :
    Remaining m cs' where
  nodup := hc.nodup.sublist hs.sublist
  grouped := hc.grouped.of_suffix hs
  mem_alternatives := fun i hi => hc.mem_alternatives i (hs.mem hi)

/-- What is left when an alternative was taken is what is no alternative of it. -/
theorem mem_dropWhile (hc : Remaining m (c :: cs)) :
    k ∈ cs.dropWhile (m.alternatives c).contains ↔ k ∈ cs ∧ k ∉ m.alternatives c := by
  rw [hc.grouped.1, List.mem_filter]
  simp

/-- A constraint is taken, is another alternative to what is taken, or is left. -/
theorem mem_cases (hc : Remaining m (c :: cs)) (hi : i ∈ c :: cs) :
    i = c ∨ (i ≠ c ∧ i ∈ m.alternatives c) ∨ i ∈ cs.dropWhile (m.alternatives c).contains := by
  by_cases hic : i = c
  · exact Or.inl hic
  · by_cases hia : i ∈ m.alternatives c
    · exact Or.inr (Or.inl ⟨hic, hia⟩)
    · exact Or.inr (Or.inr (hc.mem_dropWhile.mpr ⟨(List.mem_cons.mp hi).resolve_left hic, hia⟩))

/-- Being alternatives is mutual. -/
theorem mem_alternatives_comm (hm : m.TreeShaped) (hc : Remaining m cs) (hi : i ∈ cs)
    (hk : k ∈ m.alternatives i) : i ∈ m.alternatives k := by
  rw [hm.alternatives_congr hk]
  exact hc.mem_alternatives i hi (isInChoice_of_mem_alternatives hk)

end Remaining

section Runs

variable {ok : Handle → ConstraintId → Prop} {run : ConstraintId → List Handle} {h : Handle}

/-- A constraint that cannot take the first element has an empty run. -/
theorem Matching.skip (hc : Remaining m (c :: cs)) (hm : Matching m ok (h :: hs) (c :: cs) run)
    (hno : ¬ ok h c) : run c = [] ∧ Matching m ok (h :: hs) cs run := by
  have hnil : run c = [] := by
    cases hr : run c with
    | nil => rfl
    | cons x xs =>
      have heq := hm.eq
      rw [List.flatMap_cons, hr] at heq
      obtain ⟨rfl, -⟩ := List.cons.inj heq
      exact absurd (hm.ok c (List.mem_cons_self ..) h (by rw [hr]; exact List.mem_cons_self ..)) hno
  refine ⟨hnil, ?_, ?_, ?_, ?_⟩
  · have heq := hm.eq
    rw [List.flatMap_cons, hnil] at heq
    exact heq
  · exact fun i hi => hm.ok i (List.mem_cons_of_mem _ hi)
  · exact fun i hi k hk => hm.alone i (List.mem_cons_of_mem _ hi) k (List.mem_cons_of_mem _ hk)
  · intro i hi hempty
    rcases hm.excused i (List.mem_cons_of_mem _ hi) hempty with
      h0 | ⟨k, hk, hka, hne⟩ | ⟨hin, j, hs, hne⟩
    · exact Or.inl h0
    · rcases List.mem_cons.mp hk with rfl | hk
      · exact absurd hnil hne
      · exact Or.inr (Or.inl ⟨k, hk, hka, hne⟩)
    · exact Or.inr (Or.inr ⟨hin, j, sublist_pair_of_suffix [c] hc.nodup hi hs, hne⟩)

/-- A constraint that the content can do without may get an empty run. -/
theorem Matching.unskip (hc : Remaining m (c :: cs)) (hm : Matching m ok (h :: hs) cs run)
    (hd : isDispensable m c = true) : ∃ run, Matching m ok (h :: hs) (c :: cs) run := by
  classical
  have hne : ∀ i ∈ cs, i ≠ c := by
    rintro i hi rfl
    exact (List.nodup_cons.mp hc.nodup).1 hi
  refine ⟨fun i => if i = c then [] else run i, ?_, ?_, ?_, ?_⟩
  · rw [List.flatMap_cons, if_pos rfl, List.nil_append, hm.eq]
    exact List.flatMap_congr fun i hi => (if_neg (hne i hi)).symm
  · intro i hi x hx
    split_ifs at hx with hic
    · simp at hx
    · exact hm.ok i ((List.mem_cons.mp hi).resolve_left hic) x hx
  · intro i hi k hk hka hki hrun
    by_cases hkc : k = c
    · exact if_pos hkc
    · have hic : i ≠ c := fun hic => hrun (if_pos hic)
      rw [if_neg hic] at hrun
      rw [if_neg hkc]
      exact hm.alone i ((List.mem_cons.mp hi).resolve_left hic) k
        ((List.mem_cons.mp hk).resolve_left hkc) hka hki hrun
  · intro i hi hempty
    split_ifs at hempty with hic
    · subst hic
      -- the first element is in the run of something further on
      obtain ⟨j, hj, hhj⟩ : ∃ j ∈ cs, h ∈ run j := by
        rw [← List.mem_flatMap, ← hm.eq]
        exact List.mem_cons_self ..
      rw [isDispensable, Bool.or_eq_true, decide_eq_true_eq] at hd
      rcases hd with h0 | hin
      · exact Or.inl h0
      · refine Or.inr (Or.inr ⟨hin, j, sublist_pair_cons hj, ?_⟩)
        rw [if_neg (hne j hj)]
        exact List.ne_nil_of_mem hhj
    · have hics := (List.mem_cons.mp hi).resolve_left hic
      rcases hm.excused i hics hempty with h0 | ⟨k, hk, hka, hrun⟩ | ⟨hin, j, hs, hrun⟩
      · exact Or.inl h0
      · refine Or.inr (Or.inl ⟨k, List.mem_cons_of_mem _ hk, hka, ?_⟩)
        rw [if_neg (hne k hk)]
        exact hrun
      · refine Or.inr (Or.inr ⟨hin, j, hs.cons c, ?_⟩)
        rw [if_neg (hne j (hs.subset (List.mem_cons_of_mem _ (List.mem_cons_self ..))))]
        exact hrun

/-- Elements belong to at most one of the constraints. -/
def Distinct (ok : Handle → ConstraintId → Prop) (cs : List ConstraintId) : Prop :=
  ∀ h, ∀ i ∈ cs, ∀ k ∈ cs, ok h i → ok h k → i = k

/-- A constraint that can take the first element takes its whole run, and the other alternatives of
its choice have empty ones. -/
theorem Matching.take [DecidablePred (ok · c)] (htree : m.TreeShaped) (hc : Remaining m (c :: cs))
    (hdist : Distinct ok (c :: cs)) (hm : Matching m ok (h :: hs) (c :: cs) run) (hok : ok h c) :
    Matching m ok (hs.dropWhile fun x => decide (ok x c))
      (cs.dropWhile (m.alternatives c).contains) run := by
  have hnd := List.nodup_cons.mp hc.nodup
  -- the first element is in the run of `c`, and nothing in later runs could be there
  have hlater : ∀ x ∈ cs.flatMap run, ¬ ok x c := by
    intro x hx hxc
    obtain ⟨i, hi, hxi⟩ := List.mem_flatMap.mp hx
    have heq := hdist x i (List.mem_cons_of_mem _ hi) c (List.mem_cons_self ..)
      (hm.ok i (List.mem_cons_of_mem _ hi) x hxi) hxc
    exact hnd.1 (heq ▸ hi)
  have heq := hm.eq
  rw [List.flatMap_cons] at heq
  obtain ⟨xs, hxs, rfl⟩ : ∃ xs, run c = h :: xs ∧ hs = xs ++ cs.flatMap run := by
    cases hr : run c with
    | nil =>
      rw [hr, List.nil_append] at heq
      exact absurd hok (hlater h (by rw [← heq]; exact List.mem_cons_self ..))
    | cons x xs =>
      rw [hr, List.cons_append] at heq
      obtain ⟨rfl, rfl⟩ := List.cons.inj heq
      exact ⟨xs, rfl, rfl⟩
  have hrest : (xs ++ cs.flatMap run).dropWhile (fun x => decide (ok x c)) = cs.flatMap run := by
    refine Lists.dropWhile_append (fun x hx => ?_) fun y hy => ?_
    · exact decide_eq_true (hm.ok c (List.mem_cons_self ..) x
        (by rw [hxs]; exact List.mem_cons_of_mem _ hx))
    · exact decide_eq_false (hlater y (List.mem_of_mem_head? hy))
  have hsuffix : cs.dropWhile (m.alternatives c).contains <:+ c :: cs :=
    (List.dropWhile_suffix _).trans (List.suffix_cons c cs)
  have hmem : ∀ {i}, i ∈ cs.dropWhile (m.alternatives c).contains → i ∈ c :: cs := fun hi =>
    hsuffix.mem hi
  rw [hrest]
  refine ⟨?_, ?_, ?_, ?_⟩
  · conv_lhs => rw [← List.takeWhile_append_dropWhile (p := (m.alternatives c).contains) (l := cs)]
    rw [List.flatMap_append, List.flatMap_eq_nil_iff.mpr, List.nil_append]
    intro i hi
    have hics : i ∈ cs := (List.takeWhile_sublist _).subset hi
    refine hm.alone c (List.mem_cons_self ..) i (List.mem_cons_of_mem _ hics)
      (List.contains_iff_mem.mp (List.all_eq_true.mp List.all_takeWhile i hi)) ?_ (by rw [hxs]; simp)
    rintro rfl
    exact hnd.1 hics
  · exact fun i hi => hm.ok i (hmem hi)
  · exact fun i hi k hk => hm.alone i (hmem hi) k (hmem hk)
  · intro i hi hempty
    have hialt := (hc.mem_dropWhile.mp hi).2
    rcases hm.excused i (hmem hi) hempty with h0 | ⟨k, hk, hka, hne⟩ | ⟨hin, j, hs, hne⟩
    · exact Or.inl h0
    · refine Or.inr (Or.inl ⟨k, ?_, hka, hne⟩)
      have hik := hc.mem_alternatives_comm htree (hmem hi) hka
      rcases List.mem_cons.mp hk with rfl | hk
      · exact absurd hik hialt
      · refine hc.mem_dropWhile.mpr ⟨hk, ?_⟩
        intro hkc
        exact hialt (htree.alternatives_congr hkc ▸ hik)
    · obtain ⟨ys, hys⟩ := hsuffix
      rw [← hys] at hs
      exact Or.inr (Or.inr ⟨hin, j, sublist_pair_of_suffix ys (hys ▸ hc.nodup) hi hs, hne⟩)

/-- The runs in which a constraint took these elements and the other alternatives of its choice got
none. -/
def taking (m : ContentModel) (c : ConstraintId) (xs : List Handle)
    (run : ConstraintId → List Handle) (i : ConstraintId) : List Handle :=
  if i = c then xs else if i ∈ m.alternatives c then [] else run i

theorem taking_self (xs : List Handle) : taking m c xs run c = xs :=
  if_pos rfl

theorem taking_of_mem_alternatives (xs : List Handle) (hic : i ≠ c) (hi : i ∈ m.alternatives c) :
    taking m c xs run i = [] := by
  rw [taking, if_neg hic, if_pos hi]

theorem taking_of_mem_dropWhile (hc : Remaining m (c :: cs)) (xs : List Handle)
    (hi : i ∈ cs.dropWhile (m.alternatives c).contains) : taking m c xs run i = run i := by
  obtain ⟨hics, hia⟩ := hc.mem_dropWhile.mp hi
  have hic : i ≠ c := by
    rintro rfl
    exact (List.nodup_cons.mp hc.nodup).1 hics
  rw [taking, if_neg hic, if_neg hia]

/-- A run that was taken can be put before the runs of what is left. -/
theorem Matching.untake (htree : m.TreeShaped) (hc : Remaining m (c :: cs)) {xs : List Handle}
    (hm : Matching m ok hs (cs.dropWhile (m.alternatives c).contains) run)
    (hxs : ∀ x ∈ h :: xs, ok x c) : ∃ run, Matching m ok (h :: (xs ++ hs)) (c :: cs) run := by
  have hnd := List.nodup_cons.mp hc.nodup
  -- the run is put before the others, and the other alternatives get none
  have hself : taking m c (h :: xs) run c = h :: xs := taking_self _
  have hnone : ∀ i, i ≠ c → i ∈ m.alternatives c → taking m c (h :: xs) run i = [] := fun i =>
    taking_of_mem_alternatives _
  have hrest : ∀ i ∈ cs.dropWhile (m.alternatives c).contains,
      taking m c (h :: xs) run i = run i := fun i => taking_of_mem_dropWhile hc _
  refine ⟨taking m c (h :: xs) run, ?_, ?_, ?_, ?_⟩
  · rw [List.flatMap_cons, hself, List.cons_append,
      ← List.takeWhile_append_dropWhile (p := (m.alternatives c).contains) (l := cs),
      List.flatMap_append, List.flatMap_eq_nil_iff.mpr, List.nil_append, List.flatMap_congr hrest, hm.eq]
    intro i hi
    refine hnone i ?_ (List.contains_iff_mem.mp (List.all_eq_true.mp List.all_takeWhile i hi))
    rintro rfl
    exact hnd.1 ((List.takeWhile_sublist _).subset hi)
  · intro i hi x hx
    rcases hc.mem_cases hi with rfl | ⟨hic, hia⟩ | hi
    · rw [hself] at hx
      exact hxs x hx
    · rw [hnone i hic hia] at hx
      simp at hx
    · rw [hrest i hi] at hx
      exact hm.ok i hi x hx
  · intro i hi k hk hka hki hne
    rcases hc.mem_cases hi with rfl | ⟨hic, hia⟩ | hi'
    · exact hnone k hki hka
    · exact absurd (hnone i hic hia) hne
    · have hia := (hc.mem_dropWhile.mp hi').2
      have hik := hc.mem_alternatives_comm htree hi hka
      rcases hc.mem_cases hk with rfl | ⟨hkc, hka'⟩ | hk'
      · exact absurd hik hia
      · exact hnone k hkc hka'
      · rw [hrest i hi'] at hne
        rw [hrest k hk']
        exact hm.alone i hi' k hk' hka hki hne
  · intro i hi hempty
    rcases hc.mem_cases hi with rfl | ⟨hic, hia⟩ | hi'
    · rw [hself] at hempty
      simp at hempty
    · refine Or.inr (Or.inl ⟨c, List.mem_cons_self .., ?_, by rw [hself]; simp⟩)
      exact hc.mem_alternatives_comm htree (List.mem_cons_self ..) hia
    · rw [hrest i hi'] at hempty
      rcases hm.excused i hi' hempty with h0 | ⟨k, hk, hka, hne⟩ | ⟨hin, j, hs, hne⟩
      · exact Or.inl h0
      · refine Or.inr (Or.inl ⟨k, ?_, hka, by rw [hrest k hk]; exact hne⟩)
        exact List.mem_cons_of_mem _ (hc.mem_dropWhile.mp hk).1
      · have hj : j ∈ cs.dropWhile (m.alternatives c).contains :=
          hs.subset (List.mem_cons_of_mem _ (List.mem_cons_self ..))
        refine Or.inr (Or.inr ⟨hin, j, ?_, by rw [hrest j hj]; exact hne⟩)
        exact hs.trans ((List.dropWhile_sublist _).trans (List.sublist_cons_self c cs))

end Runs

/-! ## Matching -/

/-- The binder stays with the nodes below an element, and binds exactly what is `ok`. -/
structure Decides (d : Document) (m : ContentModel) (whitelist : List String) (binder : Binder)
    (ok : Handle → ConstraintId → Prop) : Prop where
  isLocal : IsLocal d binder
  iff : ∀ (w : Workspace) h c, w.model = m → w.whitelist = whitelist →
    ((binder w h c).2 = true ↔ ok h c)

section Deciding

variable {d : Document} {whitelist : List String} {binder : Binder}
  {ok : Handle → ConstraintId → Prop} {w : Workspace}

/-- A run goes on as long as elements can be bound. -/
theorem bindRun_eq [DecidablePred (ok · c)] (hb : Decides d m whitelist binder ok)
    (hmodel : w.model = m) (hwhite : w.whitelist = whitelist) (hs : List Handle) :
    (bindRun binder c w hs).2 = hs.dropWhile fun x => decide (ok x c) := by
  induction hs generalizing w with
  | nil => rfl
  | cons h hs ih =>
    have hlocal := hb.isLocal w h c
    rw [bindRun, List.dropWhile_cons]
    by_cases hok : ok h c
    · rw [if_pos ((hb.iff w h c hmodel hwhite).mpr hok), if_pos (decide_eq_true hok)]
      exact ih (hlocal.model.trans hmodel) (hlocal.whitelist.trans hwhite)
    · rw [if_neg fun ht => hok ((hb.iff w h c hmodel hwhite).mp ht),
        if_neg fun ht => hok (of_decide_eq_true ht)]

/-- Matching succeeds exactly if the elements fall into runs. -/
theorem matchContent_iff (hb : Decides d m whitelist binder ok) (htree : m.TreeShaped)
    (hmodel : w.model = m) (hwhite : w.whitelist = whitelist) (hc : Remaining m cs)
    (hdist : Distinct ok cs) :
    (matchContent binder m w hs cs).2 = true ↔ ∃ run, Matching m ok hs cs run := by
  classical
  fun_induction matchContent binder m w hs cs with
  | case1 w cs =>
    -- no elements are left, so all runs are empty and every one needs an excuse
    rw [List.all_eq_true]
    constructor
    · intro hall
      refine ⟨fun _ => [], (List.flatMap_eq_nil_iff.mpr fun _ _ => rfl).symm, by simp, ?_, ?_⟩
      · exact fun i _ k _ _ _ _ => rfl
      · exact fun i hi _ => Or.inl (of_decide_eq_true (hall i hi))
    · rintro ⟨run, hm⟩ i hi
      have hempty : ∀ k ∈ cs, run k = [] := List.flatMap_eq_nil_iff.mp hm.eq.symm
      rcases hm.excused i hi (hempty i hi) with h0 | ⟨k, hk, -, hne⟩ | ⟨-, j, hs, hne⟩
      · exact decide_eq_true h0
      · exact absurd (hempty k hk) hne
      · exact absurd (hempty j (hs.subset (by simp))) hne
  | case2 w h hs =>
    constructor
    · intro hf
      simp at hf
    · rintro ⟨run, hm⟩
      exact absurd hm.eq (by simp)
  | case3 w h hs c cs r hr run ih =>
    -- the first element can be bound, and the run that it begins is taken
    have hok : ok h c := (hb.iff w h c hmodel hwhite).mp hr
    have hlocal := hb.isLocal w h c
    have hlocal' := (rebinds_bindRun hb.isLocal c r.1 hs).1
    have hmodel' : r.1.model = m := hlocal.model.trans hmodel
    have hwhite' : r.1.whitelist = whitelist := hlocal.whitelist.trans hwhite
    have hrest : run.2 = hs.dropWhile fun x => decide (ok x c) := bindRun_eq hb hmodel' hwhite' hs
    have hsuffix : cs.dropWhile (m.alternatives c).contains <:+ c :: cs :=
      (List.dropWhile_suffix _).trans (List.suffix_cons c cs)
    rw [ih (hlocal'.model.trans hmodel') (hlocal'.whitelist.trans hwhite') (hc.of_suffix hsuffix)
      fun x i hi k hk => hdist x i (hsuffix.mem hi) k (hsuffix.mem hk), hrest]
    constructor
    · rintro ⟨f, hm⟩
      rw [← List.takeWhile_append_dropWhile (p := fun x => decide (ok x c)) (l := hs)]
      refine hm.untake htree hc ?_
      intro x hx
      rcases List.mem_cons.mp hx with rfl | hx
      · exact hok
      · exact of_decide_eq_true (List.all_eq_true.mp List.all_takeWhile x hx)
    · rintro ⟨f, hm⟩
      exact ⟨f, hm.take htree hc hdist hok⟩
  | case4 w h hs c cs r hr hd ih =>
    -- it cannot, and the constraint is skipped
    have hok : ¬ ok h c := fun hok => hr ((hb.iff w h c hmodel hwhite).mpr hok)
    have hlocal := hb.isLocal w h c
    rw [ih (hlocal.model.trans hmodel) (hlocal.whitelist.trans hwhite) hc.tail
      fun x i hi k hk => hdist x i (List.mem_cons_of_mem _ hi) k (List.mem_cons_of_mem _ hk)]
    constructor
    · rintro ⟨f, hm⟩
      exact hm.unskip hc hd
    · rintro ⟨f, hm⟩
      exact ⟨f, (hm.skip hc hok).2⟩
  | case5 w h hs c cs r hr hd =>
    -- it cannot, and the constraint cannot be skipped
    have hok : ¬ ok h c := fun hok => hr ((hb.iff w h c hmodel hwhite).mpr hok)
    constructor
    · intro hf
      simp at hf
    · rintro ⟨f, hm⟩
      have hnil := (hm.skip hc hok).1
      refine absurd ?_ hd
      rw [isDispensable, Bool.or_eq_true, decide_eq_true_eq]
      rcases hm.excused c (List.mem_cons_self ..) hnil with h0 | ⟨k, -, hka, -⟩ | ⟨hin, -⟩
      · exact Or.inl h0
      · exact Or.inr (isInChoice_of_mem_alternatives hka)
      · exact Or.inr hin

end Deciding

end GuidedXml.Workspace
