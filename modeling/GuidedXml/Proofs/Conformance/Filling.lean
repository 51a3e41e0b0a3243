/-
# Filling contents

How the names that fill a content may change. That elements stand in the order of a content means
that no name comes before one whose place in the content is earlier; this is easier to keep than the
runs themselves.

The main statements say when one more name, one name less, and another name in the place of one still
fill the content.
-/
import GuidedXml.Proofs.Conformance.Conforms
import GuidedXml.Proofs.Conformance.Runs
import GuidedXml.Proofs.Schema.Contents

namespace GuidedXml.Schema.ContentModel

variable {m : ContentModel} {cs : List ConstraintId} {names xs ys : List String}
  {c i k : ConstraintId} {n : String}

/-! ## Order -/

/-- The place of a name in a content. -/
def place (m : ContentModel) (cs : List ConstraintId) (n : String) : Nat :=
  (cs.map m.name).idxOf n

/-- The names are known in the content, and stand in its order. -/
structure Ordered (m : ContentModel) (cs : List ConstraintId) (names : List String) : Prop where
  known : ∀ n ∈ names, n ∈ cs.map m.name
  pairwise : names.Pairwise fun a b => m.place cs a ≤ m.place cs b

theorem place_inj {a b : String} (ha : a ∈ cs.map m.name) (hp : m.place cs a = m.place cs b) :
    a = b :=
  (List.idxOf_inj ha).mp hp

theorem pairwise_place (hnd : (cs.map m.name).Nodup) :
    (cs.map m.name).Pairwise fun a b => m.place cs a ≤ m.place cs b := by
  rw [List.pairwise_iff_getElem]
  intro i j hi hj hij
  rw [place, place, hnd.idxOf_getElem i hi, hnd.idxOf_getElem j hj]
  exact Nat.le_of_lt hij

/-- Runs in the order of the content are ordered. -/
theorem ordered_runs (hnd : (cs.map m.name).Nodup) (t : ConstraintId → Nat) :
    Ordered m cs (cs.flatMap fun i => List.replicate (t i) (m.name i)) where
  known := by
    intro n hn
    obtain ⟨i, hi, hni⟩ := List.mem_flatMap.mp hn
    rw [List.eq_of_mem_replicate hni]
    exact List.mem_map_of_mem hi
  pairwise := by
    rw [List.pairwise_flatMap]
    refine ⟨?_, ?_⟩
    · intro i _
      rw [List.pairwise_replicate]
      exact Or.inr (Nat.le_refl _)
    · refine (List.pairwise_map.mp (pairwise_place hnd)).imp ?_
      intro i j hij x hx y hy
      rw [List.eq_of_mem_replicate hx, List.eq_of_mem_replicate hy]
      exact hij

theorem tally_runs (hnd : (cs.map m.name).Nodup) (t : ConstraintId → Nat) (hi : i ∈ cs) :
    m.tally (cs.flatMap fun i => List.replicate (t i) (m.name i)) i = t i := by
  have hcount : ((cs.flatMap fun i => List.replicate (t i) (m.name i)).map id).count (m.name i) =
      (List.replicate (t i) (m.name i)).length :=
    Runs.count_flatMap hnd (fun j _ a ha => List.eq_of_mem_replicate ha) hi
  rw [List.map_id, List.length_replicate] at hcount
  exact hcount

/-- Ordered names fall into runs. -/
theorem inOrder_iff (hnd : (cs.map m.name).Nodup) :
    names = cs.flatMap (fun i => List.replicate (m.tally names i) (m.name i)) ↔
      Ordered m cs names := by
  have hruns := ordered_runs hnd (m.tally names)
  constructor
  · intro heq
    rw [heq]
    exact hruns
  · intro ho
    -- both lists are sorted by place, and have every name equally often
    apply List.Perm.eq_of_pairwise _ ho.pairwise hruns.pairwise
    · rw [List.perm_iff_count]
      intro n
      by_cases hn : n ∈ cs.map m.name
      · obtain ⟨i, hi, rfl⟩ := List.mem_map.mp hn
        exact (tally_runs hnd (m.tally names) hi).symm
      · rw [List.count_eq_zero_of_not_mem fun h => hn (ho.known n h),
          List.count_eq_zero_of_not_mem fun h => hn (hruns.known n h)]
    · intro a b ha _ hab hba
      exact place_inj (ho.known a ha) (Nat.le_antisymm hab hba)

theorem Ordered.sublist (ho : Ordered m cs names) (hs : xs.Sublist names) : Ordered m cs xs :=
  ⟨fun n hn => ho.known n (hs.subset hn), ho.pairwise.sublist hs⟩

/-- A name can be put where nothing before it comes later and nothing behind it comes earlier. -/
theorem Ordered.insert (ho : Ordered m cs (xs ++ ys)) (hn : n ∈ cs.map m.name)
    (hxs : ∀ a ∈ xs, m.place cs a ≤ m.place cs n) (hys : ∀ b ∈ ys, m.place cs n ≤ m.place cs b) :
    Ordered m cs (xs ++ n :: ys) := by
  obtain ⟨hpx, hpy, hpxy⟩ := List.pairwise_append.mp ho.pairwise
  refine ⟨?_, ?_⟩
  · intro a ha
    rcases List.mem_append.mp ha with ha | ha
    · exact ho.known a (List.mem_append_left _ ha)
    · rcases List.mem_cons.mp ha with rfl | ha
      · exact hn
      · exact ho.known a (List.mem_append_right _ ha)
  · rw [List.pairwise_append, List.pairwise_cons]
    refine ⟨hpx, ⟨hys, hpy⟩, ?_⟩
    intro a ha b hb
    rcases List.mem_cons.mp hb with rfl | hb
    · exact hxs a ha
    · exact hpxy a ha b hb

/-- A name can be repeated where it stands. -/
theorem Ordered.again (ho : Ordered m cs (xs ++ n :: ys)) : Ordered m cs (xs ++ n :: n :: ys) := by
  obtain ⟨-, hpys, hpxs⟩ := List.pairwise_append.mp ho.pairwise
  have hknown := ho.known n (List.mem_append_right _ (List.mem_cons_self ..))
  refine ho.insert hknown ?_ ?_
  · exact fun a ha => hpxs a ha n (List.mem_cons_self ..)
  · intro b hb
    rcases List.mem_cons.mp hb with rfl | hb
    · exact Nat.le_refl _
    · exact (List.pairwise_cons.mp hpys).1 b hb

/-! ## Places -/

/-- What has an earlier place stands before, and what has a later place behind. -/
theorem mem_of_place {as bs : List ConstraintId} (hc : IsContent m cs) (hs : cs = as ++ k :: bs)
    (hi : i ∈ cs) : (m.place cs (m.name i) < m.place cs (m.name k) → i ∈ as) ∧
      (m.place cs (m.name k) < m.place cs (m.name i) → i ∈ bs) := by
  have hpw := List.pairwise_map.mp (pairwise_place hc.nodup_names)
  rw [hs] at hi
  conv at hpw => rhs; rw [hs]
  obtain ⟨-, hpk, hbefore⟩ := List.pairwise_append.mp hpw
  have hbehind := (List.pairwise_cons.mp hpk).1
  rcases List.mem_append.mp hi with hi | hi
  · have := hbefore i hi k (List.mem_cons_self ..)
    exact ⟨fun _ => hi, fun hlt => by omega⟩
  · rcases List.mem_cons.mp hi with rfl | hi
    · exact ⟨fun hlt => by omega, fun hlt => by omega⟩
    · have := hbehind i hi
      exact ⟨fun hlt => by omega, fun _ => hi⟩

/-- What stands before has no later place. -/
theorem place_le_of_mem {as bs : List ConstraintId} (hc : IsContent m cs) (hs : cs = as ++ k :: bs)
    (hi : i ∈ as) : m.place cs (m.name i) ≤ m.place cs (m.name k) := by
  have hnd := hc.nodup
  by_contra hlt
  have hcs : i ∈ cs := by
    rw [hs]
    exact List.mem_append_left _ hi
  have hbehind := (mem_of_place hc hs hcs).2 (by omega)
  rw [hs] at hnd
  exact (List.nodup_append.mp hnd).2.2 i hi i (List.mem_cons_of_mem _ hbehind) rfl

/-- The name of a constraint can be put just behind the last name of one that stands before. -/
theorem Ordered.put {as bs : List ConstraintId} (ho : Ordered m cs (xs ++ ys))
    (hc : IsContent m cs) (hs : cs = as ++ k :: bs)
    (hxs : ∀ n, xs.getLast? = some n → n ∈ as.map m.name) (hys : ∀ n ∈ ys, n ∉ as.map m.name) :
    Ordered m cs (xs ++ m.name k :: ys) := by
  have hk : k ∈ cs := by
    rw [hs]
    exact List.mem_append_right _ (List.mem_cons_self ..)
  refine ho.insert (List.mem_map_of_mem hk) ?_ ?_
  · -- no name before has a later place than the last one, and that comes before `k`
    intro a ha
    cases hlast : xs.getLast? with
    | none =>
      rw [List.getLast?_eq_none_iff.mp hlast] at ha
      simp at ha
    | some n =>
      obtain ⟨i, hi, rfl⟩ := List.mem_map.mp (hxs n hlast)
      obtain ⟨xs, rfl⟩ := List.getLast?_eq_some_iff.mp hlast
      refine Nat.le_trans ?_ (place_le_of_mem hc hs hi)
      have hpw := (List.pairwise_append.mp (List.pairwise_append.mp ho.pairwise).1).2.2
      rcases List.mem_append.mp ha with ha | ha
      · exact hpw a ha _ (List.mem_singleton_self _)
      · exact Nat.le_of_eq (congrArg (m.place cs) (List.mem_singleton.mp ha))
  · -- a name with an earlier place would be one of those that come before `k`
    intro b hb
    obtain ⟨i, hi, rfl⟩ := List.mem_map.mp (ho.known b (List.mem_append_right _ hb))
    by_contra hlt
    exact hys _ hb (List.mem_map_of_mem ((mem_of_place hc hs hi).1 (by omega)))

/-- Nothing stands between two alternatives but alternatives. -/
theorem place_le_of_alternatives (hm : m.TreeShaped) (hc : IsContent m cs) {a : ConstraintId}
    (hcs : c ∈ cs) (ha : a ∈ m.alternatives c) (hk : k ∈ cs) (hout : k ∉ m.alternatives c)
    (hle : m.place cs (m.name k) ≤ m.place cs (m.name c)) :
    m.place cs (m.name k) ≤ m.place cs (m.name a) := by
  by_contra hlt
  have hself := hc.self_mem_alternatives hcs ha
  have hne : m.place cs (m.name k) ≠ m.place cs (m.name c) := by
    intro heq
    obtain rfl := hc.name_inj hk hcs (place_inj (List.mem_map_of_mem hk) heq)
    exact hout hself
  have hacs := hc.alternatives_mem c hcs a ha
  obtain ⟨as, bs, hs⟩ := List.append_of_mem hk
  have hain := (mem_of_place hc hs hacs).1 (by omega)
  have hcin := (mem_of_place hc hs hcs).2 (by omega)
  -- behind the first of the two, `k` comes before the other one
  obtain ⟨as₁, as₂, rfl⟩ := List.append_of_mem hain
  have hsuffix : a :: (as₂ ++ k :: bs) <:+ cs := ⟨as₁, by rw [hs]; simp⟩
  have hgrouped := hc.grouped.of_suffix hsuffix
  have hdrop : c ∈ (as₂ ++ k :: bs).dropWhile (m.alternatives a).contains := by
    rw [hm.alternatives_congr ha, List.dropWhile_append]
    have hfalse : (m.alternatives c).contains k = false := by
      rw [Bool.eq_false_iff]
      exact fun h => hout (List.contains_iff_mem.mp h)
    split
    · rw [List.dropWhile_cons, hfalse]
      exact List.mem_cons_of_mem _ hcin
    · exact List.mem_append_right _ (List.mem_cons_of_mem _ hcin)
  rw [hgrouped.1, List.mem_filter, hm.alternatives_congr ha] at hdrop
  simp [hself] at hdrop

/-! ## Runs of elements -/

section Runs

variable {d : Document} {p h : Handle} {run : ConstraintId → List Handle}

/-- The run of a constraint is as long as its name is frequent. -/
theorem tally_of_runs (hc : IsContent m cs) {hs : List Handle} (heq : hs = cs.flatMap run)
    (hname : ∀ j ∈ cs, ∀ a ∈ run j, d.name a = m.name j) (hi : i ∈ cs) :
    m.tally (hs.map d.name) i = (run i).length := by
  rw [tally, heq]
  exact Runs.count_flatMap hc.nodup_names hname hi

theorem runLength_of_runs (hd : d.Linked) (hc : IsContent m cs) (heq : d.elements p = cs.flatMap run)
    (hname : ∀ j ∈ cs, ∀ a ∈ run j, d.name a = m.name j) (hi : i ∈ cs) (hh : h ∈ run i) :
    d.runLength h = (run i).length := by
  obtain ⟨xs, ys, hsplit, hxs, hys⟩ := Runs.exists_surroundings hc.nodup_names hname hi
  have hn := hname i hi h hh
  refine Document.runLength_eq hd (heq.trans hsplit) hh ?_ ?_ ?_
  · intro k hk
    rw [hname i hi k hk, hn]
  · intro k hk
    rw [hn]
    exact hxs k hk
  · intro k hk
    rw [hn]
    exact hys k hk

/-- Where the content is filled, the run of an element is as long as its name is frequent. -/
theorem Fills.runLength_eq {x : Excuse} (hf : Fills x m cs ((d.elements p).map d.name))
    (hd : d.Linked) (hc : IsContent m cs) (hh : h ∈ d.elements p) (hi : i ∈ cs)
    (hn : d.name h = m.name i) : d.runLength h = m.tally ((d.elements p).map d.name) i := by
  obtain ⟨run, heq, hname, hlength⟩ := Runs.exists_runs hc.nodup_names hf.inOrder
  have hrun : h ∈ run i := by
    rw [heq, List.mem_flatMap] at hh
    obtain ⟨j, hj, hhj⟩ := hh
    obtain rfl := hc.name_inj hj hi ((hname j hj h hhj).symm.trans hn)
    exact hhj
  rw [runLength_of_runs hd hc heq hname hi hrun, hlength i hi]

end Runs

/-! ## Tallies -/

theorem Fills.contains {x : Excuse} {names : List String} (hf : Fills x m cs names)
    (hc : IsContent m cs) (hi : i ∈ cs) (ht : m.tally names i ≠ 0) :
    (m.occurs i).contains (m.tally names i) = true := by
  cases hin : m.isInChoice i with
  | false => exact hf.single i hi hin
  | true =>
    have hself := hc.mem_alternatives i hi hin
    rcases hf.choice i hi hin with ⟨k, -, -, hk, hother⟩ | ⟨hnone, -⟩
    · by_cases hik : i = k
      · rw [hik]
        exact hk
      · exact absurd (hother i hself hik) ht
    · exact absurd (hnone i hself) ht

/-- At most one alternative of a choice is there. -/
theorem Fills.alone {x : Excuse} {names : List String} (hf : Fills x m cs names)
    (hc : IsContent m cs) {k : ConstraintId} (hi : i ∈ cs) (hk : k ∈ m.alternatives i) (hki : k ≠ i)
    (ht : m.tally names i ≠ 0) : m.tally names k = 0 := by
  have hin := isInChoice_of_mem_alternatives hk
  have hself := hc.mem_alternatives i hi hin
  rcases hf.choice i hi hin with ⟨l, -, -, -, hother⟩ | ⟨hnone, -⟩
  · by_cases hil : i = l
    · exact hother k hk (hil ▸ hki)
    · exact absurd (hother i hself hil) ht
  · exact hnone k hk

/-- Whether a choice is filled shows in the tallies of its alternatives alone. -/
theorem Fills.choice_congr (hf : Fills .strict m cs names) {names' : List String} (hi : i ∈ cs)
    (hin : m.isInChoice i = true)
    (hsame : ∀ k ∈ m.alternatives i, m.tally names' k = m.tally names k) :
    (∃ k ∈ m.alternatives i, m.tally names' k ≠ 0 ∧
      (m.occurs k).contains (m.tally names' k) = true ∧
      ∀ l ∈ m.alternatives i, l ≠ k → m.tally names' l = 0) ∨
    ((∀ k ∈ m.alternatives i, m.tally names' k = 0) ∧ Excuse.strict m cs names' i) := by
  rcases hf.choice i hi hin with ⟨k, hk, hne, hcon, hother⟩ | ⟨hnone, hexc⟩
  · refine Or.inl ⟨k, hk, by rwa [hsame k hk], by rwa [hsame k hk], ?_⟩
    intro l hl hlk
    rw [hsame l hl]
    exact hother l hl hlk
  · exact Or.inr ⟨fun k hk => (hsame k hk).trans (hnone k hk), hexc⟩

theorem tally_insert (hc : IsContent m cs) (hcs : c ∈ cs) (hi : i ∈ cs) (xs ys : List String) :
    m.tally (xs ++ m.name c :: ys) i = m.tally (xs ++ ys) i + if i = c then 1 else 0 := by
  simp only [tally, List.count_append, List.count_cons]
  by_cases hic : i = c
  · subst hic
    simp
    omega
  · have hne : ¬ m.name c = m.name i := fun heq => hic (hc.name_inj hcs hi heq).symm
    simp [hic, hne]

theorem tally_insert_self (hc : IsContent m cs) (hcs : c ∈ cs) (xs ys : List String) :
    m.tally (xs ++ m.name c :: ys) c = m.tally (xs ++ ys) c + 1 := by
  rw [tally_insert hc hcs hcs, if_pos rfl]

theorem tally_insert_of_ne (hc : IsContent m cs) (hcs : c ∈ cs) (hi : i ∈ cs) (hne : i ≠ c)
    (xs ys : List String) : m.tally (xs ++ m.name c :: ys) i = m.tally (xs ++ ys) i := by
  rw [tally_insert hc hcs hi, if_neg hne, Nat.add_zero]

/-! ## Changes of one name -/

section Changes

variable (hm : m.TreeShaped) (hc : IsContent m cs) (hcs : c ∈ cs)

include hm hc hcs

/-- What is no alternative of `c` shares none with it. -/
theorem ne_of_mem_alternatives (hi : i ∈ cs) (hout : i ∉ m.alternatives c)
    (hk : k ∈ m.alternatives i) : k ≠ c := by
  rintro rfl
  exact hout (hc.mem_alternatives_comm hm hi hk)

/-- A change of names that touches the alternatives of `c` alone still fills the content, if it does
so at `c`. -/
theorem Fills.change {names' : List String} (hf : Fills .strict m cs names)
    (ho : Ordered m cs names')
    (hsame : ∀ i ∈ cs, i ≠ c → i ∉ m.alternatives c → m.tally names' i = m.tally names i)
    (hsingle : m.isInChoice c = false → (m.occurs c).contains (m.tally names' c) = true)
    (hchoice : m.isInChoice c = true →
      (∃ k ∈ m.alternatives c, m.tally names' k ≠ 0 ∧
        (m.occurs k).contains (m.tally names' k) = true ∧
        ∀ l ∈ m.alternatives c, l ≠ k → m.tally names' l = 0) ∨
      ((∀ k ∈ m.alternatives c, m.tally names' k = 0) ∧ Excuse.strict m cs names' c)) :
    Fills .strict m cs names' := by
  refine ⟨(inOrder_iff hc.nodup_names).mpr ho, ?_, ?_⟩
  · intro i hi hin
    by_cases hic : i = c
    · rw [hic] at hin ⊢
      exact hsingle hin
    · rw [hsame i hi hic]
      · exact hf.single i hi hin
      · -- what stands in no choice is no alternative of anything
        intro hia
        rw [isInChoice_of_mem_alternatives (hc.mem_alternatives_comm hm hcs hia)] at hin
        simp at hin
  · intro i hi hin
    by_cases hia : i ∈ m.alternatives c
    · -- all alternatives of a choice ask the same of the names
      rw [Excuse.strict, hm.alternatives_congr hia]
      exact hchoice (isInChoice_of_mem_alternatives hia)
    · refine hf.choice_congr hi hin fun k hk => ?_
      refine hsame k (hc.alternatives_mem i hi k hk)
        (ne_of_mem_alternatives hm hc hcs hi hia hk) ?_
      intro hkc
      have hself := hc.mem_alternatives i hi hin
      rw [← hm.alternatives_congr hk, hm.alternatives_congr hkc] at hself
      exact hia hself

/-- One more element of `c` still fills the content, if there may be one more and no alternative is
there. -/
theorem Fills.insert (hf : Fills .strict m cs (xs ++ ys)) (ho : Ordered m cs (xs ++ m.name c :: ys))
    (hmore : (m.occurs c).contains (m.tally (xs ++ ys) c + 1) = true)
    (halone : ∀ k ∈ m.alternatives c, k ≠ c → m.tally (xs ++ ys) k = 0) :
    Fills .strict m cs (xs ++ m.name c :: ys) := by
  have hself := tally_insert_self hc hcs xs ys
  have hsame : ∀ i ∈ cs, i ≠ c → m.tally (xs ++ m.name c :: ys) i = m.tally (xs ++ ys) i :=
    fun i hi hne => tally_insert_of_ne hc hcs hi hne xs ys
  rw [← hself] at hmore
  refine hf.change hm hc hcs ho (fun i hi hne _ => hsame i hi hne) (fun _ => hmore) ?_
  intro hin
  refine Or.inl ⟨c, hc.mem_alternatives c hcs hin, by omega, hmore, ?_⟩
  intro l hl hne
  rw [hsame l (hc.alternatives_mem c hcs l hl) hne]
  exact halone l hl hne

/-- One element of `c` less still fills the content, if there were more than there have to be. -/
theorem Fills.erase (hf : Fills .strict m cs (xs ++ m.name c :: ys))
    (hfewer : (m.occurs c).min < m.tally (xs ++ m.name c :: ys) c) :
    Fills .strict m cs (xs ++ ys) := by
  have hself := tally_insert_self hc hcs xs ys
  have hsame : ∀ i ∈ cs, i ≠ c → m.tally (xs ++ ys) i = m.tally (xs ++ m.name c :: ys) i :=
    fun i hi hne => (tally_insert_of_ne hc hcs hi hne xs ys).symm
  have hpresent : m.tally (xs ++ m.name c :: ys) c ≠ 0 := by omega
  have hless : (m.occurs c).contains (m.tally (xs ++ ys) c) = true := by
    have hcon := Occurs.contains_iff.mp (hf.contains hc hcs hpresent)
    rw [hself] at hcon hfewer
    exact Occurs.contains_iff.mpr ⟨by omega, fun n hn => by have := hcon.2 n hn; omega⟩
  have hother : ∀ l ∈ m.alternatives c, l ≠ c → m.tally (xs ++ ys) l = 0 := by
    intro l hl hne
    rw [hsame l (hc.alternatives_mem c hcs l hl) hne]
    exact hf.alone hc hcs hl hne hpresent
  have ho := ((inOrder_iff hc.nodup_names).mp hf.inOrder).sublist
    (by simp : (xs ++ ys).Sublist (xs ++ m.name c :: ys))
  refine hf.change hm hc hcs ho (fun i hi hne _ => hsame i hi hne) (fun _ => hless) ?_
  intro hin
  have hci := hc.mem_alternatives c hcs hin
  -- if that was the last one, then nothing has to be there of `c` itself
  by_cases hzero : m.tally (xs ++ ys) c = 0
  · refine Or.inr ⟨?_, c, hci, by omega⟩
    intro k hk
    by_cases hkc : k = c
    · rw [hkc, hzero]
    · exact hother k hk hkc
  · exact Or.inl ⟨c, hci, hzero, hless, hother⟩

section Swap

variable {a : ConstraintId} (ha : a ∈ m.alternatives c) (hne : a ≠ c)

include ha

/-- Once the last alternative is gone, another one can come to its place. -/
theorem Ordered.swap (ho : Ordered m cs (xs ++ m.name c :: ys))
    (hnone : ∀ l ∈ m.alternatives c, m.tally (xs ++ ys) l = 0) :
    Ordered m cs (xs ++ m.name a :: ys) := by
  have hself := hc.self_mem_alternatives hcs ha
  have hacs := hc.alternatives_mem c hcs a ha
  obtain ⟨-, hpys, hpxs⟩ := List.pairwise_append.mp ho.pairwise
  have hrest := ho.sublist (by simp : (xs ++ ys).Sublist (xs ++ m.name c :: ys))
  -- what else is there belongs to no alternative
  have hother : ∀ n ∈ xs ++ ys, ∃ k ∈ cs, m.name k = n ∧ k ∉ m.alternatives c := by
    intro n hn
    obtain ⟨k, hk, rfl⟩ := List.mem_map.mp (hrest.known n hn)
    refine ⟨k, hk, rfl, ?_⟩
    intro hka
    exact List.count_eq_zero.mp (hnone k hka) hn
  refine hrest.insert (List.mem_map_of_mem hacs) ?_ ?_
  · intro n hn
    obtain ⟨k, hk, rfl, hout⟩ := hother n (List.mem_append_left _ hn)
    exact place_le_of_alternatives hm hc hcs ha hk hout (hpxs _ hn _ (List.mem_cons_self ..))
  · intro n hn
    obtain ⟨k, hk, rfl, hout⟩ := hother n (List.mem_append_right _ hn)
    have hle := (List.pairwise_cons.mp hpys).1 _ hn
    by_contra hlt
    have hback := place_le_of_alternatives hm hc hacs (hc.mem_alternatives_comm hm hcs ha) hk
      (by rwa [hm.alternatives_congr ha]) (by omega)
    obtain rfl := hc.name_inj hcs hk (place_inj (List.mem_map_of_mem hcs) (by omega))
    exact hout hself

include hne

/-- An element of another alternative fills the place of an element of `c` exactly if that was the
only one and there may be one of the other alternative. -/
theorem Fills.swap_iff (hf : Fills .strict m cs (xs ++ m.name c :: ys)) :
    Fills .strict m cs (xs ++ m.name a :: ys) ↔
      m.tally (xs ++ m.name c :: ys) c = 1 ∧ (m.occurs a).contains 1 = true := by
  have hacs := hc.alternatives_mem c hcs a ha
  have hold := tally_insert_self hc hcs xs ys
  have hnew := tally_insert_self hc hacs xs ys
  have hsame : ∀ i ∈ cs, i ≠ c → m.tally (xs ++ m.name c :: ys) i = m.tally (xs ++ ys) i :=
    fun i hi hic => tally_insert_of_ne hc hcs hi hic xs ys
  have hsame' : ∀ i ∈ cs, i ≠ a → m.tally (xs ++ m.name a :: ys) i = m.tally (xs ++ ys) i :=
    fun i hi hia => tally_insert_of_ne hc hacs hi hia xs ys
  have hpresent : m.tally (xs ++ m.name c :: ys) c ≠ 0 := by omega
  -- while the old element is there, no other alternative is
  have hothers : ∀ l ∈ m.alternatives c, l ≠ c → m.tally (xs ++ ys) l = 0 := by
    intro l hl hlc
    rw [← hsame l (hc.alternatives_mem c hcs l hl) hlc]
    exact hf.alone hc hcs hl hlc hpresent
  have hzero := hothers a ha hne
  constructor
  · -- both alternatives would be there if the old element were not the last one
    intro hf'
    have hgone := hf'.alone hc hacs (hc.mem_alternatives_comm hm hcs ha) hne.symm (by omega)
    rw [hsame' c hcs hne.symm] at hgone
    have hcon := hf'.contains hc hacs (by omega)
    rw [hnew, hzero] at hcon
    exact ⟨by omega, hcon⟩
  · rintro ⟨hone, hcon⟩
    have hnone : ∀ l ∈ m.alternatives c, m.tally (xs ++ ys) l = 0 := by
      intro l hl
      by_cases hlc : l = c
      · rw [hlc]
        omega
      · exact hothers l hl hlc
    have ho := Ordered.swap hm hc hcs ha ((inOrder_iff hc.nodup_names).mp hf.inOrder) hnone
    refine hf.change hm hc hcs ho ?_ ?_ ?_
    · intro i hi hic hia
      have hne' : i ≠ a := fun h => hia (h ▸ ha)
      rw [hsame' i hi hne', hsame i hi hic]
    · intro hin
      rw [isInChoice_of_mem_alternatives ha] at hin
      simp at hin
    · intro _
      refine Or.inl ⟨a, ha, by omega, by rw [hnew, hzero]; exact hcon, ?_⟩
      intro l hl hla
      rw [hsame' l (hc.alternatives_mem c hcs l hl) hla]
      exact hnone l hl

end Swap

end Changes

end GuidedXml.Schema.ContentModel
